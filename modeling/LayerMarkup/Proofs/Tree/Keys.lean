import LayerMarkup.Tree
import Mathlib.Data.List.Nodup
import Mathlib.Data.List.Lattice
import Mathlib.Data.List.Pairwise

/-!
# Keys and paths in a forest

A key function names the values of a forest, as the ids of elements do.  Where all keys of a forest
are distinct, a key leads into one tree of the forest only (`eq_of_mem_keys`), and a node stands
below one path only (`Stands.unique`).  Replacing every value leaves the shape of a forest as it is:
the values stand in the same order (`forestValues_mapForest`) and below the same paths
(`Stands.map`).

* `forestKeys` — the keys of all values of a forest, with repetitions.
* `Stands` — a tree stands in a forest below a path of values, the outermost first.
* `forest_induction` — a property of child lists that passes from the lists below a list to the list
  itself holds of every list.
-/

namespace LayerMarkup.Tree

variable {α κ : Type} {key : α → κ}

/-- The keys of a tree, in the order of its values. -/
def keys (key : α → κ) (t : Tree α) : List κ := t.values.map key

/-- The keys of a forest, in the order of its values. -/
def forestKeys (key : α → κ) (forest : List (Tree α)) : List κ := (forestValues forest).map key

@[simp] theorem value_node (v : α) (cs : List (Tree α)) : (node v cs).value = v := rfl

@[simp] theorem children_node (v : α) (cs : List (Tree α)) : (node v cs).children = cs := rfl

@[simp] theorem keys_node (v : α) (cs : List (Tree α)) :
    (node v cs).keys key = key v :: forestKeys key cs := by
  simp [keys, forestKeys, values]

@[simp] theorem forestKeys_nil : forestKeys key [] = [] := rfl

theorem forestKeys_eq_flatMap (forest : List (Tree α)) :
    forestKeys key forest = forest.flatMap (keys key) := by
  rw [forestKeys, forestValues_eq_flatMap, List.map_flatMap]
  rfl

@[simp] theorem forestKeys_append (forest others : List (Tree α)) :
    forestKeys key (forest ++ others) = forestKeys key forest ++ forestKeys key others := by
  simp [forestKeys_eq_flatMap]

@[simp] theorem forestKeys_singleton (t : Tree α) : forestKeys key [t] = t.keys key := by
  simp [forestKeys_eq_flatMap]

theorem forestKeys_cons (t : Tree α) (ts : List (Tree α)) :
    forestKeys key (t :: ts) = t.keys key ++ forestKeys key ts := by
  rw [forestKeys_eq_flatMap, List.flatMap_cons, ← forestKeys_eq_flatMap]

theorem mem_forestKeys {k : κ} {forest : List (Tree α)} :
    k ∈ forestKeys key forest ↔ ∃ t ∈ forest, k ∈ t.keys key := by
  simp [forestKeys_eq_flatMap]

theorem key_mem_keys_node (v : α) (cs : List (Tree α)) : key v ∈ (node v cs).keys key := by
  simp

theorem key_value_mem_keys (t : Tree α) : key t.value ∈ t.keys key := by
  cases t
  simp

theorem value_mem_forestValues {t : Tree α} {forest : List (Tree α)} (ht : t ∈ forest) :
    t.value ∈ forestValues forest := by
  rw [forestValues_eq_flatMap, List.mem_flatMap]
  cases t
  exact ⟨_, ht, List.mem_cons_self⟩

theorem keys_subset_forestKeys {t : Tree α} {forest : List (Tree α)} (ht : t ∈ forest) :
    t.keys key ⊆ forestKeys key forest := by
  intro k hk
  exact mem_forestKeys.mpr ⟨t, ht, hk⟩

mutual

/-- Values replaced by values with the same keys leave the keys of a tree as they are. -/
theorem keys_mapIndexed {β : Type} {f : Nat → α → β} {keyOf : β → κ}
    (hkeys : ∀ index v, keyOf (f index v) = key v) (index : Nat) :
    ∀ t : Tree α, (t.mapIndexed f index).keys keyOf = t.keys key
  | node v cs => by
    rw [mapIndexed, keys_node, keys_node, hkeys, forestKeys_mapIndexedForest hkeys (index + 1) cs]

theorem forestKeys_mapIndexedForest {β : Type} {f : Nat → α → β} {keyOf : β → κ}
    (hkeys : ∀ index v, keyOf (f index v) = key v) (index : Nat) :
    ∀ forest : List (Tree α), forestKeys keyOf (mapIndexedForest f index forest) = forestKeys key forest
  | [] => rfl
  | t :: ts => by
    rw [mapIndexedForest, forestKeys_eq_flatMap, forestKeys_eq_flatMap, List.flatMap_cons,
      List.flatMap_cons, ← forestKeys_eq_flatMap, ← forestKeys_eq_flatMap,
      keys_mapIndexed hkeys index t, forestKeys_mapIndexedForest hkeys (index + t.size) ts]

end

/-- Induction over a forest: a property that passes from the child lists of the trees of a forest to
the forest holds of every forest. -/
theorem forest_induction {P : List (Tree α) → Prop}
    (step : ∀ forest, (∀ t ∈ forest, P t.children) → P forest) (forest : List (Tree α)) :
    P forest := by
  have hchildren : ∀ t : Tree α, P t.children :=
    induction fun _ cs ih => step cs ih
  exact step forest fun t _ => hchildren t

section Distinct

variable {forest : List (Tree α)} (hdistinct : (forestKeys key forest).Nodup)

include hdistinct

theorem nodup_keys_of_mem {t : Tree α} (ht : t ∈ forest) : (t.keys key).Nodup := by
  rw [forestKeys_eq_flatMap, List.nodup_flatMap] at hdistinct
  exact hdistinct.1 t ht

/-- A key leads into one tree of the forest only. -/
theorem eq_of_mem_keys {s t : Tree α} {k : κ} (hs : s ∈ forest) (ht : t ∈ forest)
    (hks : k ∈ s.keys key) (hkt : k ∈ t.keys key) : s = t := by
  rw [forestKeys_eq_flatMap, List.nodup_flatMap] at hdistinct
  by_contra hne
  have hsymm : Std.Symm (Function.onFun List.Disjoint (keys key)) :=
    ⟨fun _ _ h => List.Disjoint.symm h⟩
  exact hdistinct.2.forall hs ht hne hks hkt

theorem nodup_children {v : α} {cs : List (Tree α)} (hmem : node v cs ∈ forest) :
    (forestKeys key cs).Nodup := by
  have hnode := nodup_keys_of_mem hdistinct hmem
  rw [keys_node, List.nodup_cons] at hnode
  exact hnode.2

theorem key_notMem_children {v : α} {cs : List (Tree α)} (hmem : node v cs ∈ forest) :
    key v ∉ forestKeys key cs := by
  have hnode := nodup_keys_of_mem hdistinct hmem
  rw [keys_node, List.nodup_cons] at hnode
  exact hnode.1

theorem nodup_forest : forest.Nodup := by
  rw [forestKeys_eq_flatMap, List.nodup_flatMap] at hdistinct
  refine hdistinct.2.imp ?_
  rintro s _ hdisjoint rfl
  exact hdisjoint (key_value_mem_keys s) (key_value_mem_keys s)

end Distinct

/-- A tree stands in a forest below a path of values, the outermost first. -/
inductive Stands {α : Type} : List (Tree α) → List α → Tree α → Prop
  | root {forest : List (Tree α)} {t : Tree α} (hmem : t ∈ forest) : Stands forest [] t
  | inner {forest : List (Tree α)} {v : α} {cs : List (Tree α)} {path : List α} {t : Tree α}
      (hmem : node v cs ∈ forest) (hstands : Stands cs path t) : Stands forest (v :: path) t

namespace Stands

variable {forest : List (Tree α)} {path : List α} {t : Tree α}

/-- A node stands at a root of the forest, or below one. -/
theorem exists_root (hstands : Stands forest path t) :
    ∃ r ∈ forest, (path = [] ∧ t = r) ∨
      ∃ rest, path = r.value :: rest ∧ Stands r.children rest t := by
  cases hstands with
  | root hmem => exact ⟨t, hmem, .inl ⟨rfl, rfl⟩⟩
  | @inner _ v cs rest _ hmem hbelow => exact ⟨node v cs, hmem, .inr ⟨rest, rfl, hbelow⟩⟩

theorem keys_subset (hstands : Stands forest path t) : t.keys key ⊆ forestKeys key forest := by
  induction hstands with
  | root hmem => exact keys_subset_forestKeys hmem
  | inner hmem _ ih =>
    intro k hk
    refine keys_subset_forestKeys hmem ?_
    rw [keys_node]
    exact List.mem_cons_of_mem _ (ih hk)

theorem key_mem (hstands : Stands forest path t) : key t.value ∈ forestKeys key forest :=
  hstands.keys_subset (key_value_mem_keys t)

/-- The values above a node are values of the forest. -/
theorem key_mem_of_mem_path (hstands : Stands forest path t) {v : α} (hv : v ∈ path) :
    key v ∈ forestKeys key forest := by
  induction hstands with
  | root _ => cases hv
  | @inner _ w cs _ _ hmem _ ih =>
    refine keys_subset_forestKeys hmem ?_
    rw [keys_node]
    rcases List.mem_cons.mp hv with rfl | hv
    · exact List.mem_cons_self
    · exact List.mem_cons_of_mem _ (ih hv)

theorem key_notMem_below (hdistinct : (forestKeys key forest).Nodup) {v : α} {cs : List (Tree α)}
    (hstands : Stands forest path (node v cs)) : key v ∉ forestKeys key cs := by
  generalize ht : node v cs = t at hstands
  induction hstands with
  | root hmem =>
    subst ht
    exact key_notMem_children hdistinct hmem
  | inner hmem _ ih => exact ih (nodup_children hdistinct hmem) ht

/-- Where keys are distinct, a key belongs to one node, which stands below one path. -/
theorem unique (hdistinct : (forestKeys key forest).Nodup) {path' : List α} {t' : Tree α}
    (hstands : Stands forest path t) (hstands' : Stands forest path' t')
    (hkey : key t.value = key t'.value) : path = path' ∧ t = t' := by
  -- A key that is met at a root on one path and inside its tree on the other would occur twice.
  induction hstands generalizing path' with
  | @root _ t hmem =>
    have ht : key t.value ∈ t.keys key := key_value_mem_keys t
    cases hstands' with
    | root hmem' =>
      exact ⟨rfl, eq_of_mem_keys hdistinct hmem hmem' ht (hkey ▸ key_value_mem_keys t')⟩
    | @inner _ v cs _ _ hmem' hbelow =>
      have hinside : key t.value ∈ forestKeys key cs := hkey ▸ hbelow.key_mem
      have hsame : t = node v cs := eq_of_mem_keys hdistinct hmem hmem' ht (by simp [hinside])
      subst hsame
      exact absurd hinside (key_notMem_children hdistinct hmem')
  | @inner _ v cs _ t hmem hbelow ih =>
    have hinside : key t.value ∈ forestKeys key cs := hbelow.key_mem
    cases hstands' with
    | root hmem' =>
      have ht' : key t'.value ∈ t'.keys key := key_value_mem_keys t'
      have hsame : t' = node v cs :=
        eq_of_mem_keys hdistinct hmem' hmem ht' (by simp [← hkey, hinside])
      subst hsame
      exact absurd (hkey ▸ hinside) (key_notMem_children hdistinct hmem)
    | @inner _ w ds _ _ hmem' hbelow' =>
      have hinside' : key t.value ∈ forestKeys key ds := hkey ▸ hbelow'.key_mem
      have hsame : node v cs = node w ds :=
        eq_of_mem_keys (k := key t.value) hdistinct hmem hmem' (by simp [hinside])
          (by simp [hinside'])
      cases hsame
      obtain ⟨rfl, rfl⟩ := ih (nodup_children hdistinct hmem) hbelow' hkey
      exact ⟨rfl, rfl⟩

end Stands

/-! ## Replaced values -/

variable {β : Type}

theorem value_map (f : α → β) (t : Tree α) : (t.map f).value = f t.value := by
  cases t
  rfl

mutual

theorem values_map (f : α → β) : ∀ t : Tree α, (t.map f).values = t.values.map f
  | node v cs => by rw [map, values, values, List.map_cons, forestValues_mapForest f cs]

theorem forestValues_mapForest (f : α → β) : ∀ forest : List (Tree α),
    forestValues (mapForest f forest) = (forestValues forest).map f
  | [] => rfl
  | t :: ts => by
    rw [mapForest, forestValues, forestValues, List.map_append, values_map f t,
      forestValues_mapForest f ts]

end

theorem mapForest_append (f : α → β) (forest others : List (Tree α)) :
    mapForest f (forest ++ others) = mapForest f forest ++ mapForest f others := by
  simp only [mapForest_eq_map, List.map_append]

theorem map_of_fixed {f : α → α} (hfixed : ∀ a, f a = a) (t : Tree α) : t.map f = t := by
  induction t using induction with
  | step v cs ih => rw [map, hfixed, mapForest_eq_map, List.map_congr_left ih, List.map_id']

theorem Stands.map (f : α → β) {forest : List (Tree α)} {path : List α} {t : Tree α}
    (hstands : Stands forest path t) : Stands (mapForest f forest) (path.map f) (t.map f) := by
  induction hstands with
  | root hmem =>
    rw [mapForest_eq_map]
    exact .root (List.mem_map_of_mem hmem)
  | inner hmem _ ih =>
    refine .inner ?_ ih
    rw [mapForest_eq_map]
    exact List.mem_map_of_mem (f := Tree.map f) hmem

end LayerMarkup.Tree
