import LayerMarkup.Proofs.Tree.Keys
import LayerMarkup.Proofs.Tree.Replaced
import LayerMarkup.Proofs.Tree.Steps
import Mathlib.Data.List.Perm.Basic

/-!
# Addresses in a forest

Equal nodes may stand in several places of a forest.  A place is told by its address: the position
of its tree among the roots, then the position of every child on the way down to it.  The address of
a node is the beginning of the addresses of all nodes below it.  The number of an address is that of
its node where the nodes of the forest are counted, every node before its children; it tells the
address (`eq_of_forestNumberAt_eq`).

Trees mapped by numbers keep their addresses (`forestAt?_mapIndexedForest`), and a node has its own
step among the steps of the forest, under the number of its address
(`mem_forestSteps_of_forestAt?`).  Without the tree at an address, the forest has lost the keys of
this tree (`forestKeys_perm_eraseAt`).
-/

namespace LayerMarkup.Tree

open scoped List

variable {α β : Type} {forest : List (Tree α)} {s t : Tree α} {a : List Nat}

/-- The tree at an address below a tree.  The tree itself has the empty address. -/
def at? : Tree α → List Nat → Option (Tree α)
  | t, [] => some t
  | t, place :: rest => t.children[place]?.bind fun child => child.at? rest

/-- The tree at an address of a forest. -/
def forestAt? (forest : List (Tree α)) : List Nat → Option (Tree α)
  | [] => none
  | place :: rest => forest[place]?.bind fun t => t.at? rest

/-- How many nodes of a tree come before the node at an address. -/
def numberAt : Tree α → List Nat → Nat
  | _, [] => 0
  | t, place :: rest =>
    1 + forestSize (t.children.take place) + t.children[place]?.elim 0 fun child => child.numberAt rest

/-- How many nodes of a forest come before the node at an address. -/
def forestNumberAt (forest : List (Tree α)) : List Nat → Nat
  | [] => 0
  | place :: rest => forestSize (forest.take place) + forest[place]?.elim 0 fun t => t.numberAt rest

/-- The forest without the tree at an address. -/
def eraseAt : List (Tree α) → List Nat → List (Tree α)
  | forest, [] => forest
  | forest, [place] => forest.eraseIdx place
  | forest, place :: next :: rest =>
    forest.modify place fun t => node t.value (eraseAt t.children (next :: rest))

theorem forestAt?_cons_eq_some_iff {place : Nat} {rest : List Nat} :
    forestAt? forest (place :: rest) = some s ↔ ∃ t, forest[place]? = some t ∧ t.at? rest = some s :=
  Option.bind_eq_some_iff

theorem ne_nil_of_forestAt? (hat : forestAt? forest a = some s) : a ≠ [] := by
  rintro rfl
  cases hat

theorem at?_of_ne_nil (t : Tree α) (ha : a ≠ []) : t.at? a = forestAt? t.children a := by
  cases a with
  | nil => exact absurd rfl ha
  | cons place rest => rfl

theorem at?_append (t : Tree α) (a b : List Nat) :
    t.at? (a ++ b) = (t.at? a).bind fun s => s.at? b := by
  induction a generalizing t with
  | nil => rfl
  | cons place rest ih =>
    rw [List.cons_append, at?, at?, Option.bind_assoc]
    exact Option.bind_congr fun child _ => ih child

/-- Going on from the node at an address leads to the nodes below it. -/
theorem forestAt?_append (hat : forestAt? forest a = some s) {b : List Nat} (hb : b ≠ []) :
    forestAt? forest (a ++ b) = forestAt? s.children b := by
  cases a with
  | nil => cases hat
  | cons place rest =>
    obtain ⟨t, hplace, ht⟩ := forestAt?_cons_eq_some_iff.mp hat
    rw [List.cons_append, forestAt?, hplace, Option.bind_some, at?_append, ht, Option.bind_some,
      at?_of_ne_nil s hb]

section Numbers

variable {f : Nat → α → β}

theorem forestNumberAt_zero_cons (t : Tree α) (ts : List (Tree α)) (rest : List Nat) :
    forestNumberAt (t :: ts) (0 :: rest) = t.numberAt rest :=
  Nat.zero_add _

theorem forestNumberAt_succ_cons (t : Tree α) (ts : List (Tree α)) (place : Nat) (rest : List Nat) :
    forestNumberAt (t :: ts) ((place + 1) :: rest) = t.size + forestNumberAt ts (place :: rest) := by
  rw [forestNumberAt, forestNumberAt, List.take_succ_cons, forestSize, List.getElem?_cons_succ,
    Nat.add_assoc]

theorem numberAt_cons (v : α) (cs : List (Tree α)) (place : Nat) (rest : List Nat) :
    (node v cs).numberAt (place :: rest) = forestNumberAt cs (place :: rest) + 1 := by
  rw [numberAt, forestNumberAt, children_node]
  omega

theorem numberAt_of_forestAt? (v : α) {cs : List (Tree α)} (hat : forestAt? cs a = some s) :
    (node v cs).numberAt a = forestNumberAt cs a + 1 := by
  cases a with
  | nil => cases hat
  | cons place rest => exact numberAt_cons v cs place rest

mutual

theorem numberAt_lt_size : ∀ (t : Tree α) {a : List Nat}, t.at? a = some s → t.numberAt a < t.size
  | node v cs, [], _ => Nat.succ_pos _
  | node v cs, place :: rest, hat => by
    rw [numberAt_cons, size, Nat.add_lt_add_iff_right]
    exact forestNumberAt_lt_forestSize cs hat

theorem forestNumberAt_lt_forestSize : ∀ (forest : List (Tree α)) {a : List Nat},
    forestAt? forest a = some s → forestNumberAt forest a < forestSize forest
  | [], _ :: _, hat => by cases hat
  | t :: ts, 0 :: rest, hat => by
    rw [forestNumberAt_zero_cons, forestSize]
    exact Nat.lt_add_right _ (numberAt_lt_size t hat)
  | t :: ts, (place + 1) :: rest, hat => by
    rw [forestNumberAt_succ_cons, forestSize]
    exact Nat.add_lt_add_left (forestNumberAt_lt_forestSize ts (a := place :: rest) hat) _

end

mutual

theorem eq_of_numberAt_eq : ∀ (t : Tree α) {a b : List Nat} {u w : Tree α}, t.at? a = some u →
    t.at? b = some w → t.numberAt a = t.numberAt b → a = b
  | node v cs, [], [], _, _, _, _, _ => rfl
  | node v cs, [], _ :: _, _, _, _, _, hsame => by
    rw [numberAt_cons] at hsame
    cases hsame
  | node v cs, _ :: _, [], _, _, _, _, hsame => by
    rw [numberAt_cons] at hsame
    cases hsame
  | node v cs, _ :: _, _ :: _, _, _, ha, hb, hsame => by
    rw [numberAt_cons, numberAt_cons, Nat.add_right_cancel_iff] at hsame
    exact eq_of_forestNumberAt_eq cs ha hb hsame

/-- The number of an address tells the address. -/
theorem eq_of_forestNumberAt_eq : ∀ (forest : List (Tree α)) {a b : List Nat} {u w : Tree α},
    forestAt? forest a = some u → forestAt? forest b = some w →
    forestNumberAt forest a = forestNumberAt forest b → a = b
  | [], _ :: _, _, _, _, ha, _, _ => by cases ha
  | t :: ts, 0 :: rest, 0 :: rest', _, _, ha, hb, hsame => by
    rw [forestNumberAt_zero_cons, forestNumberAt_zero_cons] at hsame
    rw [eq_of_numberAt_eq t ha hb hsame]
  | t :: ts, 0 :: rest, (place + 1) :: rest', _, _, ha, _, hsame => by
    -- The nodes of a tree are counted before those of the trees that follow.
    have hbefore : t.numberAt rest < t.size := numberAt_lt_size t ha
    rw [forestNumberAt_zero_cons, forestNumberAt_succ_cons] at hsame
    omega
  | t :: ts, (place + 1) :: rest, 0 :: rest', _, _, _, hb, hsame => by
    have hbefore : t.numberAt rest' < t.size := numberAt_lt_size t hb
    rw [forestNumberAt_succ_cons, forestNumberAt_zero_cons] at hsame
    omega
  | t :: ts, (place + 1) :: rest, (place' + 1) :: rest', _, _, ha, hb, hsame => by
    rw [forestNumberAt_succ_cons, forestNumberAt_succ_cons, Nat.add_left_cancel_iff] at hsame
    have hrest : place :: rest = place' :: rest' := eq_of_forestNumberAt_eq ts ha hb hsame
    obtain ⟨rfl, rfl⟩ := List.cons.inj hrest
    rfl

end

theorem getElem?_mapIndexedForest (f : Nat → α → β) (index place : Nat) (forest : List (Tree α)) :
    (mapIndexedForest f index forest)[place]? =
      forest[place]?.map fun t => t.mapIndexed f (index + forestSize (forest.take place)) := by
  induction forest generalizing index place with
  | nil => rfl
  | cons t ts ih =>
    cases place with
    | zero => rfl
    | succ place =>
      rw [mapIndexedForest, List.getElem?_cons_succ, List.getElem?_cons_succ, ih, List.take_succ_cons,
        forestSize, Nat.add_assoc]

/-- A tree mapped by numbers has at an address what the tree has there, mapped from its number
on. -/
theorem at?_mapIndexed (index : Nat) (hat : t.at? a = some s) :
    (t.mapIndexed f index).at? a = some (s.mapIndexed f (index + t.numberAt a)) := by
  induction a generalizing t index with
  | nil =>
    cases hat
    rfl
  | cons place rest ih =>
    obtain ⟨v, cs⟩ := t
    obtain ⟨child, hplace, hrest⟩ := forestAt?_cons_eq_some_iff.mp hat
    rw [children_node] at hplace
    rw [mapIndexed, at?, children_node, getElem?_mapIndexedForest, hplace, Option.map_some,
      Option.bind_some, ih _ hrest, numberAt, children_node, hplace, Option.elim_some]
    simp only [Nat.add_assoc]

theorem forestAt?_mapIndexedForest (index : Nat) (hat : forestAt? forest a = some s) :
    forestAt? (mapIndexedForest f index forest) a =
      some (s.mapIndexed f (index + forestNumberAt forest a)) := by
  cases a with
  | nil => cases hat
  | cons place rest =>
    obtain ⟨t, hplace, hrest⟩ := forestAt?_cons_eq_some_iff.mp hat
    rw [forestAt?, getElem?_mapIndexedForest, hplace, Option.map_some, Option.bind_some,
      at?_mapIndexed _ hrest, forestNumberAt, hplace, Option.elim_some, Nat.add_assoc]

theorem steps_subset_forestSteps {place : Nat} (hplace : forest[place]? = some t) (depth index : Nat) :
    t.steps depth (index + forestSize (forest.take place)) ⊆ forestSteps depth index forest := by
  induction forest generalizing index place with
  | nil => cases hplace
  | cons first ts ih =>
    rw [forestSteps]
    cases place with
    | zero =>
      cases hplace
      exact List.subset_append_left _ _
    | succ place =>
      rw [List.take_succ_cons, forestSize, ← Nat.add_assoc]
      exact List.subset_append_of_subset_right _ (ih hplace (index + first.size))

theorem mem_steps_of_at? (hat : t.at? a = some s) (depth index : Nat) :
    ⟨s.turn (depth + a.length) (index + t.numberAt a), s⟩ ∈ t.steps depth index := by
  induction a generalizing t depth index with
  | nil =>
    cases hat
    cases s
    exact List.mem_cons_self
  | cons place rest ih =>
    obtain ⟨v, cs⟩ := t
    obtain ⟨child, hplace, hrest⟩ := forestAt?_cons_eq_some_iff.mp hat
    rw [children_node] at hplace
    have hbelow := steps_subset_forestSteps hplace (depth + 1) (index + 1) (ih hrest _ _)
    rw [steps, numberAt, children_node, hplace, Option.elim_some, List.length_cons]
    refine List.mem_cons_of_mem _ ?_
    have hdepth : depth + (rest.length + 1) = depth + 1 + rest.length := by omega
    have hnumber : index + (1 + forestSize (cs.take place) + child.numberAt rest) =
        index + 1 + forestSize (cs.take place) + child.numberAt rest := by omega
    rw [hdepth, hnumber]
    exact hbelow

/-- The node at an address has a step of its own, under the number of the address. -/
theorem mem_forestSteps_of_forestAt? (hat : forestAt? forest a = some s) :
    ∃ depth, ⟨s.turn depth (forestNumberAt forest a), s⟩ ∈ forestSteps 0 0 forest := by
  cases a with
  | nil => cases hat
  | cons place rest =>
    obtain ⟨t, hplace, hrest⟩ := forestAt?_cons_eq_some_iff.mp hat
    have hstep := steps_subset_forestSteps hplace 0 0 (mem_steps_of_at? hrest _ _)
    rw [forestNumberAt, hplace, Option.elim_some]
    exact ⟨_, by simpa only [Nat.zero_add] using hstep⟩

end Numbers

section Erased

theorem eraseAt_succ_cons (t : Tree α) (ts : List (Tree α)) (place : Nat) (rest : List Nat) :
    eraseAt (t :: ts) ((place + 1) :: rest) = t :: eraseAt ts (place :: rest) := by
  cases rest <;> rfl

/-- Without the tree at an address a forest has lost the keys of this tree, and no others. -/
theorem forestKeys_perm_eraseAt {κ : Type} (key : α → κ) : ∀ (forest : List (Tree α)) {a : List Nat},
    forestAt? forest a = some s →
    forestKeys key forest ~ s.keys key ++ forestKeys key (eraseAt forest a)
  | [], _ :: _, hat => by cases hat
  | t :: ts, [0], hat => by
    cases hat
    rw [forestKeys_cons]
    exact .rfl
  | node v cs :: ts, 0 :: next :: rest, hat => by
    have hbelow : forestKeys key cs ~ s.keys key ++ forestKeys key (eraseAt cs (next :: rest)) :=
      forestKeys_perm_eraseAt key cs hat
    have herase : eraseAt (node v cs :: ts) (0 :: next :: rest) =
        node v (eraseAt cs (next :: rest)) :: ts := rfl
    rw [herase, forestKeys_cons, forestKeys_cons, keys_node, keys_node, ← List.append_assoc]
    exact ((hbelow.cons (key v)).trans List.perm_middle.symm).append_right _
  | t :: ts, (place + 1) :: rest, hat => by
    have hlater : forestKeys key ts ~ s.keys key ++ forestKeys key (eraseAt ts (place :: rest)) :=
      forestKeys_perm_eraseAt key ts hat
    rw [eraseAt_succ_cons, forestKeys_cons, forestKeys_cons]
    exact (hlater.append_left (t.keys key)).trans (List.perm_append_comm_assoc _ _ _)

/-- A reading that skips a tree wherever it comes reads the same if the tree is taken out. -/
theorem Replaced.Reading.eraseAt_eq {γ δ : Type} {readTree : Tree α → γ}
    {readForest : List (Tree α) → δ} (hreading : Replaced.Reading readTree readForest)
    (hskips : ∀ ts, readForest (s :: ts) = readForest ts) :
    ∀ (forest : List (Tree α)) {a : List Nat}, forestAt? forest a = some s →
      readForest (eraseAt forest a) = readForest forest
  | [], _ :: _, hat => by cases hat
  | t :: ts, [0], hat => by
    cases hat
    exact (hskips ts).symm
  | .node v cs :: ts, 0 :: next :: rest, hat =>
    hreading.cons (hreading.node v (eraseAt_eq hreading hskips cs hat)) rfl
  | t :: ts, (place + 1) :: rest, hat => by
    rw [eraseAt_succ_cons]
    exact hreading.cons rfl (eraseAt_eq hreading hskips ts hat)

end Erased

end LayerMarkup.Tree
