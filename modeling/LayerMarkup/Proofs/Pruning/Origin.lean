import LayerMarkup.Proofs.Pruning.Outcome
import LayerMarkup.Proofs.Tree.Keys
import Mathlib.Data.List.Perm.Subperm

/-!
# Where the elements of a pruned forest come from

Pruning takes elements from the forest and changes nothing of them but their text and their
children.  It takes each at most as often as it occurs (`forestKeys_core_prune_subperm`), so that
distinct ids stay distinct.

* `mem_forestIds_prune_node` — what a tree of the forest keeps of its ids is decided in this tree.
* `mem_forestIds_sort_inner` — of a node's proper descendants those are left that are left of its
  children, provided that the node lets them through.
-/

namespace LayerMarkup

open LayerMarkup.Tree
open scoped List

/-- The ids of all elements of a forest. -/
def forestIds (forest : List (Tree Element)) : List String := forestKeys Element.id forest

namespace Pruning

/-- All of an element that pruning leaves as it is. -/
def core (e : Element) : Element := { e with text := none }

@[simp] theorem id_core (e : Element) : (core e).id = e.id := rfl

theorem id_eq_of_core_eq {e f : Element} (hcore : core e = core f) : e.id = f.id := by
  rw [← id_core e, hcore, id_core]

theorem core_eq_core_iff {e f : Element} : core e = core f ↔ { f with text := e.text } = e := by
  cases e
  cases f
  simp only [core, Element.mk.injEq]
  tauto

@[simp] theorem keys_core_keep (config : Config) (takesText : Bool) (e : Element)
    (cs pruned : List (Tree Element)) :
    (keep config takesText e cs pruned).keys core = core e :: forestKeys core pruned := by
  simp [keep, core]

theorem forestIds_eq_map_core (forest : List (Tree Element)) :
    forestIds forest = (forestKeys core forest).map Element.id := by
  simp [forestIds, forestKeys, Function.comp_def]

private theorem flatMap_subperm {α β : Type} {f g : α → List β} {l : List α}
    (h : ∀ a ∈ l, f a <+~ g a) : l.flatMap f <+~ l.flatMap g := by
  induction l with
  | nil => exact List.Subperm.refl _
  | cons a l ih =>
    rw [List.flatMap_cons, List.flatMap_cons]
    exact (h a List.mem_cons_self).append (ih fun b hb => h b (List.mem_cons_of_mem _ hb))

theorem isEmptyContainer_keep_iff {config : Config} {e : Element} {cs pruned : List (Tree Element)} :
    isEmptyContainer (keep config true e cs pruned) = true ↔
      pruned = [] ∧ inlineText? config cs = none ∧ e.text = none := by
  cases pruned <;> simp [isEmptyContainer, keep]

/-- A node and what is left of its children, if they were left as they should be. -/
theorem forestKeys_core_sort_subperm {config : Config} {below : Bool} {e : Element}
    {cs : List (Tree Element)}
    (hinner : forestKeys core (prune config (below || isComponent e) cs) <+~ forestKeys core cs) :
    forestKeys core (sort config below (.node e cs)).all <+~ (node e cs).keys core := by
  rw [keys_node]
  cases sort_outcome config below e cs with
  | dropped _ hs => simp [hs, Sorted.all]
  | promoted _ _ hs =>
    rw [hs, Sorted.all, List.nil_append]
    exact hinner.cons_right _
  | component _ _ _ _ hs =>
    rw [hs, Sorted.all, List.append_nil, forestKeys_singleton, keys_core_keep, List.subperm_cons]
    exact hinner
  | container _ _ _ hs =>
    rw [hs, Sorted.all, List.append_nil, forestKeys_singleton, keys_core_keep, List.subperm_cons]
    exact hinner
  | emptied _ _ _ _ hs => simp [hs, Sorted.all]

/-- The pruned forest holds elements of the forest, none more often than the forest does. -/
theorem forestKeys_core_prune_subperm (config : Config) (below : Bool)
    (forest : List (Tree Element)) :
    forestKeys core (prune config below forest) <+~ forestKeys core forest := by
  induction forest using forest_induction generalizing below with
  | step forest ih =>
    -- Sorting kept trees from promoted ones does not change how often a key occurs.
    have hsplit : forestKeys core (prune config below forest) =
        (forest.flatMap fun t => forestKeys core (sort config below t).kept) ++
          forest.flatMap fun t => forestKeys core (sort config below t).promoted := by
      simp only [prune, Sorted.all, kept_sortForest, promoted_sortForest, forestKeys_append]
      simp only [forestKeys_eq_flatMap, List.flatMap_assoc]
    have hjoin := List.flatMap_append_perm forest
      (fun t => forestKeys core (sort config below t).kept)
      (fun t => forestKeys core (sort config below t).promoted)
    rw [hsplit, forestKeys_eq_flatMap forest]
    refine hjoin.subperm.trans (flatMap_subperm fun t ht => ?_)
    rw [← forestKeys_append]
    obtain ⟨e, cs⟩ := t
    exact forestKeys_core_sort_subperm (ih _ ht _)

/-- An element that is left is one of the forest, its text aside. -/
theorem exists_core_of_mem_prune {config : Config} {below : Bool} {forest : List (Tree Element)}
    {e : Element} (he : e ∈ forestValues (prune config below forest)) :
    ∃ e' ∈ forestValues forest, core e' = core e :=
  List.mem_map.mp ((forestKeys_core_prune_subperm config below forest).subset
    (List.mem_map_of_mem he))

/-- What is left is live, and a container or a component of the keep role. -/
theorem kept_of_mem_prune {config : Config} {below : Bool} {forest : List (Tree Element)} {e : Element}
    (he : e ∈ forestValues (prune config below forest)) :
    isLive config e = true ∧
      (e.dataType = some .container ∨ e.dataType = some .component ∧ HasKeepRole config e) := by
  induction forest using forest_induction generalizing below with
  | step forest ih =>
    rw [forestValues_eq_flatMap, List.mem_flatMap] at he
    obtain ⟨u, hu, he⟩ := he
    obtain ⟨⟨f, cs⟩, hmem, hu⟩ := mem_prune.mp hu
    cases comesOut_of_mem_sort hu with
    | promoted _ hpruned =>
      have hleft : e ∈ forestValues (prune config (below || isComponent f) cs) := by
        rw [forestValues_eq_flatMap, List.mem_flatMap]
        exact ⟨u, hpruned, he⟩
      exact ih _ hmem hleft
    | component takesText hopen htype hrole hkept =>
      rw [hkept, keep, values, List.mem_cons] at he
      rcases he with rfl | he
      · exact ⟨hopen.live, .inr ⟨htype, hasKeepRole_iff.mpr ⟨takesText, hrole⟩⟩⟩
      · exact ih _ hmem he
    | container hopen htype _ hkept =>
      rw [hkept, keep, values, List.mem_cons] at he
      rcases he with rfl | he
      · exact ⟨hopen.live, .inl htype⟩
      · exact ih _ hmem he

/-- Texts are never left by themselves. -/
theorem dataType_ne_text_of_mem_prune {config : Config} {below : Bool} {forest : List (Tree Element)}
    {e : Element} (he : e ∈ forestValues (prune config below forest)) : e.dataType ≠ some .text := by
  intro htext
  rcases (kept_of_mem_prune he).2 with htype | ⟨htype, -⟩
  · rw [htype] at htext
    cases htext
  · rw [htype] at htext
    cases htext

/-- Where ids are distinct, what is left under the id of an element is this element, its text
aside. -/
theorem core_eq_of_mem_prune {config : Config} {below : Bool} {forest : List (Tree Element)}
    (hids : (forestIds forest).Nodup) {t : Tree Element} (ht : t ∈ forest) {e : Element}
    (he : e ∈ forestValues (prune config below forest)) (hid : e.id = t.value.id) :
    core e = core t.value := by
  obtain ⟨e', he', hcore⟩ := exists_core_of_mem_prune he
  have hid' : e'.id = t.value.id := (id_eq_of_core_eq hcore).trans hid
  have hsame : e' = t.value := List.inj_on_of_nodup_map hids he' (value_mem_forestValues ht) hid'
  rw [← hcore, hsame]

theorem nodup_forestIds_prune (config : Config) (below : Bool) {forest : List (Tree Element)}
    (hids : (forestIds forest).Nodup) : (forestIds (prune config below forest)).Nodup := by
  obtain ⟨taken, hperm, hsublist⟩ := forestKeys_core_prune_subperm config below forest
  rw [forestIds_eq_map_core] at hids ⊢
  exact ((hperm.map Element.id).nodup_iff).1 (hids.sublist (hsublist.map Element.id))

theorem forestIds_prune_subset (config : Config) (below : Bool) (forest : List (Tree Element)) :
    forestIds (prune config below forest) ⊆ forestIds forest := by
  rw [forestIds_eq_map_core, forestIds_eq_map_core]
  exact List.map_subset _ (forestKeys_core_prune_subperm config below forest).subset

theorem forestIds_sort_subset {config : Config} {below : Bool} {t : Tree Element} :
    forestIds (sort config below t).all ⊆ t.keys Element.id := by
  have hone : prune config below [t] = (sort config below t).all := by
    simp [prune, sortForest, Sorted.all]
  have hsubset := forestIds_prune_subset config below [t]
  rwa [hone, forestIds, forestIds, forestKeys_singleton] at hsubset

theorem mem_forestIds_prune {config : Config} {below : Bool} {forest : List (Tree Element)}
    {k : String} :
    k ∈ forestIds (prune config below forest) ↔
      ∃ t ∈ forest, k ∈ forestIds (sort config below t).all := by
  simp only [forestIds, mem_forestKeys, mem_prune]
  constructor
  · rintro ⟨u, ⟨t, ht, hu⟩, hk⟩
    exact ⟨t, ht, u, hu, hk⟩
  · rintro ⟨t, ht, u, hu, hk⟩
    exact ⟨u, ⟨t, ht, hu⟩, hk⟩

/-- Where ids are distinct, it is decided in a tree what is left of its ids. -/
theorem mem_forestIds_prune_node {config : Config} {below : Bool} {forest : List (Tree Element)}
    (hids : (forestIds forest).Nodup) {t : Tree Element} (ht : t ∈ forest) {k : String}
    (hk : k ∈ t.keys Element.id) :
    k ∈ forestIds (prune config below forest) ↔ k ∈ forestIds (sort config below t).all := by
  rw [mem_forestIds_prune]
  constructor
  · rintro ⟨s, hs, hks⟩
    have hsame : s = t := eq_of_mem_keys hids hs ht (forestIds_sort_subset hks) hk
    exact hsame ▸ hks
  · exact fun hkt => ⟨t, ht, hkt⟩

/-- An id that is not found below an element is not found in what is left there either. -/
theorem id_notMem_prune {config : Config} {below : Bool} {forest : List (Tree Element)} {k : String}
    (hfresh : k ∉ forestIds forest) : k ∉ forestIds (prune config below forest) := by
  intro hleft
  exact hfresh (forestIds_prune_subset config below forest hleft)

/-- Below a node those ids are left that are left of its children, if it lets them through. -/
theorem mem_forestIds_sort_inner {config : Config} {below : Bool} {e : Element}
    {cs : List (Tree Element)} {k : String} (hk : k ≠ e.id) :
    k ∈ forestIds (sort config below (.node e cs)).all ↔
      LetsThrough config below [] e ∧
        k ∈ forestIds (prune config (below || isComponent e) cs) := by
  cases sort_outcome config below e cs with
  | dropped hclosed hs => simp [hs, Sorted.all, hclosed, forestIds]
  | promoted hopen _ hs => simp [hs, Sorted.all, hopen]
  | component _ hopen _ _ hs => simp [hs, Sorted.all, hopen, forestIds, keep, hk]
  | container hopen _ _ hs => simp [hs, Sorted.all, hopen, forestIds, keep, hk]
  | emptied _ _ _ hempty hs =>
    -- The element lets everything through, but nothing was left.
    have hnone := (isEmptyContainer_keep_iff.mp hempty).1
    simp [hs, Sorted.all, hnone, forestIds]

end Pruning

end LayerMarkup
