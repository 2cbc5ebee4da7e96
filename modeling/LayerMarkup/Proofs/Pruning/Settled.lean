import LayerMarkup.Proofs.Pruning.Outcome
import LayerMarkup.Proofs.Tree.Keys

/-!
# Pruning settles a forest

What pruning leaves is not pruned further: every tree that is left would be kept as it is, with the
children and the text that it has (`isSettled_of_mem_prune`).

The first pruning may change just what the second one looks at.  The children that held texts are
gone, so an element must not be asked for their texts again (`keep_again`).  Trees promoted out of a
component stand outside of it afterwards, but they are components themselves, and these are treated
alike wherever they stand.
-/

namespace LayerMarkup.Pruning

open LayerMarkup.Tree

variable {config : Config} {below again : Bool} {e : Element} {cs pruned : List (Tree Element)}

/-- Pruning keeps the tree, and keeps it as it is. -/
def IsSettled (config : Config) (below : Bool) (u : Tree Element) : Prop :=
  sort config below u = { kept := [u] }

theorem prune_eq_self_of_isSettled {forest : List (Tree Element)}
    (hsettled : ∀ u ∈ forest, IsSettled config below u) : prune config below forest = forest := by
  induction forest with
  | nil => rfl
  | cons u us ih =>
    have hu : sort config below u = { kept := [u] } := hsettled u List.mem_cons_self
    have hus : prune config below us = us := ih fun v hv => hsettled v (List.mem_cons_of_mem _ hv)
    rw [prune, Sorted.all] at hus ⊢
    rw [sortForest, hu, List.append_assoc, List.nil_append, hus, List.singleton_append]

/-- An element that was kept takes no further text when it is kept again. -/
theorem keep_again (takesText : Bool) :
    keep config takesText (keep config takesText e cs pruned).value pruned pruned =
      keep config takesText e cs pruned := by
  cases pruned with
  | nil => cases takesText <;> simp [keep, inlineText?]
  | cons u us => simp [keep]

theorem isSettled_keep_component {takesText : Bool} (hlive : isLive config e = true)
    (htype : e.dataType = some .component) (hrole : role config e = .keep takesText)
    (hpruned : prune config true pruned = pruned) :
    IsSettled config again (keep config takesText e cs pruned) := by
  -- Being live and having a role do not depend on the text, so the element is kept once more.
  let kept := (keep config takesText e cs pruned).value
  have hlive' : isLive config kept = true := hlive
  have htype' : kept.dataType = some .component := htype
  have hrole' : role config kept = .keep takesText := hrole
  show sort config again (.node kept pruned) = _
  rw [prune] at hpruned
  simp only [sort, hlive', htype', hrole', hpruned, if_true]
  rw [keep_again]

theorem isSettled_keep_container (hlive : isLive config e = true)
    (htype : e.dataType = some .container)
    (hfull : config.keepEmptyContainers = true ∨
      isEmptyContainer (keep config true e cs pruned) = false)
    (hpruned : prune config false pruned = pruned) :
    IsSettled config false (keep config true e cs pruned) := by
  let kept := (keep config true e cs pruned).value
  have hlive' : isLive config kept = true := hlive
  have htype' : kept.dataType = some .container := htype
  show sort config false (.node kept pruned) = _
  rw [prune] at hpruned
  simp only [sort, hlive', htype', hpruned, if_true]
  rw [keep_again]
  rcases hfull with hoption | hfull
  · simp [hoption]
  · simp [hfull]

/-- Every tree that is left is settled, also outside of components if it was left below one. -/
theorem isSettled_of_mem_prune {forest : List (Tree Element)} (hagain : again = true → below = true)
    {u : Tree Element} (hu : u ∈ prune config below forest) : IsSettled config again u := by
  induction forest using forest_induction generalizing below again u with
  | step forest ih =>
    obtain ⟨⟨e, cs⟩, hmem, hu⟩ := mem_prune.mp hu
    -- What is left of the children is settled by induction, under the flag that they were pruned
    -- with.
    have hchildren : ∀ flag : Bool, (flag = true → (below || isComponent e) = true) →
        prune config flag (prune config (below || isComponent e) cs) =
          prune config (below || isComponent e) cs := by
      intro flag hflag
      exact prune_eq_self_of_isSettled fun v hv => ih _ hmem hflag hv
    cases comesOut_of_mem_sort hu with
    | promoted _ hpruned => exact ih _ hmem (fun hflag => by simp [hagain hflag]) hpruned
    | component takesText hopen htype hrole hkept =>
      rw [hkept]
      exact isSettled_keep_component hopen.live htype hrole
        (hchildren true fun _ => by simp [isComponent, htype])
    | container hopen htype hfull hkept =>
      -- A container is only left outside of components, so the second pruning starts there too.
      have hbelow : below = false := (hopen.outside (.inl htype)).1
      have houtside : again = false := by
        cases again with
        | false => rfl
        | true => simp [hbelow] at hagain
      rw [hkept, houtside]
      exact isSettled_keep_container hopen.live htype hfull (hchildren false (by simp))

/-- A forest that was pruned stays as it is when it is pruned again outside of components, and also
below one if that is where it was pruned first. -/
theorem prune_prune (config : Config) (forest : List (Tree Element)) :
    (∀ below, prune config false (prune config below forest) = prune config below forest) ∧
      prune config true (prune config true forest) = prune config true forest := by
  refine ⟨fun below => ?_, ?_⟩
  · exact prune_eq_self_of_isSettled fun u hu => isSettled_of_mem_prune (by simp) hu
  · exact prune_eq_self_of_isSettled fun u hu => isSettled_of_mem_prune (fun _ => rfl) hu

end LayerMarkup.Pruning
