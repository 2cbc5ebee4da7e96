import LayerMarkup.Proofs.Pruning.Settled

/-!
# Wrappers among siblings

A wrapper is an element whose children take its place.  Every tree of a forest is pruned by itself,
and what is left of it goes to the promoted trees as a whole if it is a wrapper, and to the kept
ones if it is not.  So a forest is pruned tree by tree, the wrappers after all others
(`prune_eq_flatMap`).
-/

namespace LayerMarkup.Pruning

open LayerMarkup.Tree

variable {config : Config} {below : Bool} {forest : List (Tree Element)}

/-- The element is live and stands for what it holds: it plays no part in the markup, or is a
component that is promoted. -/
def IsWrapper (config : Config) (e : Element) : Prop :=
  isLive config e = true ∧
    (e.dataType = none ∨ e.dataType = some .component ∧ HasPromoteRole config e)

instance (config : Config) (e : Element) : Decidable (IsWrapper config e) := instDecidableAnd

theorem kept_sort_of_wrapper {t : Tree Element} (hwrapper : IsWrapper config t.value) :
    (sort config below t).kept = [] := by
  obtain ⟨e, cs⟩ := t
  obtain ⟨-, htype⟩ := hwrapper
  rw [value_node] at htype
  cases sort_outcome config below e cs with
  | dropped _ hs => rw [hs]
  | promoted _ _ hs => rw [hs]
  | component takesText _ hcomponent hrole _ =>
    rcases htype with hnone | ⟨-, hpromote⟩
    · rw [hnone] at hcomponent
      cases hcomponent
    · rw [hasPromoteRole_iff, hrole] at hpromote
      cases hpromote
  | container _ hcontainer _ _ => simp [hcontainer] at htype
  | emptied _ _ _ _ hs => rw [hs]

theorem promoted_sort_of_not_wrapper {t : Tree Element} (hstays : ¬ IsWrapper config t.value) :
    (sort config below t).promoted = [] := by
  obtain ⟨e, cs⟩ := t
  cases sort_outcome config below e cs with
  | dropped _ hs => rw [hs]
  | promoted hopen htype _ => exact absurd ⟨hopen.live, htype.symm⟩ hstays
  | component _ _ _ _ hs => rw [hs]
  | container _ _ _ hs => rw [hs]
  | emptied _ _ _ _ hs => rw [hs]

theorem prune_singleton (t : Tree Element) :
    prune config below [t] = (sort config below t).kept ++ (sort config below t).promoted := by
  simp [prune, sortForest, Sorted.all]

/-- Items that give nothing may be left out. -/
theorem flatMap_filter_of_eq_nil {α β : Type} {f g : α → List β} {p : α → Bool} {l : List α}
    (hsame : ∀ a, p a = true → g a = f a) (hnone : ∀ a, p a = false → f a = []) :
    (l.filter p).flatMap g = l.flatMap f := by
  induction l with
  | nil => rfl
  | cons a l ih =>
    cases hp : p a with
    | true => rw [List.filter_cons_of_pos hp, List.flatMap_cons, List.flatMap_cons, hsame a hp, ih]
    | false =>
      have hskip : ¬ p a = true := by simp [hp]
      rw [List.filter_cons_of_neg hskip, List.flatMap_cons, hnone a hp, ih, List.nil_append]

/-- A forest is pruned tree by tree, its wrappers after all others. -/
theorem prune_eq_flatMap (config : Config) (below : Bool) (forest : List (Tree Element)) :
    prune config below forest =
      (forest.filter (fun t => ¬ IsWrapper config t.value) ++
        forest.filter fun t => IsWrapper config t.value).flatMap fun t => prune config below [t] := by
  rw [List.flatMap_append, prune, Sorted.all, kept_sortForest, promoted_sortForest]
  congr 1
  · refine (flatMap_filter_of_eq_nil (fun t hstays => ?_) fun t hwrapper => ?_).symm
    · rw [prune_singleton, promoted_sort_of_not_wrapper (of_decide_eq_true hstays), List.append_nil]
    · rw [decide_not, Bool.not_eq_false'] at hwrapper
      exact kept_sort_of_wrapper (of_decide_eq_true hwrapper)
  · refine (flatMap_filter_of_eq_nil (fun t hwrapper => ?_) fun t hstays => ?_).symm
    · rw [prune_singleton, kept_sort_of_wrapper (of_decide_eq_true hwrapper), List.nil_append]
    · exact promoted_sort_of_not_wrapper (of_decide_eq_false hstays)

end LayerMarkup.Pruning
