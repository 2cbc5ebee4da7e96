import LayerMarkup.Pruning

/-!
# What becomes of one element

Pruning decides about an element by its own fields, by what stands above it, and for containers by
what is left of its children.  This module says once what the possible outcomes are.

* `HasKeepRole`, `HasPromoteRole`, `HasDropRole` — the roles of components, by name and slot.
* `LetsThrough` — an element lets what stands below it into the pruned forest, if the elements above
  it do.
* `sort_outcome` — the outcome of one element, with all that is known in each case.
* `comesOut_of_mem_sort` — the same from the side of a tree that comes out for the element.
-/

namespace LayerMarkup.Pruning

/-- A template with a slot; or no template, no stand-in, and named as the convention asks. -/
def HasKeepRole (config : Config) (e : Element) : Prop :=
  (config.isTemplateName e.name = true ∧ hasSlot config e = true) ∨
    (config.isTemplateName e.name = false ∧ config.isReferenceName e.name = false ∧
      config.matchesStart e.name = true)

/-- A template without a slot; or no template, but a stand-in for what it holds. -/
def HasPromoteRole (config : Config) (e : Element) : Prop :=
  (config.isTemplateName e.name = true ∧ hasSlot config e = false) ∨
    (config.isTemplateName e.name = false ∧ config.isReferenceName e.name = true)

/-- Any other component. -/
def HasDropRole (config : Config) (e : Element) : Prop :=
  ¬ HasKeepRole config e ∧ ¬ HasPromoteRole config e

instance (config : Config) (e : Element) : Decidable (HasKeepRole config e) := instDecidableOr

instance (config : Config) (e : Element) : Decidable (HasPromoteRole config e) := instDecidableOr

instance (config : Config) (e : Element) : Decidable (HasDropRole config e) := instDecidableAnd

theorem hasKeepRole_iff {config : Config} {e : Element} :
    HasKeepRole config e ↔ ∃ takesText, role config e = .keep takesText := by
  unfold HasKeepRole role
  cases config.isTemplateName e.name <;> cases hasSlot config e <;>
    cases config.isReferenceName e.name <;> cases config.matchesStart e.name <;> simp

theorem hasPromoteRole_iff {config : Config} {e : Element} :
    HasPromoteRole config e ↔ role config e = .promote := by
  unfold HasPromoteRole role
  cases config.isTemplateName e.name <;> cases hasSlot config e <;>
    cases config.isReferenceName e.name <;> cases config.matchesStart e.name <;> simp

theorem hasDropRole_iff {config : Config} {e : Element} :
    HasDropRole config e ↔ role config e = .drop := by
  rw [HasDropRole, hasKeepRole_iff, hasPromoteRole_iff]
  cases role config e <;> simp

/-- The element is a component. -/
def isComponent (e : Element) : Bool := e.dataType = some .component

theorem isComponent_eq_false {e : Element} :
    isComponent e = false ↔ e.dataType ≠ some .component := by
  simp [isComponent]

/-- An element, with the given ones above it, lets what stands below it through: it is live, no text
and no component of the drop role, and outside of components unless it is one itself. -/
structure LetsThrough (config : Config) (below : Bool) (above : List Element) (e : Element) :
    Prop where
  live : isLive config e = true
  not_text : e.dataType ≠ some .text
  not_dropped : e.dataType = some .component → ¬ HasDropRole config e
  outside : e.dataType = some .container ∨ e.dataType = none →
    below = false ∧ ∀ a ∈ above, a.dataType ≠ some .component

/-- What becomes of an element, where `pruned` is what is left of its children. -/
inductive Outcome (config : Config) (below : Bool) (e : Element) (cs pruned : List (Tree Element))
    (s : Sorted) : Prop
  | dropped (hclosed : ¬ LetsThrough config below [] e) (hs : s = {})
  | promoted (hopen : LetsThrough config below [] e)
      (htype : e.dataType = some .component ∧ HasPromoteRole config e ∨ e.dataType = none)
      (hs : s = { promoted := pruned })
  | component (takesText : Bool) (hopen : LetsThrough config below [] e)
      (htype : e.dataType = some .component) (hrole : role config e = .keep takesText)
      (hs : s = { kept := [keep config takesText e cs pruned] })
  | container (hopen : LetsThrough config below [] e) (htype : e.dataType = some .container)
      (hfull : config.keepEmptyContainers = true ∨
        isEmptyContainer (keep config true e cs pruned) = false)
      (hs : s = { kept := [keep config true e cs pruned] })
  | emptied (hopen : LetsThrough config below [] e) (htype : e.dataType = some .container)
      (hoption : config.keepEmptyContainers = false)
      (hempty : isEmptyContainer (keep config true e cs pruned) = true) (hs : s = {})

section Live

variable {config : Config} {below : Bool} {e : Element} {cs : List (Tree Element)}
  (hlive : isLive config e = true)

include hlive

theorem outcome_of_untyped (htype : e.dataType = none) :
    Outcome config below e cs (prune config (below || isComponent e) cs)
      (sort config below (.node e cs)) := by
  have hflag : isComponent e = false := by simp [isComponent, htype]
  cases below with
  | false =>
    have hopen : LetsThrough config false [] e :=
      ⟨hlive, by simp [htype], by simp [htype], by simp⟩
    refine .promoted hopen (.inr htype) ?_
    simp [sort, hlive, htype, hflag, prune]
  | true =>
    refine .dropped ?_ (by simp [sort, hlive, htype])
    intro hopen
    have hbelow := (hopen.outside (.inr htype)).1
    cases hbelow

theorem outcome_of_container (htype : e.dataType = some .container) :
    Outcome config below e cs (prune config (below || isComponent e) cs)
      (sort config below (.node e cs)) := by
  have hflag : isComponent e = false := by simp [isComponent, htype]
  rw [hflag, Bool.or_false]
  cases below with
  | true =>
    refine .dropped ?_ (by simp [sort, hlive, htype])
    intro hopen
    have hbelow := (hopen.outside (.inl htype)).1
    cases hbelow
  | false =>
    have hopen : LetsThrough config false [] e :=
      ⟨hlive, by simp [htype], by simp [htype], by simp⟩
    by_cases hempty : isEmptyContainer (keep config true e cs (prune config false cs)) = true
    · -- Even an empty container stays if the configuration says so.
      cases hoption : config.keepEmptyContainers with
      | false =>
        refine .emptied hopen htype hoption hempty ?_
        simp only [prune] at hempty
        simp [sort, hlive, htype, hempty, hoption]
      | true =>
        refine .container hopen htype (.inl hoption) ?_
        simp [sort, hlive, htype, hoption, prune]
    · rw [Bool.not_eq_true] at hempty
      refine .container hopen htype (.inr hempty) ?_
      simp only [prune] at hempty
      simp [sort, hlive, htype, hempty, prune]

theorem outcome_of_component (htype : e.dataType = some .component) :
    Outcome config below e cs (prune config (below || isComponent e) cs)
      (sort config below (.node e cs)) := by
  have hflag : isComponent e = true := by simp [isComponent, htype]
  rw [hflag, Bool.or_true]
  -- A component lets through what stands below it wherever it stands itself.
  have hopen : role config e ≠ .drop → LetsThrough config below [] e := by
    intro hrole
    have hstays : ¬ HasDropRole config e := fun hdrop => hrole (hasDropRole_iff.mp hdrop)
    exact ⟨hlive, by simp [htype], fun _ => hstays, by simp [htype]⟩
  cases hrole : role config e with
  | keep takesText =>
    refine .component takesText (hopen (by simp [hrole])) htype hrole ?_
    simp [sort, hlive, htype, hrole, prune]
  | promote =>
    have hpromote : HasPromoteRole config e := hasPromoteRole_iff.mpr hrole
    refine .promoted (hopen (by simp [hrole])) (.inl ⟨htype, hpromote⟩) ?_
    simp [sort, hlive, htype, hrole, prune]
  | drop =>
    refine .dropped ?_ (by simp [sort, hlive, htype, hrole])
    intro hthrough
    exact hthrough.not_dropped htype (hasDropRole_iff.mpr hrole)

end Live

/-- The outcome of an element, by what it is. -/
theorem sort_outcome (config : Config) (below : Bool) (e : Element) (cs : List (Tree Element)) :
    Outcome config below e cs (prune config (below || isComponent e) cs)
      (sort config below (.node e cs)) := by
  by_cases hlive : isLive config e = true
  · cases htype : e.dataType with
    | none => exact outcome_of_untyped hlive htype
    | some part =>
      cases part with
      | component => exact outcome_of_component hlive htype
      | container => exact outcome_of_container hlive htype
      | text =>
        refine .dropped ?_ (by simp [sort, hlive, htype])
        intro hopen
        exact hopen.not_text htype
  · refine .dropped ?_ (by simp [sort, hlive])
    intro hopen
    exact hlive hopen.live

/-- How a tree may come out for an element, where `pruned` is what is left of its children: it is
one of these, or the element itself. -/
inductive ComesOut (config : Config) (below : Bool) (e : Element) (cs pruned : List (Tree Element))
    (u : Tree Element) : Prop
  | promoted (hopen : LetsThrough config below [] e) (hmem : u ∈ pruned)
  | component (takesText : Bool) (hopen : LetsThrough config below [] e)
      (htype : e.dataType = some .component) (hrole : role config e = .keep takesText)
      (hkept : u = keep config takesText e cs pruned)
  | container (hopen : LetsThrough config below [] e) (htype : e.dataType = some .container)
      (hfull : config.keepEmptyContainers = true ∨
        isEmptyContainer (keep config true e cs pruned) = false)
      (hkept : u = keep config true e cs pruned)

theorem comesOut_of_mem_sort {config : Config} {below : Bool} {e : Element} {cs : List (Tree Element)}
    {u : Tree Element} (hu : u ∈ (sort config below (.node e cs)).all) :
    ComesOut config below e cs (prune config (below || isComponent e) cs) u := by
  cases sort_outcome config below e cs with
  | dropped _ hs => simp [hs, Sorted.all] at hu
  | promoted hopen _ hs => exact .promoted hopen (by simpa [hs, Sorted.all] using hu)
  | component takesText hopen htype hrole hs =>
    exact .component takesText hopen htype hrole (by simpa [hs, Sorted.all] using hu)
  | container hopen htype hfull hs =>
    exact .container hopen htype hfull (by simpa [hs, Sorted.all] using hu)
  | emptied _ _ _ _ hs => simp [hs, Sorted.all] at hu

/-- The trees that are left come out for the trees of the forest, each for itself. -/
theorem mem_prune {config : Config} {below : Bool} {forest : List (Tree Element)}
    {u : Tree Element} :
    u ∈ prune config below forest ↔ ∃ t ∈ forest, u ∈ (sort config below t).all := by
  simp only [prune, Sorted.all, kept_sortForest, promoted_sortForest, List.mem_append,
    List.mem_flatMap]
  constructor
  · rintro (⟨t, ht, hu⟩ | ⟨t, ht, hu⟩)
    · exact ⟨t, ht, .inl hu⟩
    · exact ⟨t, ht, .inr hu⟩
  · rintro ⟨t, ht, hu | hu⟩
    · exact .inl ⟨t, ht, hu⟩
    · exact .inr ⟨t, ht, hu⟩

end LayerMarkup.Pruning
