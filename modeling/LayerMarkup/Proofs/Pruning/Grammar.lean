import LayerMarkup.Markup.OfElements
import LayerMarkup.Proofs.Pruning.Origin
import Mathlib.Data.List.Forall2

/-!
# The grammar of a pruned forest

What rendering can rely on.  Every node of a pruned forest is one of the nodes of the forest, each
taken once at most, and stands to it as `Grammatical` says: it is live, a container or a component,
has children or a text but not both, and its text is made of the texts that it held.

Only texts may carry a text before pruning (`TextOnlyInTexts`).  The proof goes from the children of
a node to the node (`leftOf_node`) and from the trees of a forest to the forest (`leftOf_forest`).
-/

namespace LayerMarkup.Pruning

open LayerMarkup.Tree
open scoped List

variable {config : Config} {below : Bool} {e : Element} {cs pruned forest : List (Tree Element)}

/-- Elements that are no texts carry no text. -/
def TextOnlyInTexts (forest : List (Tree Element)) : Prop :=
  ∀ e ∈ forestValues forest, e.text ≠ none → e.dataType = some .text

/-- The texts of live text children, in order, less the empty ones. -/
def heldTexts (config : Config) (cs : List (Tree Element)) : List String :=
  ((cs.filter fun c => c.value.dataType = some .text ∧ isLive config c.value = true).filterMap
    fun c => c.value.text).filter (· ≠ "")

/-- The element may take the texts of its children: it is a container or a template with a slot. -/
def TakesTexts (config : Config) (e : Element) : Prop :=
  e.dataType = some .container ∨
    (e.dataType = some .component ∧ Markup.isSlotTemplate config e = true)

/-- The node `u` of a pruned forest, where `former` is the node that it was before. -/
structure Grammatical (config : Config) (u former : Tree Element) : Prop where
  /-- The element is what it was, its text aside. -/
  unchanged : core u.value = core former.value
  visible : u.value.visible = true
  not_ignored : config.ignoresName u.value.name = false
  part : u.value.dataType = some .container ∨ u.value.dataType = some .component
  /-- Below a component stand components only. -/
  below_component : u.value.dataType = some .component →
    ∀ c ∈ u.children, c.value.dataType = some .component
  /-- Children and a text exclude one another, so no text is lost where the children are shown. -/
  text_or_children : u.children = [] ∨ u.value.text = none
  /-- A text was put together from the texts that the node held. -/
  text_eq : ∀ text, u.value.text = some text → TakesTexts config u.value ∧ u.children = [] ∧
    heldTexts config former.children ≠ [] ∧
      text = Text.joinWith " " (heldTexts config former.children)
  filled : config.keepEmptyContainers = false → u.value.dataType = some .container →
    u.children ≠ [] ∨ u.value.text ≠ none

theorem filterMap_innerText? :
    cs.filterMap (fun c => innerText? config c.value) = heldTexts config cs := by
  have hempty : (fun text : String => !text.isEmpty) = fun text => decide (text ≠ "") := by
    funext text
    by_cases htext : text = "" <;> simp [htext]
  rw [heldTexts, List.filter_filterMap, List.filterMap_filter]
  refine List.filterMap_congr fun c _ => ?_
  by_cases hlive : c.value.dataType = some .text ∧ isLive config c.value = true
  · simp [innerText?, hlive, hempty]
  · simp [innerText?, hlive]

theorem inlineText?_eq_some_iff {text : String} : inlineText? config cs = some text ↔
    heldTexts config cs ≠ [] ∧ text = Text.joinWith " " (heldTexts config cs) := by
  rw [inlineText?, filterMap_innerText?]
  cases heldTexts config cs <;> simp [eq_comm]

theorem isSlotTemplate_of_role (hrole : role config e = .keep true) :
    Markup.isSlotTemplate config e = true := by
  revert hrole
  unfold role Markup.isSlotTemplate
  cases config.isTemplateName e.name <;> cases hasSlot config e <;>
    cases config.isReferenceName e.name <;> cases config.matchesStart e.name <;> simp

/-- Below a component nothing but components is left. -/
theorem dataType_of_mem_prune_below {u : Tree Element} (hu : u ∈ prune config true forest) :
    u.value.dataType = some .component := by
  induction forest using forest_induction generalizing u with
  | step forest ih =>
    obtain ⟨⟨e, cs⟩, hmem, hu⟩ := mem_prune.mp hu
    cases comesOut_of_mem_sort hu with
    | promoted _ hpruned => exact ih _ hmem hpruned
    | component _ _ htype _ hkept =>
      rw [hkept]
      exact htype
    | container hopen htype _ _ =>
      have hbelow := (hopen.outside (.inl htype)).1
      cases hbelow

/-- A kept element without a text of its own, by what it is and what is left of its children. -/
theorem grammatical_keep {takesText : Bool} (hlive : isLive config e = true)
    (htext : e.text = none)
    (htype : e.dataType = some .container ∧ takesText = true ∨
      e.dataType = some .component ∧ role config e = .keep takesText)
    (hbelow : e.dataType = some .component → ∀ c ∈ pruned, c.value.dataType = some .component)
    (hfull : e.dataType = some .container → config.keepEmptyContainers = true ∨
      isEmptyContainer (keep config takesText e cs pruned) = false) :
    Grammatical config (keep config takesText e cs pruned) (.node e cs) := by
  have hfields : e.visible = true ∧ config.ignoresName e.name = false := by
    simpa [isLive] using hlive
  -- All of its text comes from its children, and none if any of them is left.
  have hkept : (keep config takesText e cs pruned).value.text =
      if takesText && pruned.isEmpty then inlineText? config cs else none := by
    simp [keep, htext]
  refine
    { unchanged := rfl
      visible := hfields.1
      not_ignored := hfields.2
      part := htype.imp And.left And.left
      below_component := hbelow
      text_or_children := ?_
      text_eq := ?_
      filled := ?_ }
  · cases pruned with
    | nil => exact .inl rfl
    | cons u us => exact .inr (by simp [hkept])
  · intro text hsome
    rw [hkept] at hsome
    split at hsome
    · rename_i htakes
      rw [Bool.and_eq_true, List.isEmpty_iff] at htakes
      refine ⟨?_, htakes.2, inlineText?_eq_some_iff.mp hsome⟩
      rcases htype with ⟨hcontainer, -⟩ | ⟨hcomponent, hrole⟩
      · exact .inl hcontainer
      · exact .inr ⟨hcomponent, isSlotTemplate_of_role (e := e) (htakes.1 ▸ hrole)⟩
    · cases hsome
  · intro hoption hcontainer
    rcases hfull hcontainer with hkeeps | hfilled
    · simp [hoption] at hkeeps
    · cases pruned with
      | nil =>
        refine .inr fun hnone => ?_
        rw [keep, isEmptyContainer] at hfilled
        simp [keep] at hnone
        simp [hnone] at hfilled
      | cons u us => exact .inl (by simp [keep])

/-- The nodes of the pruned forest come from nodes of the forest, no two from the same, and stand to
them as they should. -/
def LeftOf (config : Config) (forest pruned : List (Tree Element)) : Prop :=
  ∃ formers, formers <+~ forestSubtrees forest ∧
    List.Forall₂ (Grammatical config) (forestSubtrees pruned) formers

theorem leftOf_nil (forest : List (Tree Element)) : LeftOf config forest [] :=
  ⟨[], List.nil_subperm, .nil⟩

/-- Two parts of a forest leave together what each of them leaves. -/
theorem LeftOf.append {others pruned' : List (Tree Element)} (h : LeftOf config forest pruned)
    (h' : LeftOf config others pruned') : LeftOf config (forest ++ others) (pruned ++ pruned') := by
  obtain ⟨formers, hfrom, hmatch⟩ := h
  obtain ⟨formers', hfrom', hmatch'⟩ := h'
  simp only [LeftOf, forestSubtrees_eq_flatMap, List.flatMap_append] at *
  exact ⟨formers ++ formers', hfrom.append hfrom', List.rel_append hmatch hmatch'⟩

/-- The order of the trees does not matter for where their nodes come from. -/
theorem LeftOf.perm {pruned' : List (Tree Element)} (h : LeftOf config forest pruned)
    (hperm : pruned' ~ pruned) : LeftOf config forest pruned' := by
  obtain ⟨formers, hfrom, hmatch⟩ := h
  have hsubtrees : forestSubtrees pruned' ~ forestSubtrees pruned := by
    simp only [forestSubtrees_eq_flatMap]
    exact hperm.flatMap fun _ _ => .refl _
  obtain ⟨formers', hmatch', hperm'⟩ := List.perm_comp_forall₂ hsubtrees hmatch
  exact ⟨formers', hperm'.subperm.trans hfrom, hmatch'⟩

theorem forestSubtrees_node (v : Element) (us : List (Tree Element)) :
    forestSubtrees [node v us] = node v us :: forestSubtrees us := by
  simp [forestSubtrees, subtrees]

/-- What is left of the children of a node is left of the node. -/
theorem LeftOf.of_children (h : LeftOf config cs pruned) : LeftOf config [.node e cs] pruned := by
  obtain ⟨formers, hfrom, hmatch⟩ := h
  refine ⟨formers, ?_, hmatch⟩
  rw [forestSubtrees_node]
  exact hfrom.cons_right _

/-- A node may be left with what is left of its children. -/
theorem LeftOf.node {v : Element} (hnode : Grammatical config (.node v pruned) (.node e cs))
    (h : LeftOf config cs pruned) : LeftOf config [.node e cs] [.node v pruned] := by
  obtain ⟨formers, hfrom, hmatch⟩ := h
  refine ⟨Tree.node e cs :: formers, ?_, ?_⟩
  · rw [forestSubtrees_node, List.subperm_cons]
    exact hfrom
  · rw [forestSubtrees_node]
    exact .cons hnode hmatch

/-- What is left of one tree, given what is left of its children. -/
theorem leftOf_sort (htext : e.text ≠ none → e.dataType = some .text)
    (hinner : LeftOf config cs (prune config (below || isComponent e) cs)) :
    LeftOf config [.node e cs] (sort config below (.node e cs)).all := by
  have hnone : e.dataType ≠ some .text → e.text = none := by
    intro htype
    by_contra hsome
    exact htype (htext hsome)
  cases sort_outcome config below e cs with
  | dropped _ hs => simpa [hs, Sorted.all] using leftOf_nil _
  | promoted _ _ hs =>
    rw [hs, Sorted.all, List.nil_append]
    exact hinner.of_children
  | component takesText hopen htype hrole hs =>
    rw [hs, Sorted.all, List.append_nil]
    refine hinner.node (grammatical_keep hopen.live (hnone hopen.not_text) (.inr ⟨htype, hrole⟩) ?_ ?_)
    · intro _ c hc
      have hflag : (below || isComponent e) = true := by simp [isComponent, htype]
      rw [hflag] at hc
      exact dataType_of_mem_prune_below hc
    · simp [htype]
  | container hopen htype hfull hs =>
    rw [hs, Sorted.all, List.append_nil]
    refine hinner.node (grammatical_keep hopen.live (hnone hopen.not_text) (.inl ⟨htype, rfl⟩) ?_ ?_)
    · simp [htype]
    · exact fun _ => hfull
  | emptied _ _ _ _ hs => simpa [hs, Sorted.all] using leftOf_nil _

/-- Sorting kept trees from promoted ones only changes the order of what the trees leave. -/
theorem prune_perm (config : Config) (below : Bool) (forest : List (Tree Element)) :
    prune config below forest ~ forest.flatMap fun t => (sort config below t).all := by
  rw [prune, Sorted.all, kept_sortForest, promoted_sortForest]
  exact List.flatMap_append_perm forest _ _

/-- What is left of a forest, given what is left of its trees. -/
theorem leftOf_forest (htrees : ∀ t ∈ forest, LeftOf config [t] (sort config below t).all) :
    LeftOf config forest (prune config below forest) := by
  refine LeftOf.perm ?_ (prune_perm config below forest)
  induction forest with
  | nil => exact leftOf_nil _
  | cons t ts ih =>
    rw [List.flatMap_cons]
    have ht : LeftOf config [t] (sort config below t).all := htrees t List.mem_cons_self
    exact ht.append (ih fun s hs => htrees s (List.mem_cons_of_mem _ hs))

theorem TextOnlyInTexts.of_mem (htexts : TextOnlyInTexts forest) (hmem : node e cs ∈ forest) :
    (e.text ≠ none → e.dataType = some .text) ∧ TextOnlyInTexts cs := by
  have hvalues : ∀ f ∈ e :: forestValues cs, f ∈ forestValues forest := by
    intro f hf
    rw [forestValues_eq_flatMap, List.mem_flatMap]
    exact ⟨node e cs, hmem, by simpa [values] using hf⟩
  refine ⟨htexts e (hvalues e List.mem_cons_self), fun f hf => ?_⟩
  exact htexts f (hvalues f (List.mem_cons_of_mem _ hf))

theorem leftOf_prune (htexts : TextOnlyInTexts forest) :
    LeftOf config forest (prune config below forest) := by
  induction forest using forest_induction generalizing below with
  | step forest ih =>
    refine leftOf_forest ?_
    rintro ⟨e, cs⟩ hmem
    obtain ⟨htext, hinner⟩ := htexts.of_mem hmem
    exact leftOf_sort htext (ih _ hmem hinner)

/-- The tags of a forest are the tags of its nodes. -/
theorem mem_forestSubtrees_ofElements {t : Tree Tag}
    (ht : t ∈ forestSubtrees (Markup.ofElements config forest)) :
    ∃ u ∈ forestSubtrees forest, t = Markup.ofElement config u := by
  induction forest using forest_induction with
  | step forest ih =>
    rw [forestSubtrees_eq_flatMap, Markup.ofElements_eq_map, List.mem_flatMap] at ht
    obtain ⟨_, hr, ht⟩ := ht
    obtain ⟨⟨e, cs⟩, hmem, rfl⟩ := List.mem_map.mp hr
    have hsubtrees : ∀ u ∈ node e cs :: forestSubtrees cs, u ∈ forestSubtrees forest := by
      intro u hu
      rw [forestSubtrees_eq_flatMap, List.mem_flatMap]
      exact ⟨node e cs, hmem, by simpa [subtrees] using hu⟩
    rw [Markup.ofElement, subtrees, List.mem_cons] at ht
    rcases ht with rfl | ht
    · exact ⟨node e cs, hsubtrees _ List.mem_cons_self, rfl⟩
    · split at ht
      · cases ht
      · obtain ⟨u, hu, rfl⟩ := ih _ hmem ht
        exact ⟨u, hsubtrees u (List.mem_cons_of_mem _ hu), rfl⟩

theorem Grammatical.ofElement {u former : Tree Element} (hu : Grammatical config u former) :
    (Markup.ofElement config u).children = [] ∨ (Markup.ofElement config u).value.text = none := by
  obtain ⟨e, cs⟩ := u
  have htype : e.dataType ≠ some .text := by
    rcases hu.part with hpart | hpart <;> simp_all
  rcases hu.text_or_children with hnone | hnone
  · rw [children_node] at hnone
    exact .inl (by simp [Markup.ofElement, htype, hnone, Markup.ofElements])
  · rw [value_node] at hnone
    exact .inr (by simp [Markup.ofElement, Markup.tagOf, htype, hnone])

/-- The nodes of a pruned forest come from nodes of the forest, no two from the same, and follow the
grammar.  So no tag made from them has a text beside its children, which would not be shown. -/
theorem prune_grammatical (config : Config) (below : Bool) (forest : List (Tree Element))
    (htexts : TextOnlyInTexts forest) :
    (∃ formers, formers <+~ forestSubtrees forest ∧
      List.Forall₂ (Grammatical config) (forestSubtrees (prune config below forest)) formers) ∧
    ∀ t ∈ forestSubtrees (Markup.ofElements config (prune config below forest)),
      t.children = [] ∨ t.value.text = none := by
  have hleft : LeftOf config forest (prune config below forest) := leftOf_prune htexts
  obtain ⟨formers, hfrom, hmatch⟩ := hleft
  refine ⟨⟨formers, hfrom, hmatch⟩, fun t ht => ?_⟩
  have hshown := (List.forall₂_and_left _ _).mp
    (hmatch.imp fun _ _ hgrammar => ⟨hgrammar.ofElement, hgrammar⟩)
  obtain ⟨u, hu, rfl⟩ := mem_forestSubtrees_ofElements ht
  exact hshown.1 u hu

/-- A caption of two words and a private one, followed by a template for a footer. -/
def captionPage : List (Tree Element) :=
  [.node { id := "1", name := "Page", kind := .frame, dataType := some .container }
    [.node { id := "2", name := "Caption", kind := .frame, dataType := some .container }
      [.node { id := "3", name := "Word", kind := .text, dataType := some .text,
               text := some "Save" } [],
        .node { id := "4", name := "_Word", kind := .text, dataType := some .text,
                text := some "or" } [],
        .node { id := "5", name := "Word", kind := .text, dataType := some .text,
                text := some "all" } []],
      .node { id := "6", name := "Template", kind := .occurrence, dataType := some .component,
              properties := some (.ofList [("slot", .text "footer")]) }
        [.node { id := "7", name := "Word", kind := .text, dataType := some .text,
                 text := some "Ok" } []]]]

/-- The caption and the template take the texts that they hold. -/
theorem prune_grammatical_captionPage :
    TextOnlyInTexts captionPage ∧
      (forestValues (prune {} false captionPage)).map Element.text =
        [none, some "Save all", some "Ok"] ∧
      ∃ formers, formers <+~ forestSubtrees captionPage ∧
        List.Forall₂ (Grammatical {}) (forestSubtrees (prune {} false captionPage)) formers := by
  have htexts : TextOnlyInTexts captionPage := by
    unfold TextOnlyInTexts
    decide
  exact ⟨htexts, by decide +kernel, (prune_grammatical {} false captionPage htexts).1⟩

end LayerMarkup.Pruning
