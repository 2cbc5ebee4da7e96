import LayerMarkup.Generation
import LayerMarkup.Proofs.Classification.Turns
import LayerMarkup.Proofs.Classification.Uninterrupted

/-!
# Stages that do not fail

Every stage of a generation does what it does with settings of the right types, unless the setting
of the wrong type stops it: keys are compared, layers resolved and classified, elements pruned and
tags rendered as `Property.difference`, `Property.resolve`, `Classification.classifyForest`,
`Pruning.prune` and `Markup.render` say.  The inductions are those of the stages: over the entries
of a mapping, the layers of a forest in their turns, the trees of elements and the trees of tags.
-/

namespace LayerMarkup.Choices

variable {σ : Type} {c : Choices} {host : Host σ}

/-! ## Resolution -/

/-- An entry with a private key is left out, and so is a hidden one. -/
theorem yields_insert {α : Type} (m : Mapping α) (key : String) (value : α) (hidden : Bool) :
    c.Yields (do
        if ← c.skipsKey key then return m
        else if hidden then return m
        else return m.insert key value)
      (if c.config.skipsKey key || hidden then m else m.insert key value) := by
  refine (yields_skipsKey key).bind ?_
  cases c.config.skipsKey key with
  | true => exact yields_pure m
  | false =>
    cases hidden with
    | true => exact yields_pure m
    | false => exact yields_pure (m.insert key value)

theorem yields_difference (current : Mapping Json) (defaults : Option (Mapping Json)) :
    c.Yields (c.difference current defaults) (Property.difference c.config current defaults) :=
  Yields.foldlM (fun resolved _ => yields_insert resolved _ _ _) current.entries Mapping.empty

theorem yields_cleanVariants (variants : Mapping Json) :
    c.Yields (c.cleanVariants variants) (Property.cleanVariants c.config variants) :=
  Yields.foldlM (fun cleaned _ => yields_insert cleaned _ _ _) variants.entries Mapping.empty

theorem runsAs_componentDefaults (host : Host σ) (id : String) :
    c.RunsAs (Attempt.componentDefaults host id) (Property.componentDefaults host id) := by
  intro p
  left
  rw [Attempt.componentDefaults, Property.componentDefaults, Task.bind_apply]
  rcases hanswer : Task.ask (host.defaults id) p with ⟨answer, q⟩
  cases answer with
  | ok defaults => rw [run_absorb_of_answer hanswer]; rfl
  | error cause => rw [run_absorb_of_failure hanswer]; rfl

/-- The lookup of the main component has three outcomes, none of which is a failure of the
attempt. -/
theorem runsAs_occurrenceDefaults (host : Host σ) (layer : Layer) :
    c.RunsAs (Attempt.occurrenceDefaults host layer) (Property.occurrenceDefaults host layer) := by
  intro p
  rw [Attempt.occurrenceDefaults, Property.occurrenceDefaults, Task.bind_apply]
  rcases hanswer : Task.ask (host.mainComponent layer.id) p with ⟨answer, q⟩
  cases answer with
  | error cause =>
    rw [run_bind_of_ok (run_absorb_of_failure hanswer _)]
    exact .inl rfl
  | ok main =>
    rw [run_bind_of_ok (run_absorb_of_answer hanswer _)]
    cases main with
    | none => exact .inl rfl
    | some main => exact runsAs_componentDefaults host main.id q

theorem runsAs_resolve (host : Host σ) (layer : Layer) :
    c.RunsAs (c.resolve host layer) (Property.resolve host c.config layer) := by
  unfold resolve Property.resolve
  cases layer.kind with
  | occurrence =>
    by_cases hempty : layer.properties.isEmpty = true
    · simp only [hempty]
      exact runsAs_pure _
    · simp only [hempty]
      exact (runsAs_occurrenceDefaults host layer).bind fun defaults => (yields_difference _ _).runsAs
  | component =>
    by_cases hempty : layer.variants.isEmpty = true
    · simp only [hempty]
      exact runsAs_pure _
    · simp only [hempty]
      exact (runsAs_componentDefaults host layer.id).bind fun defaults => (yields_difference _ _).runsAs
  | text | frame | group | section_ | rectangle | componentSet | other => exact runsAs_pure _

/-! ## Classification -/

mutual

theorem yields_propertiesLayer? : ∀ t : Tree Layer,
    c.Yields (c.propertiesLayer? t) (Classification.propertiesLayer? c.config.propertiesSuffix t)
  | .node layer children => by
    rw [propertiesLayer?, Classification.propertiesLayer?]
    refine (yields_use .propertiesSuffix).bind ?_
    split
    · exact yields_pure _
    · split
      · exact yields_pure _
      · exact yields_firstPropertiesLayer? children

theorem yields_firstPropertiesLayer? : ∀ forest : List (Tree Layer),
    c.Yields (c.firstPropertiesLayer? forest)
      (Classification.firstPropertiesLayer? c.config.propertiesSuffix forest)
  | [] => yields_pure _
  | t :: ts => by
    rw [firstPropertiesLayer?, Classification.firstPropertiesLayer?]
    refine (yields_propertiesLayer? t).bind ?_
    cases Classification.propertiesLayer? c.config.propertiesSuffix t with
    | some found => exact yields_pure _
    | none => exact yields_firstPropertiesLayer? ts

end

theorem runsAs_propertiesOf (host : Host σ) (t : Tree Layer) :
    c.RunsAs (c.propertiesOf host t) (Classification.propertiesOf host c.config t) := by
  obtain ⟨layer, children⟩ := t
  refine (runsAs_resolve host layer).bind fun own => ?_
  split
  · refine RunsAs.bind_yields (yields_firstPropertiesLayer? children) ?_
    cases Classification.firstPropertiesLayer? c.config.propertiesSuffix children with
    | none => exact runsAs_pure _
    | some holder =>
      refine (runsAs_resolve host holder).bind fun further => ?_
      exact (runsAs_report _).bind fun _ => runsAs_pure _
  · exact runsAs_pure _

theorem yields_elementOf (properties : Mapping PropertyValue) (layer : Layer) :
    c.Yields (c.elementOf properties layer) (Classification.elementOf c.config properties layer) := by
  rw [elementOf, Classification.elementOf]
  by_cases hset : layer.kind = .componentSet
  · simp only [hset, if_true]
    exact (yields_cleanVariants layer.variants).bind (yields_pure _)
  · simp only [hset, if_false]
    exact yields_pure _

/-- The element of a layer at its turn, by the properties that are resolved then. -/
def elementStep (host : Host σ) (config : Config) (step : Step Layer) : Task σ Element := do
  let resolved ← Classification.resolveStep host config step
  return Classification.elementOf config resolved.2 step.tree.value

theorem runsAs_classifyStep (host : Host σ) (step : Step Layer) :
    c.RunsAs (c.classifyStep host step) (elementStep host c.config step) := by
  have htask : elementStep host c.config step = (do
      let properties ← Classification.propertiesOf host c.config step.tree
      let layer := step.tree.value
      Task.report
        (.classified layer.kind layer.name (DataType.ofKind? layer.kind) step.tree.children.length)
      return Classification.elementOf c.config properties layer) := rfl
  rw [htask]
  refine (runsAs_propertiesOf host step.tree).bind fun properties => ?_
  refine RunsAs.bind_yields (yields_elementOf properties step.tree.value) ?_
  exact (runsAs_report _).bind fun _ => runsAs_pure _

open Interruption (numbered)

theorem snd_mapM_elementStep (config : Config) (steps : List (Step Layer)) (p : Progress σ) :
    (steps.mapM (numbered (elementStep host config)) p).2 =
      (steps.mapM (Classification.resolveStep host config) p).2 := by
  induction steps generalizing p with
  | nil => rfl
  | cons step rest ih =>
    rw [Task.mapM_cons_apply, Task.mapM_cons_apply]
    exact ih _

/-- Among steps with different numbers, the element found by a number has the properties found by
it. -/
theorem lookup_mapM_elementStep {config : Config} {steps : List (Step Layer)} {step : Step Layer}
    (hstep : step ∈ steps)
    (hnumbers : ∀ other ∈ steps, other.turn.index = step.turn.index → other = step) (p : Progress σ) :
    (steps.mapM (numbered (elementStep host config)) p).1.lookup step.turn.index =
      ((steps.mapM (Classification.resolveStep host config) p).1.lookup step.turn.index).map
        fun properties => Classification.elementOf config properties step.tree.value := by
  induction steps generalizing p with
  | nil => cases hstep
  | cons first rest ih =>
    have helement : (numbered (elementStep host config) first p).1 =
        (first.turn.index,
          Classification.elementOf config (Classification.resolveStep host config first p).1.2
            first.tree.value) := rfl
    have hproperties : (Classification.resolveStep host config first p).1 =
        (first.turn.index, (Classification.resolveStep host config first p).1.2) := rfl
    rw [Task.mapM_cons_apply, Task.mapM_cons_apply, helement, hproperties]
    by_cases hindex : first.turn.index = step.turn.index
    · obtain rfl := hnumbers first List.mem_cons_self hindex
      rw [List.lookup_cons_self, List.lookup_cons_self]
      rfl
    · have hne : first ≠ step := fun hsame => hindex (hsame ▸ rfl)
      have hrest : step ∈ rest := (List.mem_cons.mp hstep).resolve_left (Ne.symm hne)
      rw [List.lookup_cons, List.lookup_cons, beq_false_of_ne (Ne.symm hindex)]
      exact ih hrest (fun other hother => hnumbers other (List.mem_cons_of_mem _ hother)) _

/-- Every layer has its turn, so its element is found, with the properties that are found for it. -/
theorem getD_lookup_elementStep {config : Config} {roots : List (Tree Layer)} {step : Step Layer}
    (hstep : step ∈ Tree.forestSteps 0 0 roots) (p : Progress σ) :
    (((Step.inOrder (Tree.forestSteps 0 0 roots)).mapM (numbered (elementStep host config)) p).1.lookup
        step.turn.index).getD default =
      Classification.foundElement host config roots p step.turn.index step.tree.value := by
  have hproperties :
      (Classification.resolveForest host config roots p).1.lookup step.turn.index = some _ :=
    Classification.lookup_resolveForest hstep p
  rw [lookup_mapM_elementStep (Step.mem_inOrder.mpr hstep) (fun other hother hindex => ?_) p]
  · rw [Classification.resolveForest] at hproperties
    rw [Classification.foundElement, Classification.resolveForest, hproperties]
    rfl
  · exact List.inj_on_of_nodup_map (Tree.nodup_index_forestSteps 0 0 roots) (Step.mem_inOrder.mp hother)
      hstep hindex

theorem mapIndexedForest_elementStep (config : Config) (roots : List (Tree Layer)) (p : Progress σ) :
    let elements := ((Step.inOrder (Tree.forestSteps 0 0 roots)).mapM
      (numbered (elementStep host config)) p).1
    Tree.mapIndexedForest (fun index _ => (elements.lookup index).getD default) 0 roots =
      (Classification.classifyForest host config roots p).1 := by
  intro elements
  rw [Classification.classifyForest_eq_mapIndexedForest]
  exact Tree.mapIndexedForest_congr roots 0 0 fun step hstep => getD_lookup_elementStep hstep p

theorem runsAs_classifyForest (host : Host σ) (roots : List (Tree Layer)) :
    c.RunsAs (c.classifyForest host roots) (Classification.classifyForest host c.config roots) := by
  intro p
  have hwork := Interruption.runsAs_workThrough (c := c) roots (runsAs_classifyStep host)
  have hruns := hwork.bind (fun classified => runsAs_pure
    (Tree.mapIndexedForest (fun index _ => (classified.lookup index).getD default) 0 roots)) p
  rw [Task.bind_apply, snd_mapM_elementStep] at hruns
  rw [← mapIndexedForest_elementStep]
  exact hruns

/-! ## Pruning -/

theorem yields_isLive (e : Element) : c.Yields (c.isLive e) (Pruning.isLive c.config e) := by
  rw [isLive, Pruning.isLive]
  cases e.visible with
  | true => exact (yields_ignoresName e.name).bind (yields_pure _)
  | false => exact yields_pure _

theorem yields_innerText? (e : Element) :
    c.Yields (c.innerText? e) (Pruning.innerText? c.config e) := by
  rw [innerText?, Pruning.innerText?, Pruning.isLive]
  by_cases htype : e.dataType = some .text
  · cases e.visible with
    | false => simpa [htype] using yields_pure _
    | true =>
      cases htext : e.text.filter (!·.isEmpty) with
      | none => simpa [htype, htext] using yields_pure _
      | some text =>
        simp only [htype, decide_true, Bool.true_and, Option.isSome_some, if_true]
        refine (yields_ignoresName e.name).bind ?_
        cases c.config.ignoresName e.name with
        | true => exact yields_pure _
        | false => exact yields_pure _
  · simpa [htype] using yields_pure _

theorem yields_inlineText? (children : List (Tree Element)) :
    c.Yields (c.inlineText? children) (Pruning.inlineText? c.config children) := by
  refine (Yields.mapM (fun child => yields_innerText? child.value) children).bind ?_
  rw [Pruning.inlineText?, List.filterMap_map]
  simp only [Function.comp_def, id]
  split <;> exact yields_pure _

theorem yields_keep (takesText : Bool) (e : Element) (children pruned : List (Tree Element)) :
    c.Yields (c.keep takesText e children pruned)
      (Pruning.keep c.config takesText e children pruned) := by
  rw [keep, Pruning.keep]
  split
  · refine (yields_inlineText? children).bind ?_
    exact yields_pure _
  · exact yields_pure _

mutual

theorem yields_sort : ∀ (below : Bool) (t : Tree Element),
    c.Yields (c.sort below t) (Pruning.sort c.config below t)
  | below, .node e children => by
    rw [sort, Pruning.sort]
    refine (yields_isLive e).bind ?_
    cases Pruning.isLive c.config e with
    | false => exact yields_pure _
    | true =>
      cases e.dataType with
      | none =>
        cases below with
        | true => exact yields_pure _
        | false => exact (yields_sortForest false children).bind (yields_pure _)
      | some dataType =>
        cases dataType with
        | text => exact yields_pure _
        | component =>
          cases Pruning.role c.config e with
          | keep takesText =>
            simp only [if_true]
            refine (yields_sortForest true children).bind ?_
            exact (yields_keep takesText e children _).bind (yields_pure _)
          | promote =>
            simp only [if_true]
            exact (yields_sortForest true children).bind (yields_pure _)
          | drop =>
            simp only [if_true]
            exact yields_pure _
        | container =>
          cases below with
          | true => exact yields_pure _
          | false =>
            refine (yields_sortForest false children).bind ?_
            refine (yields_keep true e children _).bind ?_
            simp only [if_true, Bool.false_eq_true, if_false]
            split
            · exact yields_pure _
            · exact yields_pure _

theorem yields_sortForest : ∀ (below : Bool) (forest : List (Tree Element)),
    c.Yields (c.sortForest below forest) (Pruning.sortForest c.config below forest)
  | _, [] => yields_pure _
  | below, t :: ts => by
    rw [sortForest, Pruning.sortForest]
    exact (yields_sort below t).bind ((yields_sortForest below ts).bind (yields_pure _))

end

theorem yields_prune (below : Bool) (forest : List (Tree Element)) :
    c.Yields (c.prune below forest) (Pruning.prune c.config below forest) :=
  (yields_sortForest below forest).bind (yields_pure _)

/-! ## Rendering -/

theorem yields_opening (indent : Int) (name : String) (tag : Tag) :
    c.Yields (c.opening indent name tag) (Markup.opening c.config indent name tag) := by
  rw [opening]
  split
  · exact (yields_use .indentWidth).bind (yields_pure _)
  · exact yields_pure _

mutual

theorem yields_renderTree : ∀ (indent : Int) (t : Tree Tag),
    c.Yields (c.renderTree indent t) (Markup.renderTree c.config indent t)
  | indent, .node tag children => by
    rw [renderTree, Markup.renderTree]
    cases tag.name with
    | none => exact yields_pure _
    | some name =>
      refine (yields_opening indent name tag).bind ?_
      cases children with
      | nil =>
        cases tag.text with
        | none => exact yields_pure _
        | some text => exact yields_pure _
      | cons first rest =>
        refine (yields_use .indentWidth).bind ?_
        exact (yields_renderForest (indent + c.config.indentWidth) (first :: rest)).bind (yields_pure _)

theorem yields_renderForest : ∀ (indent : Int) (forest : List (Tree Tag)),
    c.Yields (c.renderForest indent forest) (Markup.renderForest c.config indent forest)
  | _, [] => yields_pure _
  | indent, t :: ts => by
    rw [renderForest, Markup.renderForest]
    exact (yields_renderTree indent t).bind ((yields_renderForest indent ts).bind (yields_pure _))

end

theorem yields_render (indent : Int) (forest : List (Tree Tag)) :
    c.Yields (c.render indent forest) (Markup.render c.config indent forest) :=
  (yields_renderForest indent forest).bind (yields_pure _)

end LayerMarkup.Choices
