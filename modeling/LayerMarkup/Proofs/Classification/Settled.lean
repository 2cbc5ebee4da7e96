import LayerMarkup.Classification
import LayerMarkup.Proofs.Host.Answers
import LayerMarkup.Proofs.Tree.Steps

/-!
# Classification by settled answers

Where the answers of the host are settled, the element of a layer can be told from the layer and
what stands below it (`elementAt`): neither the layers elsewhere nor the order in which the host is
asked matter (`gives_classifyForest`).
-/

namespace LayerMarkup

variable {σ : Type} {Good : σ → Prop} {host : Host σ} {answers : Answers} {config : Config}

namespace Property

/-- The values that a layer has, to be compared with its defaults. -/
def currentValues (layer : Layer) : Mapping Json :=
  match layer.kind with
  | .occurrence => layer.properties
  | .component => layer.variants
  | _ => .empty

/-- The defaults that a layer is compared with, if the host yields any: those of the component that
an occurrence was made from, or those of the component itself. -/
def knownDefaults (answers : Answers) (layer : Layer) : Option (Mapping Json) :=
  match layer.kind with
  | .occurrence =>
    match answers.mainComponent layer.id with
    | .ok (some main) => (answers.defaults main.id).toOption
    | _ => none
  | .component => (answers.defaults layer.id).toOption
  | _ => none

/-- The properties of a layer by itself. -/
def resolved (answers : Answers) (config : Config) (layer : Layer) : Mapping PropertyValue :=
  difference config (currentValues layer) (knownDefaults answers layer)

theorem difference_of_isEmpty {current : Mapping Json} (hempty : current.isEmpty = true)
    (defaults : Option (Mapping Json)) : difference config current defaults = .empty := by
  have hnil : current.entries = [] := List.isEmpty_iff.mp hempty
  rw [difference, hnil, List.foldl_nil]

theorem gives_componentDefaults (hfollows : host.Follows Good answers) (id : String) :
    (componentDefaults host id).Gives Good (answers.defaults id).toOption := by
  refine (Task.gives_ask (hfollows.defaults id)).bind ?_
  cases answers.defaults id with
  | ok defaults => exact Task.gives_pure _
  | error cause => exact (Task.gives_report _).bind (Task.gives_pure _)

theorem gives_occurrenceDefaults (hfollows : host.Follows Good answers) {layer : Layer}
    (hkind : layer.kind = .occurrence) :
    (occurrenceDefaults host layer).Gives Good (knownDefaults answers layer) := by
  simp only [knownDefaults, hkind]
  refine (Task.gives_ask (hfollows.mainComponent layer.id)).bind ?_
  cases answers.mainComponent layer.id with
  | error cause => exact (Task.gives_report _).bind (Task.gives_pure _)
  | ok main =>
    cases main with
    | none => exact (Task.gives_report _).bind (Task.gives_pure _)
    | some main => exact gives_componentDefaults hfollows main.id

/-- A layer without values is not looked up, but its properties are the same as if it were. -/
theorem gives_resolve (hfollows : host.Follows Good answers) (layer : Layer) :
    (resolve host config layer).Gives Good (resolved answers config layer) := by
  unfold resolve resolved currentValues
  cases hkind : layer.kind with
  | occurrence =>
    by_cases hempty : layer.properties.isEmpty = true
    · simp only [hempty, if_true]
      rw [difference_of_isEmpty hempty]
      exact Task.gives_pure _
    · simp only [hempty]
      exact (gives_occurrenceDefaults hfollows hkind).bind (Task.gives_pure _)
  | component =>
    by_cases hempty : layer.variants.isEmpty = true
    · simp only [hempty, if_true]
      rw [difference_of_isEmpty hempty]
      exact Task.gives_pure _
    · simp only [hempty, knownDefaults, hkind]
      exact (gives_componentDefaults hfollows layer.id).bind (Task.gives_pure _)
  | text | frame | group | section_ | rectangle | componentSet | other =>
    rw [difference_of_isEmpty rfl]
    exact Task.gives_pure _

end Property

namespace Classification

/-- The properties of the layer at the top of a tree. -/
def propertiesAt (answers : Answers) (config : Config) : Tree Layer → Mapping PropertyValue
  | .node layer children =>
    let own := Property.resolved answers config layer
    if layer.kind = .occurrence then
      match firstPropertiesLayer? config.propertiesSuffix children with
      | none => own
      | some holder => own.overlay (Property.resolved answers config holder)
    else own

/-- The element of the layer at the top of a tree. -/
def elementAt (answers : Answers) (config : Config) (t : Tree Layer) : Element :=
  elementOf config (propertiesAt answers config t) t.value

theorem gives_propertiesOf (hfollows : host.Follows Good answers) (t : Tree Layer) :
    (propertiesOf host config t).Gives Good (propertiesAt answers config t) := by
  obtain ⟨layer, children⟩ := t
  refine (Property.gives_resolve hfollows layer).bind ?_
  rw [propertiesAt]
  by_cases hkind : layer.kind = .occurrence
  · simp only [hkind, if_true]
    cases firstPropertiesLayer? config.propertiesSuffix children with
    | none => exact Task.gives_pure _
    | some holder =>
      refine (Property.gives_resolve hfollows holder).bind ?_
      exact (Task.gives_report _).bind (Task.gives_pure _)
  · simp only [hkind, if_false]
    exact Task.gives_pure _

theorem gives_resolveStep (hfollows : host.Follows Good answers) (step : Step Layer) :
    (resolveStep host config step).Gives Good
      (step.turn.index, propertiesAt answers config step.tree) := by
  refine (gives_propertiesOf hfollows step.tree).bind ?_
  exact (Task.gives_report _).bind (Task.gives_pure _)

/-- Every layer gets the element that can be told from it and what stands below it. -/
theorem gives_classifyForest (hfollows : host.Follows Good answers) (roots : List (Tree Layer)) :
    (classifyForest host config roots).Gives Good
      (Tree.mapSubtreesForest (elementAt answers config) roots) := by
  refine Task.Gives.bind (Task.Gives.mapM fun step _ => gives_resolveStep hfollows step) ?_
  -- The results come in the order of the turns, and are found by the numbers of the layers.
  rw [← Tree.mapIndexedForest_eq_mapSubtreesForest 0 0]
  · exact Task.gives_pure _
  · intro s hs
    have hfound := Step.lookup_inOrder (Tree.nodup_index_forestSteps 0 0 roots)
      (fun s => propertiesAt answers config s.tree) hs
    simp only [hfound, Option.getD_some, elementAt]

end Classification

end LayerMarkup
