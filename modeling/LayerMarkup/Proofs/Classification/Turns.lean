import LayerMarkup.Classification
import LayerMarkup.Proofs.Property.Shown
import LayerMarkup.Proofs.Tree.Keys
import LayerMarkup.Proofs.Tree.Steps

/-!
# Classification in turns

A host may answer the same question in another way each time, so the properties of a layer depend on
how far the host has come when the layer has its turn (`progressAt`).  From there on they depend
only on the layer and what stands below it: the layers that come later change nothing of them
(`lookup_resolveForest`).  For an occurrence they are those that it shows by itself, unless the
layer that holds further ones has another value (`get?_propertiesOf_occurrence`).
-/

namespace LayerMarkup

open LayerMarkup.Tree

variable {σ : Type} {host : Host σ} {config : Config} {roots : List (Tree Layer)}

namespace Classification

/-- How far the host and the reports have come when the layer of a number has its turn. -/
def progressAt (host : Host σ) (config : Config) (roots : List (Tree Layer)) (index : Nat)
    (p : Progress σ) : Progress σ :=
  let before := (Step.inOrder (forestSteps 0 0 roots)).takeWhile (·.turn.index != index)
  (before.mapM (resolveStep host config) p).2

/-- Among steps with different numbers, the result of a step is found by its number, and comes from
the progress after the steps before it. -/
theorem lookup_mapM_resolveStep {steps : List (Step Layer)} {step : Step Layer} (hstep : step ∈ steps)
    (hnumbers : ∀ other ∈ steps, other.turn.index = step.turn.index → other = step)
    (p : Progress σ) :
    (steps.mapM (resolveStep host config) p).1.lookup step.turn.index =
      some (propertiesOf host config step.tree
        ((steps.takeWhile (·.turn.index != step.turn.index)).mapM
          (resolveStep host config) p).2).1 := by
  induction steps generalizing p with
  | nil => cases hstep
  | cons first rest ih =>
    have hresult : (resolveStep host config first p).1 =
        (first.turn.index, (propertiesOf host config first.tree p).1) := rfl
    rw [Task.mapM_cons_apply, hresult]
    by_cases hindex : first.turn.index = step.turn.index
    · have hsame : first = step := hnumbers first List.mem_cons_self hindex
      subst hsame
      rw [List.lookup_cons_self, List.takeWhile_cons_of_neg (by simp)]
      rfl
    · have hne : first ≠ step := fun hsame => hindex (hsame ▸ rfl)
      have hrest : step ∈ rest := (List.mem_cons.mp hstep).resolve_left (Ne.symm hne)
      rw [List.lookup_cons, beq_false_of_ne (Ne.symm hindex),
        List.takeWhile_cons_of_pos (by simpa using hindex), Task.mapM_cons_apply]
      exact ih hrest (fun other hother => hnumbers other (List.mem_cons_of_mem _ hother)) _

/-- Every layer of a forest gets the properties that it has at its turn. -/
theorem lookup_resolveForest {step : Step Layer} (hstep : step ∈ forestSteps 0 0 roots)
    (p : Progress σ) :
    (resolveForest host config roots p).1.lookup step.turn.index =
      some (propertiesOf host config step.tree
        (progressAt host config roots step.turn.index p)).1 := by
  refine lookup_mapM_resolveStep (Step.mem_inOrder.mpr hstep) (fun other hother hindex => ?_) p
  exact List.inj_on_of_nodup_map (nodup_index_forestSteps 0 0 roots) (Step.mem_inOrder.mp hother) hstep
    hindex

/-- The element of a layer with the properties that are found by its number. -/
def foundElement (host : Host σ) (config : Config) (roots : List (Tree Layer)) (p : Progress σ)
    (index : Nat) (layer : Layer) : Element :=
  elementOf config (((resolveForest host config roots p).1.lookup index).getD .empty) layer

theorem classifyForest_eq_mapIndexedForest (roots : List (Tree Layer)) (p : Progress σ) :
    (classifyForest host config roots p).1 =
      mapIndexedForest (foundElement host config roots p) 0 roots := rfl

/-- A selected layer becomes an element with the properties that it has at its turn. -/
theorem exists_element_of_root (host : Host σ) (config : Config) (before after : List (Tree Layer))
    (root : Tree Layer) (p : Progress σ) :
    let roots := before ++ root :: after
    let turn := progressAt host config roots (forestSize before) p
    ∃ below, Tree.node (elementOf config (propertiesOf host config root turn).1 root.value) below ∈
      (classifyForest host config roots p).1 := by
  intro roots turn
  obtain ⟨layer, children⟩ := root
  have hstep : ⟨(node layer children).turn 0 (forestSize before), node layer children⟩ ∈
      forestSteps 0 0 roots := by
    rw [forestSteps_append, Nat.zero_add, forestSteps, steps]
    simp
  have hfound : (resolveForest host config roots p).1.lookup (forestSize before) =
      some (propertiesOf host config (node layer children) turn).1 := lookup_resolveForest hstep p
  refine ⟨mapIndexedForest (foundElement host config roots p) (forestSize before + 1) children, ?_⟩
  rw [classifyForest_eq_mapIndexedForest, mapIndexedForest_append, Nat.zero_add, mapIndexedForest,
    mapIndexed, foundElement, hfound, Option.getD_some]
  exact List.mem_append_right _ List.mem_cons_self

theorem forestKeys_id_classifyForest (host : Host σ) (config : Config) (roots : List (Tree Layer))
    (p : Progress σ) :
    forestKeys Element.id (classifyForest host config roots p).1 = forestKeys Layer.id roots := by
  rw [classifyForest_eq_mapIndexedForest]
  refine forestKeys_mapIndexedForest ?_ 0 roots
  exact fun _ _ => rfl

/-- An occurrence becomes a component with its properties. -/
theorem elementOf_occurrence {layer : Layer} (hkind : layer.kind = .occurrence)
    (properties : Mapping PropertyValue) :
    elementOf config properties layer =
      { id := layer.id, name := layer.name, kind := .occurrence, dataType := some .component,
        visible := layer.visible, properties := some properties } := by
  simp [elementOf, hkind, DataType.ofKind?, LayerKind.isContainer, LayerKind.isComponent]

/-- The properties of the layer that holds further ones for an occurrence, if there is one. -/
def furtherProperties (host : Host σ) (config : Config) (children : List (Tree Layer)) :
    Task σ (Mapping PropertyValue) :=
  match firstPropertiesLayer? config.propertiesSuffix children with
  | none => return .empty
  | some holder => Property.resolve host config holder

/-- Further properties come first, then what an occurrence shows by itself. -/
theorem get?_propertiesOf_occurrence {layer : Layer} (hkind : layer.kind = .occurrence)
    (hsome : layer.properties.isEmpty = false) (children : List (Tree Layer)) (p : Progress σ)
    (key : String) :
    let known := (Property.occurrenceDefaults host layer p).1
    let further := (furtherProperties host config children (Property.resolve host config layer p).2).1
    (propertiesOf host config (.node layer children) p).1.get? key =
      (further.get? key).or (Property.lastShown? config known layer.properties.entries key) := by
  intro known further
  have hown : (Property.resolve host config layer p).1 =
      Property.difference config layer.properties known := by
    simp only [Property.resolve, hkind, hsome]
    rfl
  have hall : (propertiesOf host config (.node layer children) p).1 =
      (Property.resolve host config layer p).1.overlay further := by
    simp only [propertiesOf, hkind, if_true, Task.bind_apply, further, furtherProperties]
    cases firstPropertiesLayer? config.propertiesSuffix children <;> rfl
  rw [hall, Mapping.get?_overlay, hown, Property.get?_difference_eq_lastShown?]

end Classification

end LayerMarkup
