import LayerMarkup.Proofs.Snapshot.Reading
import LayerMarkup.Proofs.Snapshot.Rendering

/-!
# What a snapshot tells of its layers

A snapshot takes its answers and its markup from some parts of its layers only.  Whatever replaces
the layers by others that agree in these parts (`mapLayers`) leaves what is told as it is.

* `defaults_mapLayers` — defaults rest on ids, kinds and definitions.
* `mainComponent_mapLayers` — main components rest on ids, on names and on the components that are
  named.
* `rendered_mapLayers` — the markup rests on the answers and on what elements take over from layers.
-/

namespace LayerMarkup

/-- A replacement of layers keeps what defaults are found by. -/
structure KeepsDefaults (f : Layer → Layer) : Prop where
  id : ∀ layer, (f layer).id = layer.id
  kind : ∀ layer, (f layer).kind = layer.kind
  definitions : ∀ layer, (f layer).definitions = layer.definitions

/-- A replacement of layers keeps what main components are found by. -/
structure KeepsMains (f : Layer → Layer) : Prop where
  id : ∀ layer, (f layer).id = layer.id
  name : ∀ layer, (f layer).name = layer.name
  mainComponentId : ∀ layer, (f layer).mainComponentId = layer.mainComponentId

/-- A replacement of layers keeps what elements are made from. -/
structure KeepsElements (f : Layer → Layer) : Prop where
  id : ∀ layer, (f layer).id = layer.id
  name : ∀ layer, (f layer).name = layer.name
  kind : ∀ layer, (f layer).kind = layer.kind
  visible : ∀ layer, (f layer).visible = layer.visible
  characters : ∀ layer, (f layer).characters = layer.characters
  properties : ∀ layer, (f layer).properties = layer.properties
  variants : ∀ layer, (f layer).variants = layer.variants

variable {f : Layer → Layer} {config : Config}

namespace Classification

mutual

theorem propertiesLayer?_map (hkeeps : KeepsElements f) (suffix : String) : ∀ t : Tree Layer,
    propertiesLayer? suffix (t.map f) = (propertiesLayer? suffix t).map f
  | .node layer children => by
    rw [Tree.map, propertiesLayer?, propertiesLayer?, hkeeps.name, hkeeps.kind,
      firstPropertiesLayer?_mapForest hkeeps suffix children]
    split
    · rfl
    · split <;> rfl

theorem firstPropertiesLayer?_mapForest (hkeeps : KeepsElements f) (suffix : String) :
    ∀ forest : List (Tree Layer), firstPropertiesLayer? suffix (Tree.mapForest f forest) =
      (firstPropertiesLayer? suffix forest).map f
  | [] => rfl
  | t :: ts => by
    rw [Tree.mapForest, firstPropertiesLayer?, firstPropertiesLayer?,
      propertiesLayer?_map hkeeps suffix t, firstPropertiesLayer?_mapForest hkeeps suffix ts]
    cases propertiesLayer? suffix t <;> rfl

end

variable (hkeeps : KeepsElements f) (answers : Answers)

include hkeeps

theorem resolved_map (layer : Layer) :
    Property.resolved answers config (f layer) = Property.resolved answers config layer := by
  simp only [Property.resolved, Property.currentValues, Property.knownDefaults, hkeeps.kind, hkeeps.id,
    hkeeps.properties, hkeeps.variants]

theorem propertiesAt_map (t : Tree Layer) :
    propertiesAt answers config (t.map f) = propertiesAt answers config t := by
  obtain ⟨layer, children⟩ := t
  rw [Tree.map, propertiesAt, propertiesAt, firstPropertiesLayer?_mapForest hkeeps, hkeeps.kind,
    resolved_map hkeeps]
  cases firstPropertiesLayer? config.propertiesSuffix children with
  | none => rfl
  | some holder => simp only [Option.map_some, resolved_map hkeeps]

theorem elementAt_map (t : Tree Layer) :
    elementAt answers config (t.map f) = elementAt answers config t := by
  rw [elementAt, elementAt, propertiesAt_map hkeeps, Tree.value_map]
  unfold elementOf
  rw [hkeeps.id, hkeeps.name, hkeeps.kind, hkeeps.visible, hkeeps.characters, hkeeps.variants]

theorem mapSubtrees_elementAt_map (t : Tree Layer) :
    (t.map f).mapSubtrees (elementAt answers config) = t.mapSubtrees (elementAt answers config) := by
  induction t using Tree.induction with
  | step layer children ih =>
    have helement : elementAt answers config (.node (f layer) (Tree.mapForest f children)) =
        elementAt answers config (.node layer children) :=
          elementAt_map hkeeps answers (.node layer children)
    rw [Tree.map, Tree.mapSubtrees, Tree.mapSubtrees, helement, Tree.mapForest_eq_map,
      Tree.mapSubtreesForest_eq_map, Tree.mapSubtreesForest_eq_map, List.map_map]
    congr 1
    exact List.map_congr_left ih

end Classification

namespace Snapshot

/-- The snapshot with every layer replaced. -/
def mapLayers (f : Layer → Layer) (s : Snapshot) : Snapshot where
  selection := Tree.mapForest f s.selection
  library := Tree.mapForest f s.library
  setLinks := s.setLinks

theorem mapLayers_of_fixed (hfixed : ∀ layer, f layer = layer) (s : Snapshot) : s.mapLayers f = s := by
  have hforest : ∀ forest, Tree.mapForest f forest = forest := by
    intro forest
    rw [Tree.mapForest_eq_map, List.map_congr_left fun t _ => Tree.map_of_fixed hfixed t, List.map_id']
  rw [mapLayers, hforest, hforest]

theorem find?_mapLayers (hid : ∀ layer, (f layer).id = layer.id) (s : Snapshot) (id : String) :
    (s.mapLayers f).find? id = (s.find? id).map f := by
  have hlayers : (s.mapLayers f).layers = s.layers.map f := by
    rw [layers, layers, ← Tree.forestValues_mapForest, Tree.mapForest_append]
    rfl
  rw [find?, find?, hlayers, ← List.map_reverse, List.find?_map]
  congr 2
  funext layer
  exact congrArg (· == id) (hid layer)

mutual

theorem variantsIn_map (hkeeps : KeepsDefaults f) :
    ∀ t : Tree Layer, variantsIn (t.map f) = variantsIn t
  | .node layer children => by
    rw [Tree.map, variantsIn, variantsIn, variantsBelow_mapForest hkeeps layer children]

theorem variantsBelow_mapForest (hkeeps : KeepsDefaults f) (parent : Layer) :
    ∀ forest : List (Tree Layer),
      variantsBelow (f parent) (Tree.mapForest f forest) = variantsBelow parent forest
  | [] => rfl
  | t :: ts => by
    rw [Tree.mapForest, variantsBelow, variantsBelow, variantsIn_map hkeeps t,
      variantsBelow_mapForest hkeeps parent ts, Tree.value_map, hkeeps.kind, hkeeps.kind,
        hkeeps.id, hkeeps.id]

end

section Defaults

variable (hkeeps : KeepsDefaults f)

include hkeeps

theorem setOf?_mapLayers (s : Snapshot) (id : String) : (s.mapLayers f).setOf? id = s.setOf? id := by
  have hvariants : ((s.mapLayers f).selection ++ (s.mapLayers f).library).flatMap variantsIn =
      (s.selection ++ s.library).flatMap variantsIn := by
    show (Tree.mapForest f s.selection ++ Tree.mapForest f s.library).flatMap variantsIn = _
    rw [← Tree.mapForest_append, Tree.mapForest_eq_map, List.flatMap_map]
    congr 1
    funext t
    exact variantsIn_map hkeeps t
  rw [setOf?, setOf?, hvariants]
  rfl

theorem owner_mapLayers (s : Snapshot) (component : Layer) (id : String) :
    (s.mapLayers f).owner (f component) id = f (s.owner component id) := by
  rw [owner, owner, setOf?_mapLayers hkeeps, hkeeps.kind]
  split
  · cases s.setOf? id with
    | none => rfl
    | some set =>
      rw [Option.bind_some, Option.bind_some, find?_mapLayers hkeeps.id]
      cases s.find? set <;> rfl
  · rfl

theorem defaults_mapLayers (s : Snapshot) : (s.mapLayers f).defaults = s.defaults := by
  funext id
  rw [defaults, defaults, find?_mapLayers hkeeps.id]
  cases s.find? id with
  | none => rfl
  | some component =>
    rw [Option.map_some]
    simp only [owner_mapLayers hkeeps, hkeeps.definitions]

end Defaults

theorem mainComponent_mapLayers (hkeeps : KeepsMains f) (s : Snapshot) :
    (s.mapLayers f).mainComponent = s.mainComponent := by
  have hnames :
      ∀ main, ((s.mapLayers f).find? main).map Layer.name = (s.find? main).map Layer.name := by
    intro main
    rw [find?_mapLayers hkeeps.id, Option.map_map]
    exact congrArg (Option.map · (s.find? main)) (funext hkeeps.name)
  funext id
  rw [mainComponent, mainComponent, find?_mapLayers hkeeps.id]
  cases s.find? id with
  | none => rfl
  | some layer =>
    rw [Option.map_some]
    simp only [hkeeps.mainComponentId, hnames]

theorem rendered_mapLayers (hdefaults : KeepsDefaults f) (hmains : KeepsMains f)
    (helements : KeepsElements f) (s : Snapshot) : (s.mapLayers f).rendered = s.rendered := by
  have hanswers : (s.mapLayers f).answers = s.answers := by
    rw [answers, answers, mainComponent_mapLayers hmains, defaults_mapLayers hdefaults]
  have hselection : (s.mapLayers f).selection = s.selection.map (Tree.map f) :=
    Tree.mapForest_eq_map _ _
  funext config
  have hforest : (s.mapLayers f).elements config = s.elements config := by
    rw [elements, elements, hanswers, hselection, Tree.mapSubtreesForest_eq_map,
      Tree.mapSubtreesForest_eq_map, List.map_map]
    exact List.map_congr_left fun t _ => Classification.mapSubtrees_elementAt_map helements s.answers t
  rw [rendered, rendered, hforest, hselection, List.isEmpty_map]

end Snapshot

end LayerMarkup
