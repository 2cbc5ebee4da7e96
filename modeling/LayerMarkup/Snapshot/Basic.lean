import LayerMarkup.Host.Basic
import LayerMarkup.Layer
import LayerMarkup.Tree

/-!
# Snapshots

A snapshot is an exported piece of a design: the selected layers and a library of further ones.  It
answers the questions of a host from its own layers.  A variant takes its defaults from the
component set that it belongs to, by a link of the export or because the set is its parent.
-/

namespace LayerMarkup

/-- Selected layers, further layers, and the links from variants to their sets. -/
structure Snapshot where
  selection : List (Tree Layer)
  library : List (Tree Layer) := []
  setLinks : Mapping String := .empty

namespace Snapshot

/-- All layers of the snapshot, every layer before its children. -/
def layers (s : Snapshot) : List Layer := Tree.forestValues (s.selection ++ s.library)

/-- The layer of an id; of several the last one. -/
def find? (s : Snapshot) (id : String) : Option Layer := s.layers.reverse.find? (·.id == id)

/-- The number of ids. -/
def idCount (s : Snapshot) : Nat := (s.layers.map Layer.id).eraseDups.length

mutual

/-- The components that stand directly in a component set, with the set, in the order of the
tree. -/
def variantsIn : Tree Layer → List (String × String)
  | .node layer children => variantsBelow layer children

def variantsBelow (parent : Layer) : List (Tree Layer) → List (String × String)
  | [] => []
  | t :: ts =>
    (if parent.kind = .componentSet && t.value.kind = .component
      then [(t.value.id, parent.id)] else []) ++
      variantsIn t ++ variantsBelow parent ts

end

/-- The component set of a variant: the one that the export links it to, or else the first one that
it stands in. -/
def setOf? (s : Snapshot) (id : String) : Option String :=
  match s.setLinks.get? id with
  | some set => some set
  | none => (((s.selection ++ s.library).flatMap variantsIn).find? (·.1 == id)).map Prod.snd

/-- The component that an occurrence was made from.  Its name is empty if it is not in the
snapshot. -/
def mainComponent (s : Snapshot) (id : String) : Except Failure (Option ComponentRef) :=
  match s.find? id with
  | none => .error (.lookup id "Unknown node")
  | some layer =>
    .ok (layer.mainComponentId.map fun main =>
      { id := main, name := ((s.find? main).map Layer.name).getD "" })

/-- The layer that declares the properties of a component: its set, if the snapshot has it, or the
component itself. -/
def owner (s : Snapshot) (component : Layer) (id : String) : Layer :=
  if component.kind = .component then ((s.setOf? id).bind s.find?).getD component else component

/-- The defaults that a component declares. -/
def defaults (s : Snapshot) (id : String) : Except Failure (Mapping Json) :=
  match s.find? id with
  | none => .error (.lookup id "Unknown component")
  | some component =>
    let definitions := (s.owner component id).definitions
    if definitions.isEmpty then .error (.lookup id "No property definitions")
    else .ok (definitions.mapValues fun definition => definition.default.toJson)

def host (s : Snapshot) : Host Unit := .ofAnswers s.mainComponent s.defaults

/-- The report that a snapshot was taken in. -/
def indexed (s : Snapshot) : Event := .indexed s.idCount s.selection.length

end Snapshot

end LayerMarkup
