import LayerMarkup.Json.Basic
import LayerMarkup.Layer
import LayerMarkup.Mapping
import LayerMarkup.Tree

/-!
# Elements

A layer after classification: the part it plays, and its properties reduced to those that differ
from their defaults.  A forest of elements is what is pruned, turned into markup or exported.
-/

namespace LayerMarkup

/-- A classified layer. -/
structure Element where
  id : String
  name : String
  kind : LayerKind
  dataType : Option DataType
  visible : Bool := true
  /-- The text of a text layer, or the text that pruning put inside an element. -/
  text : Option String := none
  properties : Option (Mapping PropertyValue) := none
  variants : Option (Mapping PropertyValue) := none
deriving Inhabited

namespace Element

/-- An optional field of an exported element. -/
def optionalField (name : String) : Option Json → List (String × Json)
  | none => []
  | some value => [(name, value)]

def exportMapping (m : Mapping PropertyValue) : Json :=
  .object (m.entries.map fun entry => (entry.1, entry.2.toJson))

/-- The fields of an exported element before its children. -/
def exportFields (e : Element) : List (String × Json) :=
  [("id", .string e.id), ("name", .string e.name), ("type", .string e.kind.word),
    ("dataType", (e.dataType.map fun d => Json.string d.word).getD .null),
    ("visible", .bool e.visible)] ++
    optionalField "text" (e.text.map .string) ++
    optionalField "properties" (e.properties.map exportMapping) ++
    optionalField "variantProperties" (e.variants.map exportMapping)

end Element

mutual

/-- An element and its descendants as a JSON object. -/
def Tree.toJson : Tree Element → Json
  | .node e cs => .object (e.exportFields ++ [("children", .array (Tree.forestToJson cs))])

def Tree.forestToJson : List (Tree Element) → List Json
  | [] => []
  | t :: ts => t.toJson :: Tree.forestToJson ts

end

theorem Tree.forestToJson_eq_map (forest : List (Tree Element)) :
    Tree.forestToJson forest = forest.map Tree.toJson := by
  induction forest with
  | nil => rfl
  | cons t ts ih => simp [Tree.forestToJson, ih]

/-- A forest of elements as JSON: a single tree stands for itself, any other number is an array. -/
def exportForest : List (Tree Element) → Json
  | [t] => t.toJson
  | forest => .array (Tree.forestToJson forest)

end LayerMarkup
