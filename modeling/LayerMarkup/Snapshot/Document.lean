import LayerMarkup.Snapshot.Basic

/-!
# Snapshot documents

Reading the JSON that design tools export.  A document is a layer, an array of layers, an object
with a selection or a single root and an optional library, or the answer to a request for several
nodes.  An empty value where layers or fields are expected counts as none.  Where a value has the
wrong form, the first use that it cannot serve is refused.
-/

namespace LayerMarkup

/-- A use that a value of a document cannot serve, by the word for the kind of the value. -/
inductive DocumentError where
  | unsupported (kind : String)
  /-- A field or the fields are asked of something that has none. -/
  | noFields (kind operation : String)
  | notIterable (kind : String)
  | notSpliceable (kind : String)
  | notSearchable (kind : String)
  /-- A field is asked of a text that holds its name. -/
  | textField
  /-- A field is asked of an array that holds its name. -/
  | arrayField
deriving DecidableEq

def DocumentError.message : DocumentError → String
  | unsupported kind => "Unsupported snapshot document: " ++ kind
  | noFields kind operation => "'" ++ kind ++ "' object has no attribute '" ++ operation ++ "'"
  | notIterable kind => "'" ++ kind ++ "' object is not iterable"
  | notSpliceable kind => "Value after * must be an iterable, not " ++ kind
  | notSearchable kind => "argument of type '" ++ kind ++ "' is not iterable"
  | textField => "string indices must be integers, not 'str'"
  | arrayField => "list indices must be integers or slices, not str"

namespace Document

/-- The fields of a value, of an absent or empty one none. -/
def fieldsOf (value : Option Json) (operation : String) : Except DocumentError (List (String × Json)) :=
  match value.bind Json.nonEmpty? with
  | none => .ok []
  | some (.object fields) => .ok fields
  | some other => .error (.noFields other.typeName operation)

/-- A switch stays a switch, null is the empty text, and any other value is its text. -/
def plain : Json → PropertyValue
  | .bool b => .flag b
  | .null => .text ""
  | other => .text other.display

/-- The current value of a property: its `value` field if it is an object, itself otherwise. -/
def currentValue : Json → Json
  | .object fields => (Json.lookup "value" fields).getD .null
  | other => other

/-- The text of a field, a default where it is absent. -/
def textField (name : String) (fields : List (String × Json)) : String :=
  ((Json.lookup name fields).map Json.display).getD ""

/-- A field as a switch: whether its value is not empty, a default where it is absent. -/
def switchField (name : String) (fields : List (String × Json)) (default : Bool) : Bool :=
  ((Json.lookup name fields).map fun value => !value.isEmpty).getD default

/-- The declared property of an entry, if the entry is an object. -/
def definition? : String × Json → Option (String × PropertyDefinition)
  | (key, .object fields) =>
    some (key, { type := textField "type" fields
                 default := plain ((Json.lookup "defaultValue" fields).getD .null) })
  | _ => none

/-- The layer that the fields of an object describe. -/
def layerOf (fields : List (String × Json)) : Except DocumentError Layer := do
  let hostType := textField "type" fields
  let definitions ← fieldsOf (Json.lookup "componentPropertyDefinitions" fields) "items"
  let properties ← fieldsOf (Json.lookup "componentProperties" fields) "items"
  let variants ← fieldsOf (Json.lookup "variantProperties" fields) "items"
  let main ←
    match (Json.lookup "componentId" fields).bind Json.nonEmpty? with
    | some id => pure (some id)
    | none => do
      let main ← fieldsOf (Json.lookup "mainComponent" fields) "get"
      pure ((Json.lookup "id" main).bind Json.nonEmpty?)
  return {
    id := textField "id" fields
    name := textField "name" fields
    kind := .ofHostType hostType
    visible := switchField "visible" fields true
    locked := switchField "locked" fields false
    characters := (Json.lookup "characters" fields).map Json.display
    definitions := .ofList (definitions.filterMap definition?)
    properties := .ofList (properties.map fun entry => (entry.1, (plain (currentValue entry.2)).toJson))
    variants := .ofList (variants.map fun entry => (entry.1, .string entry.2.display))
    mainComponentId := main.map Json.display
    hostType }

/-- What is refused when a value that is no array stands for the children of a layer: a text has
characters and an object has keys, neither of which is a layer. -/
def childrenError (value : Json) : Except DocumentError Unit :=
  if value.isEmpty then .ok ()
  else
    match value with
    | .string _ | .object _ => .error (.noFields "str" "get")
    | other => .error (.notIterable other.typeName)

mutual

/-- The tree of layers that a value describes. -/
def treeOf : Json → Except DocumentError (Tree Layer)
  | .object fields => do
    let layer ← layerOf fields
    let children ← childrenIn fields
    return .node layer children
  | other => .error (.noFields other.typeName "get")

/-- The children among the fields of a layer. -/
def childrenIn : List (String × Json) → Except DocumentError (List (Tree Layer))
  | [] => return []
  | (key, value) :: rest =>
    if key = "children" then
      match value with
      | .array items => treesOf items
      | other => do
        childrenError other
        return []
    else childrenIn rest

def treesOf : List Json → Except DocumentError (List (Tree Layer))
  | [] => return []
  | item :: rest => do
    let tree ← treeOf item
    let trees ← treesOf rest
    return tree :: trees

end

/-- The link from a variant to its set that the fields of a layer hold. -/
def linkIn (fields : List (String × Json)) (links : Mapping String) : Mapping String :=
  match (Json.lookup "componentSetId" fields).bind Json.nonEmpty?,
    (Json.lookup "id" fields).bind Json.nonEmpty? with
  | some set, some id => links.insert id.display set.display
  | _, _ => links

mutual

/-- The links from variants to sets in a value, added to earlier ones. -/
def linksOf (links : Mapping String) : Json → Except DocumentError (Mapping String)
  | .object fields => linksBelow (linkIn fields links) fields
  | other => .error (.noFields other.typeName "get")

def linksBelow (links : Mapping String) : List (String × Json) → Except DocumentError (Mapping String)
  | [] => return links
  | (key, value) :: rest =>
    if key = "children" then
      match value with
      | .array items => linksOfAll links items
      | other => do
        childrenError other
        return links
    else linksBelow links rest

def linksOfAll (links : Mapping String) : List Json → Except DocumentError (Mapping String)
  | [] => return links
  | item :: rest => do
    let more ← linksOf links item
    linksOfAll more rest

end

/-- The items of a list of layers: an array's items, an object's keys, a text's characters. -/
def spliced : Json → Except DocumentError (List Json)
  | .array items => .ok items
  | .object fields => .ok (fields.map fun field => .string field.1)
  | .string s => .ok (s.toList.map fun c => .string (String.singleton c))
  | other => .error (.notSpliceable other.typeName)

/-- The items of an optional list of layers. -/
def splicedField (name : String) (fields : List (String × Json)) : Except DocumentError (List Json) :=
  match (Json.lookup name fields).bind Json.nonEmpty? with
  | none => .ok []
  | some value => spliced value

/-- The root in an entry of an answer to a request for several nodes, if it has one. -/
def rootIn (entry : Json) : Except DocumentError (Option Json) :=
  if entry.isEmpty then .ok none
  else
    match entry with
    | .object fields => .ok (Json.lookup "document" fields)
    | .string s => if Text.contains s "document" then .error .textField else .ok none
    | .array items =>
      if items.any fun | .string s => s == "document" | _ => false then .error .arrayField else .ok none
    | other => .error (.notSearchable other.typeName)

/-- The selected layers of a document that is an object: its selection, else its single root, else
the roots of its entries, else the object itself. -/
def selectionIn (fields : List (String × Json)) : Except DocumentError (List Json) :=
  match Json.lookup "selection" fields, Json.lookup "document" fields, Json.lookup "nodes" fields with
  | some _, _, _ => splicedField "selection" fields
  | none, some root, _ => .ok [root]
  | none, none, some (.object entries) => do
    let roots ← entries.mapM fun entry => rootIn entry.2
    return roots.filterMap id
  | none, none, some other => .error (.noFields other.typeName "values")
  | none, none, none => .ok [.object fields]

/-- The selected layers and the library of a document. -/
def parts : Json → Except DocumentError (List Json × List Json)
  | .object fields => do
    let selection ← selectionIn fields
    let library ← splicedField "library" fields
    return (selection, library)
  | .array items => .ok (items, [])
  | other => .error (.unsupported other.typeName)

end Document

/-- The snapshot that a document holds. -/
def Snapshot.ofDocument (document : Json) : Except DocumentError Snapshot := do
  let (selection, library) ← Document.parts document
  let setLinks ← Document.linksOfAll .empty (selection ++ library)
  let selection ← Document.treesOf selection
  let library ← Document.treesOf library
  return { selection, library, setLinks }

end LayerMarkup
