import LayerMarkup.Json.Basic
import LayerMarkup.Mapping
import LayerMarkup.Text.CharacterClass
import LayerMarkup.Text.Lowercase

/-!
# Layers

A layer as the design tool reports it, with its kind and its property values.  Kinds come from a
closed set, and each of them can play one part in the markup or none.  A property is a switch or a
text; values of documents become property values by their text, where the texts of the two switch
positions become the switch.  A design is a forest of layers.
-/

namespace LayerMarkup

/-- The kind of a layer. -/
inductive LayerKind where
  | text
  | frame
  | group
  | section_
  | rectangle
  | component
  | componentSet
  /-- An occurrence of a component. -/
  | occurrence
  | other
deriving DecidableEq, Inhabited

namespace LayerKind

def all : List LayerKind :=
  [text, frame, group, section_, rectangle, component, componentSet, occurrence, other]

/-- The word for a kind. -/
def word : LayerKind → String
  | text => "text"
  | frame => "frame"
  | group => "group"
  | section_ => "section"
  | rectangle => "rectangle"
  | component => "component"
  | componentSet => "component_set"
  | occurrence => "instance"
  | other => "other"

def ofWord? (s : String) : Option LayerKind := all.find? (·.word == s)

/-- The kind of a layer by the type that the design tool reports, blanks around it and the size of
its letters aside.  Any other type is `other`. -/
def ofHostType (hostType : String) : LayerKind :=
  (ofWord? (Text.lower (String.ofList (Text.trimBlanks hostType.toList)))).getD other

def isContainer : LayerKind → Bool
  | frame | group | section_ | rectangle => true
  | _ => false

def isComponent : LayerKind → Bool
  | component | componentSet | occurrence => true
  | _ => false

end LayerKind

/-- The part that a layer can play in the markup. -/
inductive DataType where
  | text
  | container
  | component
deriving DecidableEq

namespace DataType

def word : DataType → String
  | text => "text"
  | container => "container"
  | component => "component"

def ofWord? (s : String) : Option DataType := [text, container, component].find? (·.word == s)

/-- The part that a kind plays; kinds outside the three groups play none. -/
def ofKind? (kind : LayerKind) : Option DataType :=
  if kind = .text then some text
  else if kind.isContainer then some container
  else if kind.isComponent then some component
  else none

end DataType


/-- The value of a property. -/
inductive PropertyValue where
  | text (s : String)
  | flag (b : Bool)
deriving DecidableEq, Inhabited

namespace PropertyValue

def flagWord (b : Bool) : String := if b then "true" else "false"

/-- The text of a value. -/
def word : PropertyValue → String
  | text s => s
  | flag b => flagWord b

/-- The value that a text stands for. -/
def ofText (s : String) : PropertyValue :=
  if s = "true" then flag true else if s = "false" then flag false else text s

/-- The property value of a document's value. -/
def coerce : Json → PropertyValue
  | .bool b => flag b
  | other => ofText other.display

/-- A text that is not empty. -/
def isNonEmptyText : PropertyValue → Bool
  | text s => !s.isEmpty
  | flag _ => false

def toJson : PropertyValue → Json
  | text s => .string s
  | flag b => .bool b

end PropertyValue

/-- Two values of a document are the same as property values. -/
def isDefault (value default : Json) : Bool :=
  PropertyValue.coerce value == PropertyValue.coerce default


/-- A declared property of a component: its type and its authored default. -/
structure PropertyDefinition where
  type : String
  default : PropertyValue

/-- What the design tool reports of one layer. -/
structure Layer where
  id : String
  name : String
  kind : LayerKind
  visible : Bool := true
  locked : Bool := false
  /-- The literal text of a text layer. -/
  characters : Option String := none
  /-- The declared properties of a component or component set. -/
  definitions : Mapping PropertyDefinition := .empty
  /-- The current property values of an occurrence. -/
  properties : Mapping Json := .empty
  /-- The variant values of a component or component set. -/
  variants : Mapping Json := .empty
  /-- The component that an occurrence was made from. -/
  mainComponentId : Option String := none
  /-- The type as the tool writes it. -/
  hostType : String := ""
deriving Inhabited

end LayerMarkup
