import LayerMarkup.Decimal
import LayerMarkup.Text.Basic

/-!
# JSON values

The value type of documents and of property values.  Integers and doubles are kept apart, a double
is held by its bits, and an object keeps its fields in the order of the text.

A value becomes text where a design tool's value is used as a name, a property or part of a message.
A text stands for itself; inside an array or an object it is quoted.
-/

namespace LayerMarkup

/-- A JSON value. -/
inductive Json where
  | null
  | bool (b : Bool)
  | int (n : Int)
  | double (bits : UInt64)
  | string (s : String)
  | array (items : List Json)
  | object (fields : List (String × Json))
deriving Inhabited

namespace Json

/-- The value of a field of an object. -/
def lookup (key : String) : List (String × Json) → Option Json
  | [] => none
  | (k, v) :: rest => if k = key then some v else lookup key rest

/-- A double that is zero, of either sign. -/
def isZeroDouble (bits : UInt64) : Bool := bits.toNat % Nat.pow 2 63 == 0

/-- An empty value: null, false, zero, the empty text, the empty array, the empty object.  Where a
document leaves a choice, an empty value counts as absent. -/
def isEmpty : Json → Bool
  | null => true
  | bool b => !b
  | int n => n == 0
  | double bits => isZeroDouble bits
  | string s => s.isEmpty
  | array items => items.isEmpty
  | object fields => fields.isEmpty

/-- A value that is not empty. -/
def nonEmpty? (j : Json) : Option Json := if j.isEmpty then none else some j

/-- The word for the kind of a value in messages. -/
def typeName : Json → String
  | null => "NoneType"
  | bool _ => "bool"
  | int _ => "int"
  | double _ => "float"
  | string _ => "str"
  | array _ => "list"
  | object _ => "dict"

end Json

end LayerMarkup

namespace LayerMarkup.Json

mutual

/-- The text of a value inside another value or inside a message. -/
def displayQuoted : Json → String
  | .null => "None"
  | .bool b => if b then "True" else "False"
  | .int n => toString n
  | .double bits => Decimal.ofDouble bits
  | .string s => Text.quoted s
  | .array items => "[" ++ Text.joinWith ", " (displayItems items) ++ "]"
  | .object fields => "\x7b" ++ Text.joinWith ", " (displayFields fields) ++ "\x7d"

def displayItems : List Json → List String
  | [] => []
  | item :: rest => displayQuoted item :: displayItems rest

def displayFields : List (String × Json) → List String
  | [] => []
  | (key, value) :: rest => (Text.quoted key ++ ": " ++ displayQuoted value) :: displayFields rest

end

/-- The text of a value on its own. -/
def display : Json → String
  | .string s => s
  | other => displayQuoted other

end LayerMarkup.Json
