import LayerMarkup.Decimal
import LayerMarkup.Json.Basic
import LayerMarkup.Text.Basic

/-!
# JSON texts

Two layouts of a JSON value: on one line, and indented by two blanks a level with one item or field
a line.  Characters outside ASCII stand for themselves.
-/

namespace LayerMarkup.Json

/-- A character inside a JSON string. -/
def escapeChar (c : Char) : List Char :=
  if c == '"' then ['\\', '"']
  else if c == '\\' then ['\\', '\\']
  else if c == '\n' then ['\\', 'n']
  else if c == '\r' then ['\\', 'r']
  else if c == '\t' then ['\\', 't']
  else if c.toNat == 0x08 then ['\\', 'b']
  else if c.toNat == 0x0C then ['\\', 'f']
  else if c.toNat < 0x20 then '\\' :: 'u' :: Text.hexDigits 4 c.toNat
  else [c]

def quoteString (s : String) : String :=
  String.ofList ('"' :: s.toList.flatMap escapeChar ++ ['"'])

/-- The number text of a double, with names for the values outside the number line. -/
def doubleText (bits : UInt64) : String :=
  match Decimal.ofDouble bits with
  | "inf" => "Infinity"
  | "-inf" => "-Infinity"
  | "nan" => "NaN"
  | text => text

mutual

/-- A value on one line. -/
def compact : Json → String
  | .null => "null"
  | .bool b => if b then "true" else "false"
  | .int n => toString n
  | .double bits => doubleText bits
  | .string s => quoteString s
  | .array items => "[" ++ Text.joinWith ", " (compactItems items) ++ "]"
  | .object fields => "\x7b" ++ Text.joinWith ", " (compactFields fields) ++ "\x7d"

def compactItems : List Json → List String
  | [] => []
  | item :: rest => compact item :: compactItems rest

def compactFields : List (String × Json) → List String
  | [] => []
  | (key, value) :: rest => (quoteString key ++ ": " ++ compact value) :: compactFields rest

end

/-- Lines between an opening and a closing bracket; an empty body leaves the brackets together. -/
def bracketed (left right : String) (depth : Nat) (body : List String) : String :=
  if body.isEmpty then left ++ right
  else
    let feed (d : Nat) : String := "\n" ++ String.ofList (List.replicate (2 * d) ' ')
    left ++ feed (depth + 1) ++ Text.joinWith ("," ++ feed (depth + 1)) body ++ feed depth ++ right

mutual

/-- A value with one item or field a line, at a nesting depth. -/
def indentedAt (depth : Nat) : Json → String
  | .array items => bracketed "[" "]" depth (indentedItems (depth + 1) items)
  | .object fields => bracketed "\x7b" "\x7d" depth (indentedFields (depth + 1) fields)
  | .null => "null"
  | .bool b => if b then "true" else "false"
  | .int n => toString n
  | .double bits => doubleText bits
  | .string s => quoteString s

def indentedItems (depth : Nat) : List Json → List String
  | [] => []
  | item :: rest => indentedAt depth item :: indentedItems depth rest

def indentedFields (depth : Nat) : List (String × Json) → List String
  | [] => []
  | (key, value) :: rest =>
    (quoteString key ++ ": " ++ indentedAt depth value) :: indentedFields depth rest

end

/-- A value with one item or field a line. -/
def indented (j : Json) : String := indentedAt 0 j

end LayerMarkup.Json
