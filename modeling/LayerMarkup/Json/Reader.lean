import LayerMarkup.Json.Token

/-!
# Reading a JSON text

Reading folds the tokens of a text into a value.  The state is the stack of the containers that are
still open and what may come next, so the first token that does not fit is the one refused, with its
place.  Of fields with one name the first fixes the position and the last one the value.

A JSON text is refused all the same if half of a surrogate pair is alone in one of its strings
(`ReadError.loneSurrogate`): a value that holds such a half is none of the values told of here, and
nothing is said about what comes of it elsewhere.
-/

namespace LayerMarkup.Json

/-- A container that is still open, its items and fields newest first. -/
inductive Frame where
  | array (items : List Json)
  | object (fields : List (String × Json)) (name : String)

/-- What may come next. -/
inductive Expecting where
  | value
  | firstItem
  | firstName (fields : List (String × Json))
  | name (fields : List (String × Json))
  | colon
  | delimiter
  | nothing (value : Json)

/-- The state of reading between two tokens. -/
structure Reading where
  expecting : Expecting
  frames : List Frame

/-- Gives a name a value, in its old position if it has one and in front otherwise. -/
def setField (name : String) (value : Json) (fields : List (String × Json)) : List (String × Json) :=
  if fields.any (·.1 == name) then
    fields.map fun field => if field.1 == name then (name, value) else field
  else (name, value) :: fields

namespace Reading

/-- A value is complete: it belongs to the innermost open container. -/
def complete (value : Json) : List Frame → Reading
  | [] => ⟨.nothing value, []⟩
  | .array items :: frames => ⟨.delimiter, .array (value :: items) :: frames⟩
  | .object fields name :: frames => ⟨.delimiter, .object (setField name value fields) name :: frames⟩

/-- A token where a value must start. -/
def beginValue (frames : List Frame) (found : Located) : Except (Fault × Nat) Reading :=
  match found.token with
  | .leftBrace => .ok ⟨.firstName [], frames⟩
  | .leftBracket => .ok ⟨.firstItem, .array [] :: frames⟩
  | .string s _ => .ok (complete (.string s) frames)
  | .scalar value => .ok (complete value frames)
  | .broken fault offset => .error (fault, offset)
  | _ => .error (.valueExpected, found.offset)

/-- A token where the name of a field must start. -/
def beginField (fields : List (String × Json)) (frames : List Frame) (found : Located) :
    Except (Fault × Nat) Reading :=
  match found.token with
  | .string s _ => .ok ⟨.colon, .object fields s :: frames⟩
  | .broken (.longInteger _) _ => .error (.nameExpected, found.offset)
  | .broken fault offset => .error (fault, offset)
  | _ => .error (.nameExpected, found.offset)

/-- One token. -/
def step (state : Reading) (found : Located) : Except (Fault × Nat) Reading :=
  match state.expecting with
  | .value => beginValue state.frames found
  | .firstItem =>
    match found.token with
    | .rightBracket => .ok (complete (.array []) (state.frames.drop 1))
    | _ => beginValue state.frames found
  | .firstName fields =>
    match found.token with
    | .rightBrace => .ok (complete (.object []) state.frames)
    | _ => beginField fields state.frames found
  | .name fields => beginField fields state.frames found
  | .colon =>
    match found.token with
    | .colon => .ok ⟨.value, state.frames⟩
    | _ => .error (.colonExpected, found.offset)
  | .delimiter =>
    match found.token, state.frames with
    | .comma, .array _ :: _ => .ok ⟨.value, state.frames⟩
    | .comma, .object fields _ :: frames => .ok ⟨.name fields, frames⟩
    | .rightBracket, .array items :: frames => .ok (complete (.array items.reverse) frames)
    | .rightBrace, .object fields _ :: frames => .ok (complete (.object fields.reverse) frames)
    | _, _ => .error (.commaExpected, found.offset)
  | .nothing _ => .error (.extraData, found.offset)

/-- The value at the end of the text, whose length is given. -/
def finish (state : Reading) (length : Nat) : Except (Fault × Nat) Json :=
  match state.expecting with
  | .nothing value => .ok value
  | .value | .firstItem => .error (.valueExpected, length)
  | .firstName _ | .name _ => .error (.nameExpected, length)
  | .colon => .error (.colonExpected, length)
  | .delimiter => .error (.commaExpected, length)

end Reading

/-- Why a text is refused. -/
inductive ReadError where
  /-- It is no JSON text: the fault and its place, the line and the column counted from one. -/
  | malformed (fault : Fault) (line column offset : Nat)
  /-- Half of a surrogate pair is alone in a string. -/
  | loneSurrogate (offset : Nat)
deriving DecidableEq

/-- The words for a fault. -/
def Fault.description : Fault → String
  | .valueExpected => "Expecting value"
  | .nameExpected => "Expecting property name enclosed in double quotes"
  | .colonExpected => "Expecting ':' delimiter"
  | .commaExpected => "Expecting ',' delimiter"
  | .unterminatedString => "Unterminated string starting at"
  | .controlCharacter => "Invalid control character at"
  | .escape => "Invalid \\escape"
  | .unicodeEscape => "Invalid \\uXXXX escape"
  | .extraData => "Extra data"
  | .byteOrderMark => "Unexpected UTF-8 BOM (decode using utf-8-sig)"
  | .longInteger digits =>
    "Exceeds the limit (" ++ toString maxIntegerDigits ++
      " digits) for integer string conversion: value has " ++ toString digits ++
      " digits; use sys.set_int_max_str_digits() to increase the limit"

/-- The words for a refused text. -/
def ReadError.message : ReadError → String
  | malformed (.longInteger digits) .. => (Fault.longInteger digits).description
  | malformed fault line column offset =>
    fault.description ++ ": line " ++ toString line ++ " column " ++ toString column ++
      " (char " ++ toString offset ++ ")"
  | loneSurrogate offset => "Lone surrogate (char " ++ toString offset ++ ")"

/-- A fault with its place in the text. -/
def ReadError.locate (text : List Char) (fault : Fault) (offset : Nat) : ReadError :=
  let before := text.take offset
  .malformed fault (before.count '\n' + 1) ((before.reverse.takeWhile (· != '\n')).length + 1) offset

/-- The value that tokens give, for a text of the given length. -/
def valueOf (found : List Located) (length : Nat) : Except (Fault × Nat) Json := do
  let last ← found.foldlM Reading.step ⟨.value, []⟩
  last.finish length

/-- Reads a JSON text. -/
def read (text : String) : Except ReadError Json :=
  let cs := text.toList
  let found := tokens 0 cs
  let outcome : Except (Fault × Nat) Json :=
    if cs.head? == some (Char.ofNat 0xFEFF) then .error (.byteOrderMark, 0) else valueOf found cs.length
  match outcome with
  | .error (fault, offset) => .error (ReadError.locate cs fault offset)
  | .ok value =>
    match found.findSome? (·.token.lone?) with
    | some offset => .error (.loneSurrogate offset)
    | none => .ok value

end LayerMarkup.Json
