import LayerMarkup.Decimal
import LayerMarkup.Json.Basic

/-!
# Tokens of a JSON text

A text is cut into tokens, each with the number of characters before it.  Cutting never fails: what
cannot be read becomes a token that says why, and it is refused only if reading gets as far as using
it.  Every token takes at least one character, so cutting ends with the text.

An escape by code may stand for half of a surrogate pair.  Two halves in order are one character,
and a half alone is none, so no text can hold it: a string with one says where it is, and has no
character in its place.
-/

namespace LayerMarkup.Json

/-- Why a text is no JSON text. -/
inductive Fault where
  | valueExpected
  | nameExpected
  | colonExpected
  | commaExpected
  | unterminatedString
  | controlCharacter
  | escape
  | unicodeEscape
  | extraData
  | byteOrderMark
  | longInteger (digits : Nat)
deriving DecidableEq

/-- A token. -/
inductive Token where
  | leftBrace
  | rightBrace
  | leftBracket
  | rightBracket
  | colon
  | comma
  /-- A string, and the offset of the first half of a surrogate pair that is alone in it. -/
  | string (s : String) (lone : Option Nat)
  | scalar (value : Json)
  /-- A string or number that cannot be read, with the offset of the fault. -/
  | broken (fault : Fault) (offset : Nat)
  /-- A character that starts no token. -/
  | stray

/-- A token with the number of characters before it. -/
structure Located where
  offset : Nat
  token : Token

/-- Where half of a surrogate pair is alone in a token. -/
def Token.lone? : Token → Option Nat
  | string _ lone => lone
  | _ => none

/-- The value of a hexadecimal digit. -/
def hexValue? (c : Char) : Option Nat :=
  if '0' ≤ c && c ≤ '9' then some (c.toNat - 0x30)
  else if 'a' ≤ c && c ≤ 'f' then some (c.toNat - 0x61 + 10)
  else if 'A' ≤ c && c ≤ 'F' then some (c.toNat - 0x41 + 10)
  else none

/-- The value of four hexadecimal digits. -/
def hexValue4? (a b c d : Char) : Option Nat := do
  return (((← hexValue? a) * 16 + (← hexValue? b)) * 16 + (← hexValue? c)) * 16 + (← hexValue? d)

/-- The character after a backslash that stands for another. -/
def simpleEscape? (c : Char) : Option Char :=
  match c with
  | '"' => some '"'
  | '\\' => some '\\'
  | '/' => some '/'
  | 'b' => some (Char.ofNat 0x08)
  | 'f' => some (Char.ofNat 0x0C)
  | 'n' => some '\n'
  | 'r' => some '\r'
  | 't' => some '\t'
  | _ => none

def isHighSurrogate (n : Nat) : Bool := 0xD800 ≤ n && n < 0xDC00

def isLowSurrogate (n : Nat) : Bool := 0xDC00 ≤ n && n < 0xE000

/-- The character of a code, if it is no half of a surrogate pair. -/
def charOfCode? (n : Nat) : Option Char :=
  if isHighSurrogate n || isLowSurrogate n then none else some (Char.ofNat n)

/-- The second half of a surrogate pair, escaped like the first: what follows must be another escape
and at least one character more.  A pair of escapes that is no surrogate pair gives nothing. -/
def scanLowSurrogate (here : Nat) : List Char → Except (Fault × Nat) (Option Nat)
  | '\\' :: 'u' :: a :: b :: c :: d :: _ :: _ =>
    match hexValue4? a b c d with
    | none => .error (.unicodeEscape, here + 1)
    | some low => .ok (if isLowSurrogate low then some low else none)
  | _ => .ok none

/-- An escape by code after its backslash and `u`, where `here` is the offset of the backslash: the
character, if it stands for one, and the number of characters taken.  Something must follow the four
digits. -/
def scanUnicode (here : Nat) : List Char → Except (Fault × Nat) (Option Char × Nat)
  | a :: b :: c :: d :: next :: rest =>
    match hexValue4? a b c d with
    | none => .error (.unicodeEscape, here + 1)
    | some code =>
      if isHighSurrogate code then
        match scanLowSurrogate (here + 6) (next :: rest) with
        | .error e => .error e
        | .ok none => .ok (none, 4)
        | .ok (some low) =>
          .ok (some (Char.ofNat (0x10000 + (code - 0xD800) * 0x400 + (low - 0xDC00))), 10)
      else .ok (charOfCode? code, 4)
  | _ => .error (.unicodeEscape, here + 1)

/-- What has been read of a string: its characters, newest first, and the offset of the first half
of a surrogate pair that is alone in it. -/
structure StringRead where
  chars : List Char := []
  lone : Option Nat := none

namespace StringRead

def push (read : StringRead) (c : Char) : StringRead := { read with chars := c :: read.chars }

/-- What an escape at an offset stands for is read: a character, or half of a surrogate pair
alone. -/
def pushEscape (read : StringRead) (here : Nat) : Option Char → StringRead
  | some c => read.push c
  | none => { read with lone := read.lone.or (some here) }

def token (read : StringRead) : Token := .string (String.ofList read.chars.reverse) read.lone

end StringRead

/-- The rest of a string after its opening quote at `start`; `here` is the offset of the next
character.  Gives the string and the offset after the closing quote, or the fault. -/
def scanString (start here : Nat) (read : StringRead) :
    List Char → Except (Fault × Nat) (StringRead × Nat)
  | [] => .error (.unterminatedString, start)
  | '"' :: _ => .ok (read, here + 1)
  | ['\\'] => .error (.unterminatedString, start)
  | '\\' :: 'u' :: rest =>
    match scanUnicode here rest with
    | .error e => .error e
    | .ok (meant, taken) =>
      scanString start (here + 2 + taken) (read.pushEscape here meant) (rest.drop taken)
  | '\\' :: c :: rest =>
    match simpleEscape? c with
    | none => .error (.escape, here)
    | some meant => scanString start (here + 2) (read.push meant) rest
  | c :: rest =>
    if c.toNat < 0x20 then .error (.controlCharacter, here)
    else scanString start (here + 1) (read.push c) rest
termination_by cs => cs.length
decreasing_by all_goals simp only [List.length_cons, List.length_drop]; omega

def isDigit (c : Char) : Bool := '0' ≤ c && c ≤ '9'

/-- The number that decimal digits write. -/
def digitsValue (cs : List Char) : Nat := cs.foldl (fun n c => 10 * n + (c.toNat - 0x30)) 0

/-- The most digits that an integer may have. -/
def maxIntegerDigits : Nat := 4300

/-- A fraction, when digits follow a point. -/
def scanFraction : List Char → Option (List Char)
  | '.' :: rest =>
    let digits := rest.takeWhile isDigit
    if digits.isEmpty then none else some digits
  | _ => none

/-- An exponent, when digits follow its mark and sign: the characters taken and the value. -/
def scanExponent : List Char → Option (Nat × Int)
  | mark :: rest =>
    if mark == 'e' || mark == 'E' then
      let (signs, negative) : Nat × Bool :=
        match rest with
        | '+' :: _ => (1, false)
        | '-' :: _ => (1, true)
        | _ => (0, false)
      let digits := (rest.drop signs).takeWhile isDigit
      if digits.isEmpty then none
      else
        let n := Int.ofNat (digitsValue digits)
        some (1 + signs + digits.length, if negative then -n else n)
    else none
  | [] => none

/-- A number at the head of a text, and the characters that it takes. -/
def scanNumber (offset : Nat) (cs : List Char) : Option (Token × Nat) :=
  let negative := cs.head? == some '-'
  let unsigned := if negative then cs.drop 1 else cs
  let run := unsigned.takeWhile isDigit
  let whole := if run.head? == some '0' then run.take 1 else run
  if whole.isEmpty then none
  else
    let afterWhole := unsigned.drop whole.length
    let fraction := scanFraction afterWhole
    let fractionDigits := fraction.getD []
    let fractionLength := if fraction.isSome then fractionDigits.length + 1 else 0
    let exponent := scanExponent (afterWhole.drop fractionLength)
    let taken := (if negative then 1 else 0) + whole.length + fractionLength +
      (exponent.map Prod.fst).getD 0
    let token : Token :=
      if fraction.isSome || exponent.isSome then
        let shift := (exponent.map Prod.snd).getD 0 - Int.ofNat fractionDigits.length
        .scalar (.double (Decimal.ofScientific negative (digitsValue (whole ++ fractionDigits)) shift))
      else if maxIntegerDigits < whole.length then .broken (.longInteger whole.length) offset
      else
        let n := Int.ofNat (digitsValue whole)
        .scalar (.int (if negative then -n else n))
    some (token, taken)

/-- The words that stand for a value, with the value. -/
def words : List (String × Json) :=
  [("null", .null), ("true", .bool true), ("false", .bool false),
   ("NaN", .double (UInt64.ofNat Decimal.notANumberBits)),
   ("Infinity", .double (UInt64.ofNat Decimal.infinityBits)),
   ("-Infinity", .double (UInt64.ofNat (Decimal.signBits true + Decimal.infinityBits)))]

/-- A word at the head of a text, and the characters that it takes. -/
def scanWord (cs : List Char) : Option (Token × Nat) :=
  (words.find? fun (word, _) => word.toList.isPrefixOf cs).map fun (word, value) =>
    (.scalar value, word.length)

/-- The token at the head of a text and the characters that it takes beyond the first. -/
def scanToken (offset : Nat) (c : Char) (rest : List Char) : Token × Nat :=
  match c with
  | '\x7b' => (.leftBrace, 0)
  | '\x7d' => (.rightBrace, 0)
  | '[' => (.leftBracket, 0)
  | ']' => (.rightBracket, 0)
  | ':' => (.colon, 0)
  | ',' => (.comma, 0)
  | '"' =>
    match scanString offset (offset + 1) {} rest with
    | .ok (read, after) => (read.token, after - offset - 1)
    | .error (fault, position) => (.broken fault position, rest.length)
  | _ =>
    match scanWord (c :: rest) with
    | some (token, taken) => (token, taken - 1)
    | none =>
      match scanNumber offset (c :: rest) with
      | some (token, taken) => (token, taken - 1)
      | none => (.stray, 0)

/-- The blanks between tokens. -/
def isSpace (c : Char) : Bool := c == ' ' || c == '\t' || c == '\n' || c == '\r'

/-- The tokens of a text. -/
def tokens (offset : Nat) : List Char → List Located
  | [] => []
  | c :: rest =>
    if isSpace c then tokens (offset + 1) rest
    else
      let (token, more) := scanToken offset c rest
      ⟨offset, token⟩ :: tokens (offset + 1 + more) (rest.drop more)
termination_by cs => cs.length
decreasing_by all_goals simp only [List.length_cons, List.length_drop]; omega

end LayerMarkup.Json
