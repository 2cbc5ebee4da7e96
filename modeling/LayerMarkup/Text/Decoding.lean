import LayerMarkup.Text.CharacterClass
import LayerMarkup.Text.Basic

/-!
# Texts and numbers from outside

Bytes become text by the usual encoding, one to four bytes a character.  The first byte fixes how
many follow and, for the lead bytes at the ends of their ranges, which values the second may have,
so that no character has two encodings and no surrogate has one.  A refused sequence is given with
the place and the number of its bytes.

An integer is read as people write it: blanks around it, a sign, and decimal digits of any script,
with single low lines between digits for grouping.
-/

namespace LayerMarkup.Text

inductive Utf8Fault where
  | invalidStart
  | invalidContinuation
  | unexpectedEnd
deriving DecidableEq

def Utf8Fault.description : Utf8Fault → String
  | invalidStart => "invalid start byte"
  | invalidContinuation => "invalid continuation byte"
  | unexpectedEnd => "unexpected end of data"

/-- A refused sequence: its fault, its first byte, where it starts and how many bytes it takes. -/
structure Utf8Error where
  fault : Utf8Fault
  byte : UInt8
  start : Nat
  length : Nat
deriving DecidableEq

def Utf8Error.message (e : Utf8Error) : String :=
  let place :=
    if e.length = 1 then
      "byte 0x" ++ String.ofList (hexDigits 2 e.byte.toNat) ++ " in position " ++ toString e.start
    else "bytes in position " ++ toString e.start ++ "-" ++ toString (e.start + e.length - 1)
  "'utf-8' codec can't decode " ++ place ++ ": " ++ e.fault.description

/-- Reads the bytes that continue a sequence, the first of them between two bounds.  Gives the code
and the length of the sequence, or the fault and the length up to it. -/
def continueSequence (low high code length : Nat) :
    Nat → List UInt8 → Except (Utf8Fault × Nat) (Nat × Nat)
  | 0, _ => .ok (code, length)
  | _ + 1, [] => .error (.unexpectedEnd, length)
  | missing + 1, b :: rest =>
    if low ≤ b.toNat && b.toNat ≤ high then
      continueSequence 0x80 0xBF (code * 64 + (b.toNat - 0x80)) (length + 1) missing rest
    else .error (.invalidContinuation, length)

/-- Reads the sequence that starts with the given byte. -/
def readSequence (first : UInt8) (rest : List UInt8) : Except (Utf8Fault × Nat) (Nat × Nat) :=
  let b := first.toNat
  if b < 0x80 then .ok (b, 1)
  else if b < 0xC2 then .error (.invalidStart, 1)
  else if b < 0xE0 then continueSequence 0x80 0xBF (b - 0xC0) 1 1 rest
  else if b < 0xF0 then
    continueSequence (if b = 0xE0 then 0xA0 else 0x80) (if b = 0xED then 0x9F else 0xBF)
      (b - 0xE0) 1 2 rest
  else if b < 0xF5 then
    continueSequence (if b = 0xF0 then 0x90 else 0x80) (if b = 0xF4 then 0x8F else 0xBF)
      (b - 0xF0) 1 3 rest
  else .error (.invalidStart, 1)

/-- Decodes the bytes that follow the first `offset` ones, after the characters read so far. -/
def decodeFrom (offset : Nat) (read : List Char) : List UInt8 → Except Utf8Error (List Char)
  | [] => .ok read.reverse
  | b :: rest =>
    match readSequence b rest with
    | .error (fault, length) => .error { fault, byte := b, start := offset, length }
    | .ok (code, length) =>
      decodeFrom (offset + length) (Char.ofNat code :: read) (rest.drop (length - 1))
termination_by bytes => bytes.length
decreasing_by simp only [List.length_cons, List.length_drop]; omega

/-- The text of a list of bytes. -/
def decodeUtf8 (bytes : List UInt8) : Except Utf8Error String :=
  (decodeFrom 0 [] bytes).map String.ofList

/-- Line ends as single line feeds, however they were written. -/
def unifyLineEnds : List Char → List Char
  | [] => []
  | '\r' :: '\n' :: rest => '\n' :: unifyLineEnds rest
  | '\r' :: rest => '\n' :: unifyLineEnds rest
  | c :: rest => c :: unifyLineEnds rest


/-- Blanks that may stand around a number: all but the four information separators. -/
def isNumberBlank (c : Char) : Bool := isBlank c && !(0x1C ≤ c.toNat && c.toNat ≤ 0x1F)

/-- The digits that follow, and whether a low line stands just before. -/
def groupedDigits? (afterLine : Bool) : List Char → Option (List Nat)
  | [] => if afterLine then none else some []
  | c :: rest =>
    match digitValue? c with
    | some d => (groupedDigits? false rest).map (d :: ·)
    | none => if c = '_' && !afterLine then groupedDigits? true rest else none

/-- The digits of a number, which begins and ends with one. -/
def digits? (cs : List Char) : Option (List Nat) :=
  if (cs.head?.map isDecimalDigit).getD false then groupedDigits? false cs else none

/-- The most digits that a written integer may have. -/
def maxWrittenDigits : Nat := 4300

/-- Reads a natural number. -/
def natural? (cs : List Char) : Option Nat := do
  let digits ← digits? cs
  if maxWrittenDigits < digits.length then none
  else some (digits.foldl (fun n d => 10 * n + d) 0)

/-- Reads an integer. -/
def integer? (s : String) : Option Int :=
  let trimmed := ((s.toList.dropWhile isNumberBlank).reverse.dropWhile isNumberBlank).reverse
  match trimmed with
  | '-' :: rest => (natural? rest).map fun n => -Int.ofNat n
  | '+' :: rest => (natural? rest).map Int.ofNat
  | cs => (natural? cs).map Int.ofNat

end LayerMarkup.Text
