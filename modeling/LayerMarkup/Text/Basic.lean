import LayerMarkup.Text.CharacterClass

/-!
# Texts

Names are tested for how they begin, how they end and what they contain.  The tests are on the
characters, so a law about lists of characters carries over to texts.

Inside a message a text is quoted.  It stands between single quotes, or between double quotes when
it holds a single quote and no double one.  The quote in use and the backslash are escaped, the line
feed, the carriage return and the tab have letters, and any other character that is not printable is
written by its code in hexadecimal.
-/

namespace LayerMarkup.Text

/-- One list of characters occurs somewhere inside another. -/
def occursIn (sought : List Char) : List Char → Bool
  | [] => sought.isEmpty
  | c :: cs => sought.isPrefixOf (c :: cs) || occursIn sought cs

def startsWith (s start : String) : Bool := start.toList.isPrefixOf s.toList

def endsWith (s ending : String) : Bool := ending.toList.isSuffixOf s.toList

def contains (s sought : String) : Bool := occursIn sought.toList s.toList

/-- The texts in order, with `separator` between neighbours. -/
def joinWith (separator : String) : List String → String
  | [] => ""
  | [s] => s
  | s :: t :: rest => s ++ separator ++ joinWith separator (t :: rest)

/-- The texts one below the other, without a line feed at the end. -/
def joinLines (lines : List String) : String := joinWith "\n" lines

theorem occursIn_iff {sought cs : List Char} : occursIn sought cs = true ↔ sought <:+: cs := by
  induction cs with
  | nil => simp [occursIn]
  | cons c cs ih => simp [occursIn, ih, List.infix_cons_iff]

theorem startsWith_iff {s start : String} : startsWith s start = true ↔ start.toList <+: s.toList := by
  simp [startsWith]

theorem contains_iff {s sought : String} : contains s sought = true ↔ sought.toList <:+: s.toList :=
  occursIn_iff


/-- A hexadecimal digit in lower case. -/
def hexDigit (n : Nat) : Char :=
  if n < 10 then Char.ofNat (0x30 + n) else Char.ofNat (0x61 + n - 10)

/-- The last `width` hexadecimal digits of a number. -/
def hexDigits : Nat → Nat → List Char
  | 0, _ => []
  | width + 1, n => hexDigits width (n / 16) ++ [hexDigit (n % 16)]

/-- The quote that a text is shown in. -/
def quoteFor (cs : List Char) : Char :=
  if cs.contains '\'' && !cs.contains '"' then '"' else '\''

/-- A character as it stands between quotes of the given kind. -/
def escapeIn (quote c : Char) : List Char :=
  if c == quote || c == '\\' then ['\\', c]
  else if c == '\n' then ['\\', 'n']
  else if c == '\r' then ['\\', 'r']
  else if c == '\t' then ['\\', 't']
  else if isPrintable c then [c]
  else if c.toNat < 0x100 then '\\' :: 'x' :: hexDigits 2 c.toNat
  else if c.toNat < 0x10000 then '\\' :: 'u' :: hexDigits 4 c.toNat
  else '\\' :: 'U' :: hexDigits 8 c.toNat

/-- A text in quotes. -/
def quoted (s : String) : String :=
  let quote := quoteFor s.toList
  String.ofList (quote :: s.toList.flatMap (escapeIn quote) ++ [quote])

end LayerMarkup.Text
