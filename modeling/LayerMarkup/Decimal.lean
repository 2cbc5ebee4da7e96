/-!
# Decimals and doubles

A decimal is read as the double nearest to it, a tie going to the even one.  The value is cut to an
integral multiple of the unit in the last place and rounded on its remainder.  Adding the rounded
multiple to the exponent field carries into the field by itself, so one sum gives the bits.

A finite double is written with the fewest digits that read back to it.  The bits of the double give
its value `m * 2 ^ e` and the interval of the reals that round to it, whose ends belong to it
exactly when `m` is even.  For one digit, two digits and so on the two neighbours of the value on
that decimal grid are tested against the interval in exact arithmetic; the first grid with a hit
wins, and of two hits the nearer one, an exact tie going to the even digit.
-/

namespace LayerMarkup.Decimal

/-- The bits of positive infinity. -/
def infinityBits : Nat := 2047 * Nat.pow 2 52

/-- The bits of the sign. -/
def signBits (negative : Bool) : Nat := if negative then Nat.pow 2 63 else 0

/-- The bits of a quiet value that is not a number. -/
def notANumberBits : Nat := 4095 * Nat.pow 2 51

/-- The exponent of the greatest power of two at or below a positive quotient. -/
def binaryExponent (num den : Nat) : Int :=
  let guess := Int.ofNat num.log2 - Int.ofNat den.log2
  if den * Nat.pow 2 guess.toNat ≤ num * Nat.pow 2 (-guess).toNat then guess else guess - 1

/-- A quotient rounded to the nearest integer, a tie going to the even one. -/
def roundHalfEven (num den : Nat) : Nat :=
  let floor := num / den
  let rest := num % den
  if 2 * rest < den then floor
  else if den < 2 * rest then floor + 1
  else floor + floor % 2

/-- The bits of the double nearest to a positive quotient. -/
def nearestBits (num den : Nat) : Nat :=
  let e := max (-1074) (binaryExponent num den - 52)
  let m := roundHalfEven (num * Nat.pow 2 (-e).toNat) (den * Nat.pow 2 e.toNat)
  min infinityBits ((e + 1074).toNat * Nat.pow 2 52 + m)

/-- The bits of the double nearest to `digits * 10 ^ exponent`.  Far outside the range of doubles
the answer is zero or infinity without forming the power of ten. -/
def ofScientific (negative : Bool) (digits : Nat) (exponent : Int) : UInt64 :=
  let magnitude := Int.ofNat (Nat.toDigits 10 digits).length + exponent
  let bits :=
    if digits == 0 || magnitude < -400 then 0
    else if 400 < magnitude then infinityBits
    else nearestBits (digits * Nat.pow 10 exponent.toNat) (Nat.pow 10 (-exponent).toNat)
  UInt64.ofNat (signBits negative + bits)


/-- A decimal `digits * 10 ^ exponent`. -/
structure Scaled where
  digits : Nat
  exponent : Int

/-- The number of decimal digits of a natural number, one for zero. -/
def length (n : Nat) : Nat := (Nat.toDigits 10 n).length

/-- A double's value and its rounding interval over a common denominator. -/
structure Interval where
  low : Nat
  value : Nat
  high : Nat
  den : Nat
  closed : Bool

namespace Interval

/-- The interval of `m * 2 ^ e`.  It reaches half a unit up; down it reaches half a unit too, or a
quarter when the next double below is only half as far away. -/
def ofBinary (m : Nat) (e : Int) (narrowBelow : Bool) : Interval :=
  let up : Nat := if 2 ≤ e then Nat.pow 2 (e - 2).toNat else 1
  { low := (4 * m - if narrowBelow then 1 else 2) * up
    value := 4 * m * up
    high := (4 * m + 2) * up
    den := if 2 ≤ e then 1 else Nat.pow 2 (2 - e).toNat
    closed := m % 2 == 0 }

/-- The power of ten at or below the value: the exponent of its first digit. -/
def leadingExponent (i : Interval) : Int :=
  if i.den ≤ i.value then Int.ofNat (length (i.value / i.den)) - 1
  else - Int.ofNat (length ((i.den - 1) / i.value))

/-- The interval times a power of ten. -/
def scale (i : Interval) (s : Int) : Interval :=
  let up := Nat.pow 10 s.toNat
  { i with low := i.low * up, value := i.value * up, high := i.high * up,
           den := i.den * Nat.pow 10 (-s).toNat }

/-- The integer `n` lies in the interval. -/
def holds (i : Interval) (n : Nat) : Bool :=
  if i.closed then i.low ≤ n * i.den && n * i.den ≤ i.high
  else i.low < n * i.den && n * i.den < i.high

/-- The nearer of the value's two integer neighbours among those inside the interval. -/
def nearestInteger? (i : Interval) : Option Nat :=
  let below := i.value / i.den
  let twice := 2 * i.value
  let middle := (2 * below + 1) * i.den
  match i.holds below, i.holds (below + 1) with
  | true, true =>
    if twice < middle then some below
    else if middle < twice then some (below + 1)
    else some (if below % 2 == 0 then below else below + 1)
  | true, false => some below
  | false, true => some (below + 1)
  | false, false => none

/-- The shortest decimal inside the interval: seventeen digits always suffice. -/
def shortest (i : Interval) : Scaled :=
  let lead := i.leadingExponent
  let found := (List.range 17).findSome? fun (n : Nat) =>
    ((i.scale (Int.ofNat n - lead)).nearestInteger?).map fun d => (⟨d, lead - Int.ofNat n⟩ : Scaled)
  found.getD ⟨0, 0⟩

end Interval

/-- How a decimal is laid out: `1.5`, `100000.0`, `1e-05`, `1.5e+16`. -/
structure Layout where
  /-- The least exponent of a first digit that is written in positional notation. -/
  leastPositional : Int := -4
  /-- The least exponent of a first digit that is written with an exponent again. -/
  leastExponential : Int := 16
  /-- The fewest digits of a written exponent. -/
  exponentDigits : Nat := 2

/-- The digits without zeros at the end, and the exponent of the first of them. -/
def Scaled.normal (d : Scaled) : List Char × Int :=
  let all := Nat.toDigits 10 d.digits
  ((all.reverse.dropWhile (· == '0')).reverse, Int.ofNat all.length - 1 + d.exponent)

/-- A positive decimal in the given layout. -/
def Scaled.render (layout : Layout) (d : Scaled) : List Char :=
  let (digits, lead) := d.normal
  if layout.leastPositional ≤ lead && lead < layout.leastExponential then
    if lead < 0 then
      '0' :: '.' :: List.replicate (-lead - 1).toNat '0' ++ digits
    else
      let whole := lead.toNat + 1
      let fraction := digits.drop whole
      digits.take whole ++ List.replicate (whole - digits.length) '0' ++
        '.' :: (if fraction.isEmpty then ['0'] else fraction)
  else
    let exponent := Nat.toDigits 10 lead.natAbs
    digits.take 1 ++ (if digits.length ≤ 1 then [] else '.' :: digits.drop 1) ++
      'e' :: (if lead < 0 then '-' else '+') ::
        List.replicate (layout.exponentDigits - exponent.length) '0' ++ exponent

/-- The text of a double by its bits: sign, exponent field and fraction field. -/
def ofBits (layout : Layout) (bits : Nat) : String :=
  let negative := bits / Nat.pow 2 63 % 2 == 1
  let field := bits / Nat.pow 2 52 % Nat.pow 2 11
  let fraction := bits % Nat.pow 2 52
  let sign := if negative then "-" else ""
  if field == 2047 then
    if fraction == 0 then sign ++ "inf" else "nan"
  else if field == 0 && fraction == 0 then sign ++ "0.0"
  else
    let interval :=
      if field == 0 then Interval.ofBinary fraction (-1074) false
      else Interval.ofBinary (Nat.pow 2 52 + fraction) (Int.ofNat field - 1075)
        (fraction == 0 && 1 < field)
    sign ++ String.ofList (interval.shortest.render layout)

/-- The shortest text that reads back to a double. -/
def ofDouble (bits : UInt64) : String := ofBits ({} : Layout) bits.toNat

end LayerMarkup.Decimal
