import Cyclomatic.Double

/-!
# Doubles in decimal digits

Three ways to write a double: with the fewest digits that read back as the same double (`shortest`),
with six significant digits (`sixDigits`), and with a fixed number of places (`fixed`). The first
two find digits and the place of the point and leave the layout to `render`. What is not finite is
written as a word.
-/

set_option autoImplicit false

namespace Cyclomatic.Double

/-- Decimal digits of a number: their number, and how many of them stand before the point. -/
structure Digits where
  /-- The digits, written as one number. -/
  number : Nat
  /-- The exponent of ten by which it is multiplied. -/
  exponent : Int
  deriving DecidableEq, Repr

/-- How many decimal digits `n` has. -/
def digitCount (n : Nat) : Nat := (Nat.toDigits 10 n).length

/-- The least power of ten above a positive magnitude. -/
def magnitude (units : Nat) : Int :=
  if one ≤ units then digitCount (units / one) else 1 - (digitCount ((one - 1) / units) : Int)

/-- The magnitude as a fraction of `10 ^ exponent`. -/
def scaled (units : Nat) (exponent : Int) : Nat × Nat :=
  if 0 ≤ exponent then (units, one * Nat.pow 10 exponent.toNat)
  else (units * Nat.pow 10 (-exponent).toNat, one)

/-- The decimals of `count` digits next to the magnitude that read back as it: the nearer one, if
both neighbours do, and the even one, if they are equally near. -/
def readingBack? (units : Nat) (count : Nat) : Option Digits :=
  let exponent := magnitude units - count
  let (num, den) := scaled units exponent
  let below := num / den
  let readsBack (n : Nat) : Bool := decimalUnits n exponent == units
  match readsBack below, readsBack (below + 1) with
  | true, true => some ⟨roundQuotient num den, exponent⟩
  | true, false => some ⟨below, exponent⟩
  | false, true => some ⟨below + 1, exponent⟩
  | false, false => none

/-- The decimal with the fewest digits that reads back as the magnitude; seventeen are always
enough. -/
def shortestDigits (units : Nat) : Digits :=
  (((List.range 17).map (· + 1)).findSome? (readingBack? units)).getD
    ⟨roundQuotient units one, 0⟩

/-- The magnitude to `count` significant digits, a half to the even one. -/
def significantDigits (count : Nat) (units : Nat) : Digits :=
  let exponent := magnitude units - count
  let (num, den) := scaled units exponent
  ⟨roundQuotient num den, exponent⟩

/-! ## Layout -/

/-- How digits become text. -/
structure Layout where
  /-- The greatest number of digits before the point that is written without an exponent. -/
  widest : Int
  /-- What follows a whole number. -/
  whole : String

/-- The layout that shows every number as a double: a whole one ends in `.0`. -/
def Layout.exact : Layout := ⟨16, ".0"⟩

/-- The layout for reading: a whole number has no point. -/
def Layout.brief : Layout := ⟨6, ""⟩

/-- An exponent: its sign and at least two digits. -/
def exponentText (e : Int) : String :=
  let digits := toString e.natAbs
  (if e < 0 then "e-" else "e+") ++ (if digits.length < 2 then "0" ++ digits else digits)

/-- The digits without the zeros at their end. -/
def trimZeros (digits : List Char) : List Char :=
  (digits.reverse.dropWhile (· == '0')).reverse

/-- Writes positive digits. The point stands `point` places after their start; numbers below `10⁻⁴`
or wider than the layout allows have an exponent. -/
def renderDigits (layout : Layout) (d : Digits) : String :=
  let all := Nat.toDigits 10 d.number
  let digits := trimZeros all
  let point : Int := all.length + d.exponent
  if -4 < point && point ≤ layout.widest then
    if point ≤ 0 then
      "0." ++ String.ofList (List.replicate (-point).toNat '0' ++ digits)
    else if digits.length ≤ point.toNat then
      String.ofList (digits ++ List.replicate (point.toNat - digits.length) '0') ++ layout.whole
    else
      String.ofList (digits.take point.toNat) ++ "." ++ String.ofList (digits.drop point.toNat)
  else
    let fraction := digits.drop 1
    String.ofList (digits.take 1)
      ++ (if fraction.isEmpty then "" else "." ++ String.ofList fraction)
      ++ exponentText (point - 1)

/-- The sign of a number. -/
def sign (negative : Bool) : String := if negative then "-" else ""

/-- Writes a number: its sign, then `0` or its digits. -/
def render (layout : Layout) (digits : Nat → Digits) : Double → String
  | finite negative units =>
    sign negative
      ++ (if units = 0 then "0" ++ layout.whole else renderDigits layout (digits units))
  | infinite negative => sign negative ++ "inf"
  | nan => "nan"

/-- The shortest text that reads back as the same double. -/
def shortest (x : Double) : String := render .exact shortestDigits x

/-- The number to six significant digits. -/
def sixDigits (x : Double) : String := render .brief (significantDigits 6) x

/-- The number with exactly `places` digits after the point, of which there is at least one. -/
def fixed (places : Nat) : Double → String
  | finite negative units =>
    let unit := Nat.pow 10 places
    let n := roundQuotient (units * unit) one
    let fraction := (toString (n % unit)).toList
    sign negative ++ toString (n / unit) ++ "."
      ++ String.ofList (List.replicate (places - fraction.length) '0' ++ fraction)
  | infinite negative => sign negative ++ "inf"
  | nan => "nan"

end Cyclomatic.Double
