/-!
# Double precision numbers

A finite double is a sign and a whole number of units of `2⁻¹⁰⁷⁴`, the least positive double, so
that comparison and subtraction are arithmetic of integers. `nearestUnits` rounds a quotient to 53
significant bits, a half to the even neighbour; every operation here is an exact result rounded by
it. What is rounded to a magnitude beyond the finite ones is infinite.
-/

set_option autoImplicit false

namespace Cyclomatic

/-- A double precision number. -/
inductive Double where
  /-- A finite number: its sign, which zero has as well, and its magnitude in units of `2⁻¹⁰⁷⁴`. -/
  | finite (negative : Bool) (units : Nat)
  | infinite (negative : Bool)
  /-- No number, such as the difference of two infinite ones. -/
  | nan
  deriving DecidableEq, Repr

namespace Double

/-- The units in the number one. -/
def one : Nat := Nat.pow 2 1074

/-- The first magnitude, in units, that is too large for a finite double. -/
def limit : Nat := Nat.pow 2 2098

instance : Zero Double := ⟨finite false 0⟩

instance : Inhabited Double := ⟨0⟩

/-- An integer with the given sign and magnitude. -/
def signed (negative : Bool) (units : Nat) : Int := if negative then -(units : Int) else units

/-- The place in the order of numbers: the number in units, if it is finite. -/
def value : Double → Int
  | finite negative units => signed negative units
  | infinite negative => signed negative limit
  | nan => 0

/-- The order of numbers; the two zeros are equal in it. -/
def le (x y : Double) : Bool := x.value ≤ y.value

/-! ## Rounding -/

/-- `num / den` to the nearest whole number, a half to the even one. -/
def roundQuotient (num den : Nat) : Nat :=
  let floor := num / den
  let twice := 2 * (num % den)
  if twice < den then floor
  else if den < twice then floor + 1
  else if floor % 2 = 0 then floor
  else floor + 1

/-- The distance of neighbouring doubles, in units, around a magnitude of `units` units. -/
def spacing (units : Nat) : Nat := Nat.pow 2 (Nat.log2 units - 52)

/-- The magnitude of a double nearest to `num / den` units, a half to the even one. -/
def nearestUnits (num den : Nat) : Nat :=
  let step := spacing (num / den)
  roundQuotient num (den * step) * step

/-- The double with a rounded magnitude. -/
def ofUnits (negative : Bool) (units : Nat) : Double :=
  if units < limit then finite negative units else infinite negative

/-- The double nearest to `num / den`, if it is in range. -/
@[irreducible] def quotient? (num : Int) (den : Nat) : Option Double :=
  let units := nearestUnits (one * num.natAbs) den
  if units < limit then some (finite (num < 0) units) else none

/-- The magnitude nearest to `digits · 10 ^ exponent`. -/
def decimalUnits (digits : Nat) (exponent : Int) : Nat :=
  if 0 ≤ exponent then nearestUnits (digits * Nat.pow 10 exponent.toNat * one) 1
  else nearestUnits (digits * one) (Nat.pow 10 (-exponent).toNat)

/-- The double nearest to `± digits · 10 ^ exponent`. -/
def ofDecimal (negative : Bool) (digits : Nat) (exponent : Int) : Double :=
  ofUnits negative (decimalUnits digits exponent)

/-! ## Arithmetic -/

/-- The difference, rounded. -/
def sub : Double → Double → Double
  | finite negative units, finite negative' units' =>
    let exact := signed negative units - signed negative' units'
    ofUnits (exact < 0 || (exact == 0 && negative && !negative')) (nearestUnits exact.natAbs 1)
  | infinite negative, finite _ _ => infinite negative
  | finite _ _, infinite negative => infinite (!negative)
  | infinite negative, infinite negative' =>
    if negative = negative' then nan else infinite negative
  | nan, _ => nan
  | _, nan => nan

instance : Sub Double := ⟨sub⟩

/-- The quotient by a whole number, rounded. -/
def divide (x : Double) (k : Nat) : Double :=
  match x with
  | finite negative units => ofUnits negative (nearestUnits units k)
  | x => x

/-- The number rounded to `places` decimal places, a half to the even digit. -/
def round (places : Nat) : Double → Double
  | finite negative units =>
    let scaled := roundQuotient (units * Nat.pow 10 places) one
    ofUnits negative (decimalUnits scaled (-(places : Int)))
  | x => x

/-- The greatest whole number that is at most `x / k`, for a finite number. -/
def floorDiv (x : Double) (k : Nat) : Int := x.value.fdiv (one * k : Nat)

end Double

end Cyclomatic
