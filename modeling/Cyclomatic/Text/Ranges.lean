/-!
# Sets of code points

Classes of characters are tables: inclusive ranges in ascending order (`Ranges`), or runs that take
every character or every second one (`Run`), for letters whose capital and small forms alternate.
-/

set_option autoImplicit false

namespace Cyclomatic.Text

/-- A set of code points: inclusive ranges in ascending order. -/
abbrev Ranges := List (Nat × Nat)

/-- Whether some range holds `n`; looks no further than the first range above `n`. -/
def Ranges.contains : Ranges → Nat → Bool
  | [], _ => false
  | (first, last) :: rest, n => if n < first then false else n ≤ last || Ranges.contains rest n

/-- Every `step`-th code point from `first` to `last`. -/
structure Run where
  /-- The least code point of the run. -/
  first : Nat
  /-- The greatest code point of the run. -/
  last : Nat
  /-- The distance of neighbours. -/
  step : Nat

/-- Whether the run holds `n`. -/
def Run.contains (run : Run) (n : Nat) : Bool :=
  run.first ≤ n && n ≤ run.last && (n - run.first) % run.step == 0

end Cyclomatic.Text
