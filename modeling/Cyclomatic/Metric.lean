import Cyclomatic.Double

/-!
# Metrics

A metric is a quotient of whole numbers as a double. A quotient that is beyond the doubles is no
value, and what would show it is broken off.
-/

set_option autoImplicit false

namespace Cyclomatic

/-- Why a metric has no value. -/
inductive MetricError where
  | tooLarge
  deriving DecidableEq, Repr

/-- The words for an error. -/
def MetricError.message : MetricError → String
  | .tooLarge => "integer division result too large for a float"

/-- The quotient as a double. -/
def metric (num : Int) (den : Nat) : Except MetricError Double :=
  match Double.quotient? num den with
  | some x => .ok x
  | none => .error .tooLarge

end Cyclomatic
