import Cyclomatic.Json.Literal
import Cyclomatic.Text.Integer

/-!
# Amounts

Positive whole numbers, as counts and limits are.
-/

set_option autoImplicit false

namespace Cyclomatic

/-- A positive whole number. -/
structure Amount where
  value : Int
  value_pos : 0 < value := by omega
  deriving DecidableEq, Repr

namespace Amount

/-- Why something is no amount. -/
inductive Fault where
  /-- A text that writes no integer. -/
  | notInteger (raw : String)
  | notPositive
  /-- A value that is no integer. -/
  | wrongType (value : Json)
  deriving Repr

/-- The words for a fault. -/
def Fault.message : Fault → String
  | notInteger raw => "No es un número entero: " ++ Text.quoted raw
  | notPositive => "Must be positive"
  | wrongType value => "Se esperaba un entero: " ++ value.literal

/-- An integer as an amount. -/
def ofInt (n : Int) : Except Fault Amount :=
  if h : 0 < n then .ok ⟨n, h⟩ else .error .notPositive

/-- A value as an amount. -/
def ofJson : Json → Except Fault Amount
  | .int n => ofInt n
  | value => .error (.wrongType value)

/-- Reads a text as an amount. -/
def parse (raw : String) : Except Fault Amount :=
  match Text.integer? raw with
  | some n => ofInt n
  | none => .error (.notInteger raw)

end Amount

end Cyclomatic
