import Cyclomatic.Text.Blank
import Cyclomatic.Text.Digit

/-!
# Integers as people write them

`integer?` reads a text as an integer: blanks at the ends, an optional sign, then decimal digits of
any script, where a single underscore may stand between two digits. Texts with very many digits are
not read, zeros in front included.
-/

set_option autoImplicit false

namespace Cyclomatic.Text

/-- Reads digits and single underscores between them, after a digit, onto the number `value`. -/
def digitsFrom? (value : Nat) : List Char → Option Nat
  | [] => some value
  | '_' :: c :: rest =>
    match decimalValue? c with
    | some d => digitsFrom? (10 * value + d) rest
    | none => none
  | c :: rest =>
    match decimalValue? c with
    | some d => digitsFrom? (10 * value + d) rest
    | none => none

/-- The number of digits up to which a number is read. -/
def digitLimit : Nat := 4300

/-- The number that digits write, of which there is at least one, and not too many. -/
def natural? : List Char → Option Nat
  | [] => none
  | c :: rest =>
    if digitLimit < (c :: rest).countP (· != '_') then none
    else
      match decimalValue? c with
      | some d => digitsFrom? d rest
      | none => none

/-- The integer that a text writes, if it writes one. -/
def integer? (s : String) : Option Int :=
  match stripList s.toList with
  | '-' :: digits => (natural? digits).map fun n : Nat => -(n : Int)
  | '+' :: digits => (natural? digits).map Int.ofNat
  | digits => (natural? digits).map Int.ofNat

end Cyclomatic.Text
