import Cyclomatic.Console
import Cyclomatic.Proofs.Text.Integer

/-!
# How answers are read

An answer is read as a number if it writes one that is not negative (`readNumber_eq_ok_iff`), and as a
text if anything is left of it without the blanks at its ends (`readText_eq_ok_iff`). All other answers
are refused.
-/

set_option autoImplicit false

namespace Cyclomatic.Console

variable {answer text : String}

theorem readNumber_eq_ok_iff {n : Nat} : readNumber answer = .ok n ↔ Text.Writes answer n := by
  rw [← Text.integer?_eq_some_iff, ← Text.integer?_strip, readNumber]
  split
  case h_1 h => simp [h]
  case h_2 k h =>
    rw [h, Except.ok.injEq, Option.some.injEq]
    exact Int.ofNat_inj.symm
  case h_3 k h => simp [h]

theorem strips_iff_strip : Text.Strips answer.toList text.toList ↔ Text.strip answer = text := by
  rw [Text.strips_iff, Text.strip, ← String.toList_inj, String.toList_ofList]

theorem readText_eq_ok_iff :
    readText answer = .ok text ↔ text ≠ "" ∧ Text.Strips answer.toList text.toList := by
  rw [strips_iff_strip, readText]
  split
  case isTrue h =>
    have hempty := String.isEmpty_iff.1 h
    refine iff_of_false nofun fun ⟨hne, htext⟩ => hne (htext ▸ hempty)
  case isFalse h =>
    rw [Except.ok.injEq]
    refine (and_iff_right_of_imp ?_).symm
    rintro rfl hempty
    exact h (String.isEmpty_iff.2 hempty)

theorem exists_readText_error_iff :
    (∃ e, readText answer = .error e) ↔ Text.Strips answer.toList [] := by
  have hempty : Text.Strips answer.toList "".toList ↔ Text.strip answer = "" := strips_iff_strip
  rw [String.toList_empty] at hempty
  rw [hempty, readText, ← String.isEmpty_iff]
  split <;> simp_all

end Cyclomatic.Console
