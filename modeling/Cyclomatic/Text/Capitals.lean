/-!
# Capitals in ASCII

Which letters have capitals that are all ASCII letters. Besides the small letters of ASCII itself
these are the dotless i, the long s, the sharp s and the ligatures of `f` and of `st`.
-/

set_option autoImplicit false

namespace Cyclomatic.Text

/-- The letters beyond ASCII whose capitals are ASCII letters. -/
def asciiCapitals : List (Char × String) := [
  ('ı', "I"), ('ſ', "S"), ('ß', "SS"), ('ﬀ', "FF"), ('ﬁ', "FI"), ('ﬂ', "FL"), ('ﬃ', "FFI"),
  ('ﬄ', "FFL"), ('ﬅ', "ST"), ('ﬆ', "ST")]

/-- The capitals of a character if they are ASCII letters, else the character itself. -/
def capitals (c : Char) : List Char :=
  if 'a' ≤ c ∧ c ≤ 'z' then [Char.ofNat (c.toNat - 32)]
  else
    match asciiCapitals.lookup c with
    | some s => s.toList
    | none => [c]

end Cyclomatic.Text
