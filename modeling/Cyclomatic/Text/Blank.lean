import Cyclomatic.Text.Ranges

/-!
# Blanks

White space in the wide sense: the spaces of every script, tabs, line and page breaks, and the four
separator controls below the space. `strip` takes blanks off both ends of a text.
-/

set_option autoImplicit false

namespace Cyclomatic.Text

/-- The code points of white space, the controls 0x1c to 0x1f included. -/
def blankRanges : Ranges := [
  (0x9, 0xd), (0x1c, 0x20), (0x85, 0x85), (0xa0, 0xa0), (0x1680, 0x1680), (0x2000, 0x200a),
  (0x2028, 0x2029), (0x202f, 0x202f), (0x205f, 0x205f), (0x3000, 0x3000)]

/-- White space of any script. -/
def isBlank (c : Char) : Bool := blankRanges.contains c.toNat

/-- The characters between the first and the last one that is not blank. -/
def stripList (cs : List Char) : List Char :=
  ((cs.dropWhile isBlank).reverse.dropWhile isBlank).reverse

/-- The text without the blanks at its ends. -/
def strip (s : String) : String := String.ofList (stripList s.toList)

end Cyclomatic.Text
