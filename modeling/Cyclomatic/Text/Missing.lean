/-!
# Missing values

A value that was asked for and not given shows as an empty list.
-/

set_option autoImplicit false

namespace Cyclomatic.Text

/-- The text of a value that may be missing. -/
def orMissing (text? : Option String) : String := text?.getD "[]"

end Cyclomatic.Text
