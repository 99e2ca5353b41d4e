import Cyclomatic.Double

/-!
# JSON documents

A document keeps the order of its members and tells whole numbers from doubles, since both show in
its text.
-/

set_option autoImplicit false

namespace Cyclomatic

/-- A JSON document. -/
inductive Json where
  | null
  | bool (b : Bool)
  | int (n : Int)
  | double (x : Double)
  | text (s : String)
  | list (items : List Json)
  | object (members : List (String × Json))
  deriving Repr, Inhabited

namespace Json

/-- A text, or null. -/
def textOrNull : Option String → Json
  | some s => .text s
  | none => .null

/-- A list of texts. -/
def texts (items : List String) : Json := .list (items.map .text)

end Json

end Cyclomatic
