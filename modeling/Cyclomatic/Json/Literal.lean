import Cyclomatic.Json
import Cyclomatic.Double.Decimal
import Cyclomatic.Text.Quoted

/-!
# Documents inside messages

`Json.literal` shows a document in a message: texts are quoted as messages quote them, and the three
constants are `None`, `True` and `False`.
-/

set_option autoImplicit false

namespace Cyclomatic.Json

mutual

/-- The document as a message shows it. -/
def literal : Json → String
  | .null => "None"
  | .bool true => "True"
  | .bool false => "False"
  | .int n => toString n
  | .double x => x.shortest
  | .text s => Text.quoted s
  | .list items => "[" ++ literalItems true items ++ "]"
  | .object members => "\x7b" ++ literalMembers true members ++ "\x7d"

/-- The items of a list, with a comma between two. -/
def literalItems (first : Bool) : List Json → String
  | [] => ""
  | item :: items => (if first then "" else ", ") ++ literal item ++ literalItems false items

/-- The members of an object, with a comma between two. -/
def literalMembers (first : Bool) : List (String × Json) → String
  | [] => ""
  | (key, value) :: members =>
    (if first then "" else ", ") ++ Text.quoted key ++ ": " ++ literal value
      ++ literalMembers false members

end

end Cyclomatic.Json
