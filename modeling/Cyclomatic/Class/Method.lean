import Cyclomatic.Class.Statement
import Cyclomatic.Token.Keyword

/-!
# Methods

A method of a class and its cyclomatic complexity.
-/

set_option autoImplicit false

namespace Cyclomatic

/-- A method. -/
structure Method where
  name : String
  /-- The statements of its body that have decision points. -/
  statements : List Statement := []
  /-- How many parameters it takes. -/
  params : Int := 0
  /-- The full name of its return type, if one is declared. -/
  returnType? : Option String := none
  /-- Who may call it. -/
  visibility : Visibility := .public_
  isAbstract : Bool := false
  deriving Repr

namespace Method

/-- The name of constructors. -/
def constructorName : String := "__construct"

/-- Whether the method is its class's constructor. -/
def isConstructor (m : Method) : Bool := m.name == constructorName

/-- One more than the decision points of the body. -/
def complexity (m : Method) : Int := Statement.complexityOfAll m.statements + 1

/-- The sum of the complexities. -/
def complexityOfAll : List Method → Int
  | [] => 0
  | m :: rest => m.complexity + complexityOfAll rest

/-- The return type in a listing; a constructor returns its own class. -/
def returnTypeText (m : Method) : String :=
  if m.isConstructor then "self" else m.returnType?.getD "No indicado"

end Method

end Cyclomatic
