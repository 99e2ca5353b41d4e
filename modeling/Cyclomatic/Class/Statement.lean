/-!
# Statements

The statements that add decision points to a method. A choice has cases and may have statements
nested in it; all others count one and have neither.
-/

set_option autoImplicit false

namespace Cyclomatic

/-- Statements that decide one thing. -/
inductive Decision where
  | if_ | elseif_ | for_ | foreach_ | throw_ | catch_
  deriving DecidableEq, Repr

/-- Statements that choose among cases. -/
inductive Choice where
  | switch_ | match_
  deriving DecidableEq, Repr

/-- A statement with decision points, and the line that it starts on. -/
inductive Statement where
  | decision (kind : Decision) (line : Int)
  | choice (kind : Choice) (line : Int) (cases : Int) (nested : List Statement)
  deriving Repr

/-- The name under which a kind of statement is reported. -/
def Decision.name : Decision → String
  | .if_ => "IF"
  | .elseif_ => "ELSEIF"
  | .for_ => "FOR"
  | .foreach_ => "FOREACH"
  | .throw_ => "THROW"
  | .catch_ => "CATCH"

/-- The name under which a kind of statement is reported. -/
def Choice.name : Choice → String
  | .switch_ => "SWITCH"
  | .match_ => "MATCH"

namespace Statement

/-- The name under which the statement's kind is reported. -/
def name : Statement → String
  | decision kind _ => kind.name
  | choice kind _ _ _ => kind.name

/-- The line that the statement starts on. -/
def line : Statement → Int
  | decision _ line => line
  | choice _ line _ _ => line

mutual

/-- The decision points of a statement: one for a decision, one a case for a choice. Only a switch
also counts what is nested in it. -/
def complexity : Statement → Int
  | decision _ _ => 1
  | choice .match_ _ cases _ => cases
  | choice .switch_ _ cases nested => cases + complexityOfAll nested

/-- The decision points of several statements. -/
def complexityOfAll : List Statement → Int
  | [] => 0
  | s :: rest => s.complexity + complexityOfAll rest

end

/-- The statement in a listing: its kind, its line and, for a choice, its number of cases. -/
def text : Statement → String
  | decision kind line => kind.name ++ " (línea " ++ toString line ++ ")"
  | choice kind line cases _ =>
    kind.name ++ " (línea " ++ toString line ++ ", casos: " ++ toString cases ++ ")"

end Statement

end Cyclomatic
