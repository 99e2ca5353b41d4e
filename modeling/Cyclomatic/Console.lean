import Cyclomatic.Console.Terminal
import Cyclomatic.Text.Integer

/-!
# The console

How messages are framed for a terminal, and how the answers to questions are read. A message is
escaped before it is put into its frame.
-/

set_option autoImplicit false

namespace Cyclomatic.Console

/-! ## Messages -/

section

variable [Terminal]

/-- A line of plain text. -/
def line (s : String) : String := Terminal.line s

/-- A line of markup. -/
def markupLine (markup : String) : String := Terminal.render markup

/-- A message in a style. -/
def styled (style message : String) : String :=
  "[" ++ style ++ "]" ++ Terminal.escape message ++ "[/]"

/-- The style of titles. -/
def titleStyle : String := "underline yellow"

/-- Says that something was done. -/
def success (message : String) : String := markupLine ("\n" ++ styled "green" message ++ "\n")

/-- Warns of something. -/
def danger (message : String) : String := markupLine ("\n" ++ styled "red" message ++ "\n")

/-- Says what is wrong. -/
def error (message : String) : String := markupLine ("\nError: " ++ styled "red" message ++ "\n")

/-- A title with a line above and below it. -/
def title (message : String) : String :=
  markupLine ("\n* --- " ++ styled titleStyle message ++ " --- *\n")

/-- An underlined line. -/
def underlined (message : String) : String := markupLine (styled titleStyle message)

/-- A question. -/
def question (message : String) : String := markupLine (styled "blue" message)

/-- A numbered item of a list. -/
def item (number : Nat) (message : String) : String :=
  markupLine ("  " ++ toString number ++ ". " ++ Terminal.escape message)

/-- The items of a list, numbered from `number`. -/
def itemsFrom (number : Nat) : List String → String
  | [] => ""
  | message :: rest => item number message ++ itemsFrom (number + 1) rest

/-- A list, numbered from one. -/
def list (items : List String) : String := itemsFrom 1 items

end

/-! ## Answers -/

/-- What comes in answer to a question. -/
inductive Answer where
  | text (s : String)
  | unreadable
  | ended
  deriving DecidableEq, Repr

/-- Why an answer is refused. -/
inductive InputError where
  | empty
  /-- The text is no integer. -/
  | notNumber (text : String)
  | negative
  deriving DecidableEq, Repr

/-- The words for a refusal. -/
def InputError.message : InputError → String
  | empty => "La entrada no puede estar vacía"
  | notNumber text => "No se pudo interpretar '" ++ text ++ "' como número"
  | negative => "El número no puede ser negativo"

/-- Reads an answer as text: blanks at its ends do not count. -/
def readText (answer : String) : Except InputError String :=
  let text := Text.strip answer
  if text.isEmpty then .error .empty else .ok text

/-- Reads an answer as a number that is not negative. -/
def readNumber (answer : String) : Except InputError Nat :=
  let text := Text.strip answer
  match Text.integer? text with
  | none => .error (.notNumber text)
  | some (.ofNat n) => .ok n
  | some (.negSucc _) => .error .negative

end Cyclomatic.Console
