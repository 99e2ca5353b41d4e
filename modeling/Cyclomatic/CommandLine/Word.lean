import Cyclomatic.CommandLine.Switch
import Cyclomatic.Text.Digit

/-!
# Words of the command line

Every argument is a value, a switch or the separator `--`, behind which all arguments are values. A
long switch may be cut short as long as only one fits, and a value may be attached to a switch:
behind an equals sign, or right behind the letter of a short one. A lone hyphen, a negative number
and a text with a space are values, unless they spell a switch.
-/

set_option autoImplicit false

namespace Cyclomatic.CommandLine

/-- An argument. -/
inductive Word where
  | value (s : String)
  | separator
  /-- A switch, as it is spelled in full, with the text that is attached to it. -/
  | switch (s : Switch) (isLong : Bool) (attached? : Option (List Char))
  /-- What looks like a switch and is none. -/
  | unknown (s : String)
  deriving DecidableEq, Repr

/-- A switch that is cut too short. -/
structure Ambiguity where
  argument : String
  spellings : List String
  deriving DecidableEq, Repr

namespace Word

/-- Whether a spelling is a long one. -/
def isLong (spelling : String) : Bool := ['-', '-'].isPrefixOf spelling.toList

/-- An argument divided at its first equals sign. -/
def divide (cs : List Char) : List Char × Option (List Char) :=
  match cs.dropWhile (· ≠ '=') with
  | _ :: rest => (cs.takeWhile (· ≠ '='), some rest)
  | [] => (cs, none)

/-- The spellings that an argument could stand for, with what is attached to them. -/
def candidates (cs : List Char) : List (String × Switch × Option (List Char)) :=
  match cs with
  | '-' :: '-' :: _ =>
    let (start, attached?) := divide cs
    (Switch.table.filter fun (spelling, _) => start.isPrefixOf spelling.toList).map
      fun (spelling, s) => (spelling, s, attached?)
  | a :: b :: rest =>
    (Switch.table.filter fun (spelling, _) => spelling.toList == [a, b]).map
      fun (spelling, s) => (spelling, s, some rest)
  | _ => []

/-- Whether a text is digits, of which there is at least one. -/
def isDigits (cs : List Char) : Bool :=
  !cs.isEmpty && cs.all fun c => (Text.decimalValue? c).isSome

/-- The text without one line break at its end. -/
def dropFinalBreak (cs : List Char) : List Char :=
  match cs.reverse with
  | '\n' :: rest => rest.reverse
  | _ => cs

/-- Whether a text is a negative number, whole or with a point. -/
def isNegativeNumber (cs : List Char) : Bool :=
  match cs with
  | '-' :: rest =>
    let rest := dropFinalBreak rest
    isDigits rest ||
      match rest.dropWhile fun c => (Text.decimalValue? c).isSome with
      | '.' :: fraction => isDigits fraction
      | _ => false
  | _ => false

/-- Reads an argument before the separator. -/
def ofArgument (argument : String) : Except Ambiguity Word :=
  let cs := argument.toList
  if cs.head? ≠ some '-' then .ok (.value argument)
  else
    match Switch.ofSpelling? argument with
    | some s => .ok (.switch s (isLong argument) none)
    | none =>
      if cs = ['-'] then .ok (.value argument)
      else
        let (start, attached?) := divide cs
        match Switch.ofSpelling? (String.ofList start) with
        | some s => .ok (.switch s (isLong argument) attached?)
        | none =>
          match candidates cs with
          | [(spelling, s, attached?)] => .ok (.switch s (isLong spelling) attached?)
          | [] =>
            if isNegativeNumber cs || cs.contains ' ' then .ok (.value argument)
            else .ok (.unknown argument)
          | several => .error ⟨argument, several.map (·.1)⟩

/-- Reads the arguments. -/
def ofArguments : List String → Except Ambiguity (List Word)
  | [] => .ok []
  | "--" :: rest => .ok (.separator :: rest.map .value)
  | argument :: rest => do
    let word ← ofArgument argument
    let words ← ofArguments rest
    pure (word :: words)

end Word

end Cyclomatic.CommandLine
