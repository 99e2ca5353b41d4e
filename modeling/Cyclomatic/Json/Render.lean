import Cyclomatic.Json
import Cyclomatic.Double.Decimal
import Cyclomatic.Text.Quoted

/-!
# The text of a document

`Json.compact` writes a document on one line, with a space after each comma and colon;
`Json.indented` gives every item and member a line of its own. Both write only ASCII: all else is
escaped, in UTF-16 units.
-/

set_option autoImplicit false

namespace Cyclomatic.Json

/-! ## Texts -/

/-- A UTF-16 unit as an escape. -/
def unitEscape (unit : Nat) : List Char := '\\' :: 'u' :: Text.hexDigits 4 unit

/-- One character of a text. -/
def escapedChar (c : Char) : List Char :=
  if c = '"' || c = '\\' then ['\\', c]
  else if c = '\n' then ['\\', 'n']
  else if c = '\r' then ['\\', 'r']
  else if c = '\t' then ['\\', 't']
  else if c.toNat = 8 then ['\\', 'b']
  else if c.toNat = 12 then ['\\', 'f']
  else if 0x20 ≤ c.toNat && c.toNat < 0x7f then [c]
  else if c.toNat < 0x10000 then unitEscape c.toNat
  else
    unitEscape (0xd800 + (c.toNat - 0x10000) / 0x400)
      ++ unitEscape (0xdc00 + (c.toNat - 0x10000) % 0x400)

/-- A text between double quotes. -/
def escapedText (s : String) : String :=
  String.ofList ('"' :: s.toList.flatMap escapedChar ++ ['"'])

/-! ## Numbers -/

/-- A double; what is not finite is written as a word. -/
def doubleText : Double → String
  | .infinite negative => Double.sign negative ++ "Infinity"
  | .nan => "NaN"
  | x => x.shortest

/-! ## Documents -/

/-- What stands between the parts of a document. -/
structure Layout where
  /-- The spaces that each level of a document is set in by; none for a document on one line. -/
  indent : Option Nat

/-- What stands before an item at the given level, the first one or a later one. -/
def Layout.lead (layout : Layout) (level : Nat) (first : Bool) : String :=
  match layout.indent with
  | some width =>
    (if first then "\n" else ",\n") ++ String.ofList (List.replicate (width * level) ' ')
  | none => if first then "" else ", "

/-- What stands before the closing bracket of a list or object at the given level. -/
def Layout.close (layout : Layout) (level : Nat) : String :=
  match layout.indent with
  | some width => "\n" ++ String.ofList (List.replicate (width * level) ' ')
  | none => ""

mutual

/-- Writes a document that stands at `level`. -/
def write (layout : Layout) (level : Nat) : Json → String
  | .null => "null"
  | .bool true => "true"
  | .bool false => "false"
  | .int n => toString n
  | .double x => doubleText x
  | .text s => escapedText s
  | .list [] => "[]"
  | .list (item :: items) =>
    "[" ++ writeItems layout (level + 1) true (item :: items) ++ layout.close level ++ "]"
  | .object [] => "\x7b\x7d"
  | .object (m :: members) =>
    "\x7b" ++ writeMembers layout (level + 1) true (m :: members) ++ layout.close level ++ "\x7d"

/-- Writes the items of a list. -/
def writeItems (layout : Layout) (level : Nat) (first : Bool) : List Json → String
  | [] => ""
  | item :: items =>
    layout.lead level first ++ write layout level item ++ writeItems layout level false items

/-- Writes the members of an object. -/
def writeMembers (layout : Layout) (level : Nat) (first : Bool) : List (String × Json) → String
  | [] => ""
  | (key, value) :: members =>
    layout.lead level first ++ escapedText key ++ ": " ++ write layout level value
      ++ writeMembers layout level false members

end

/-- The document on one line. -/
def compact (document : Json) : String := write ⟨none⟩ 0 document

/-- The document with each item and member on a line of its own, set in by `width` a level. -/
def indented (width : Nat) (document : Json) : String := write ⟨some width⟩ 0 document

end Cyclomatic.Json
