import Cyclomatic.Class.Statement
import Cyclomatic.Reading.Tape
import Cyclomatic.Token.Keyword

/-!
# Method bodies

`body` reads the statements of a method in one pass over its tokens. It keeps the choices that are
open, the innermost first; a closing brace that comes back to the depth where a choice starts ends
it. Outside of a `match`, keywords count unless they follow `->` or `::`; inside of one only its
arrows do.
-/

set_option autoImplicit false

namespace Cyclomatic.Reading

/-- A choice that is not closed yet. -/
structure OpenChoice where
  kind : Choice
  /-- The line that it starts on. -/
  line : Int
  depth : Nat
  /-- The cases met so far. -/
  cases : Nat := 0
  /-- The statements met in it so far, the last one first. -/
  nested : List Statement := []

/-- What has been read of a body. -/
structure Progress where
  /-- The open choices, the innermost first. -/
  choices : List OpenChoice := []
  /-- The statements met outside of them, the last one first. -/
  statements : List Statement := []

/-- The decision that a keyword is. -/
def decision? : Keyword → Option Decision
  | .if_ => some .if_
  | .elseif_ => some .elseif_
  | .for_ => some .for_
  | .foreach_ => some .foreach_
  | .throw_ => some .throw_
  | .catch_ => some .catch_
  | _ => none

/-- The choice that a keyword starts. -/
def choice? : Keyword → Option Choice
  | .switch_ => some .switch_
  | .match_ => some .match_
  | _ => none

namespace Progress

/-- Adds a statement to the innermost open choice, or to the body. -/
def add (s : Statement) (p : Progress) : Progress :=
  match p.choices with
  | [] => { p with statements := s :: p.statements }
  | c :: outer => { p with choices := { c with nested := s :: c.nested } :: outer }

/-- Counts a case of the innermost open choice. -/
def addCase (p : Progress) : Progress :=
  match p.choices with
  | [] => p
  | c :: outer => { p with choices := { c with cases := c.cases + 1 } :: outer }

/-- Closes the innermost open choice, which becomes a statement. -/
def close (p : Progress) : Progress :=
  match p.choices with
  | [] => p
  | c :: outer =>
    { p with choices := outer }.add (.choice c.kind c.line c.cases c.nested.reverse)

/-- Starts a statement with a keyword, if it starts one. -/
def start (keyword : Keyword) (line : Int) (depth : Nat) (p : Progress) : Progress :=
  match decision? keyword, choice? keyword with
  | some kind, _ => p.add (.decision kind line)
  | none, some kind => { p with choices := ⟨kind, line, depth, 0, []⟩ :: p.choices }
  | none, none => p

/-- Whether a token's successor is a member's name and no keyword. -/
def skipsMember (t : Token) (p : Progress) : Bool :=
  t.isMemberAccess && !p.choices.head?.any (·.kind == .match_)

/-- Takes a token after which `depth` brackets are open. -/
def take (t : Token) (depth : Nat) (p : Progress) : Progress :=
  match p.choices with
  | [] =>
    match t.keyword? with
    | some keyword => p.start keyword t.line depth
    | none => p
  | c :: _ =>
    if t.kind == .rightBrace && depth == c.depth then p.close
    else
      match c.kind with
      | .match_ => if t.kind == .fatArrow then p.addCase else p
      | .switch_ =>
        match t.keyword? with
        | some .case_ => p.addCase
        | some keyword => p.start keyword t.line depth
        | none => p

/-- The fault of a body that ends here. -/
def endFault (p : Progress) : Fault :=
  match p.choices with
  | [] => .unexpectedEnd
  | c :: _ =>
    match c.kind with
    | .switch_ => .unclosedSwitch c.line
    | .match_ => .unclosedMatch c.line

end Progress

/-- Reads statements until no choice is open and `depth` brackets are. -/
def bodyFrom (depth : Nat) (p : Progress) : List Token → List Bracket → Result (List Statement)
  | [], brackets =>
    if p.choices.isEmpty && brackets.length == depth then
      .ok p.statements.reverse ⟨[], brackets⟩
    else .error p.endFault ⟨[], brackets⟩
  | t :: left, brackets =>
    if p.choices.isEmpty && brackets.length == depth then
      .ok p.statements.reverse ⟨t :: left, brackets⟩
    else
      match fault? t brackets with
      | some fault => .error fault ⟨left, after t brackets⟩
      | none =>
        let brackets := after t brackets
        if p.skipsMember t then
          match left with
          | [] => bodyFrom depth p [] brackets
          | u :: rest =>
            if u.isIdentifier then bodyFrom depth p rest brackets
            else bodyFrom depth p (u :: rest) brackets
        else bodyFrom depth (p.take t brackets.length) left brackets

/-- Reads the statements of a body, up to where `depth` brackets are open again. -/
def body (depth : Nat) : Read (List Statement) := fun tape =>
  bodyFrom depth {} tape.left tape.brackets

theorem bodyFrom_length {depth : Nat} {p : Progress} {left : List Token} {brackets : List Bracket}
    {statements : List Statement} {rest : Tape}
    (h : bodyFrom depth p left brackets = .ok statements rest) :
    rest.left.length ≤ left.length := by
  fun_induction bodyFrom depth p left brackets <;> grind

theorem body_advances (depth : Nat) : Advances (body depth) := fun _ _ _ h => bodyFrom_length h

end Cyclomatic.Reading
