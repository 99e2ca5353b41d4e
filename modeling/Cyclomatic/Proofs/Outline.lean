import Cyclomatic.Proofs.Token.Pieces
import Cyclomatic.Proofs.Token.Words
import Cyclomatic.Reading.File

/-!
# Outlines of classes

An `Outline` is what can be known of a class from its outside: its namespace, its name, whether it
is abstract, its parent, and for each method the signature and the shape of its body. An outline is
written as a source text (`Outline.source`) and stands for a class (`Outline.toClass`). All of the
text is on one line.
-/

set_option autoImplicit false

namespace Cyclomatic

open Token

/-- A name that is one identifier; keywords are among them. -/
structure Word where
  text : List Char
  isIdentifier : isIdentifierText text = true

/-- The name itself. -/
def Word.name (w : Word) : String := String.ofList w.text

/-- The name as it is written. -/
def Word.piece (w : Word) : Piece := .word w.text

/-- The keyword that a visibility is declared with. -/
def Visibility.keyword : Visibility → Keyword
  | .public_ => .public_
  | .private_ => .private_
  | .protected_ => .protected_

/-- The statements of a body that have decision points, without the lines they are on. -/
inductive Shape where
  | decision (kind : Decision)
  | match_ (arms : Nat)
  | switch_ (cases : Nat) (nested : List Shape)

/-- A method: its signature, and the shape of its body if it has one. -/
structure MethodOutline where
  name : Word
  visibility : Visibility
  params : Nat
  returnType? : Option Word
  body? : Option (List Shape)

/-- A class. -/
structure Outline where
  base : Word
  name : Word
  isAbstract : Bool
  parent? : Option Word
  methods : List MethodOutline

/-! ## The text -/

namespace Outline

/-- A keyword and a blank. -/
def keyword (k : Keyword) : Piece := (Piece.word k.spelling.toList).spaced

/-- A sign and a blank. -/
def mark (kind : Kind) : Piece := (Piece.sign kind).spaced

/-- The variable `$x`. -/
def variable_ : Piece := .word ['$', 'x']

/-- The number `1`. -/
def one : Piece := .integer ['1']

/-- `($x) `. -/
def head : List Piece := [.sign .leftParen, variable_, mark .rightParen]

/-- `1 => 1, `. -/
def arm : List Piece := [one.spaced, mark .fatArrow, one, mark .comma]

/-- `case 1: `. -/
def label : List Piece := [keyword .case_, one, mark .colon]

end Outline

namespace Shape

open Outline

mutual

/-- The text of a statement. -/
def pieces : Shape → List Piece
  | decision .throw_ => [keyword .throw_, variable_, mark .semicolon]
  | decision kind => keyword kind.keyword :: (head ++ [.sign .leftBrace, mark .rightBrace])
  | match_ arms => keyword .match_ :: (head ++ mark .leftBrace ::
      ((List.replicate arms arm).flatten ++ [.sign .rightBrace, mark .semicolon]))
  | switch_ cases nested => keyword .switch_ :: (head ++ mark .leftBrace ::
      ((List.replicate cases label).flatten ++ piecesOfAll nested ++ [mark .rightBrace]))

/-- The text of several statements. -/
def piecesOfAll : List Shape → List Piece
  | [] => []
  | s :: rest => s.pieces ++ piecesOfAll rest

end

mutual

/-- The statement of a shape, on the first line. -/
def statement : Shape → Statement
  | decision kind => .decision kind 1
  | match_ arms => .choice .match_ 1 arms []
  | switch_ cases nested => .choice .switch_ 1 cases (statements nested)

/-- The statements of several shapes. -/
def statements : List Shape → List Statement
  | [] => []
  | s :: rest => s.statement :: statements rest

end

end Shape

namespace MethodOutline

open Outline

/-- The name of the `i`-th parameter. -/
def param (i : Nat) : List Char := '$' :: 'p' :: Nat.toDigits 10 i

/-- The names of as many parameters as there are. -/
def paramNames (params : Nat) : List (List Char) := (List.range' 1 params).map param

/-- Names with a comma and a blank between them. -/
def listed : List (List Char) → List Piece
  | [] => []
  | [text] => [.word text]
  | text :: other :: rest => .word text :: mark .comma :: listed (other :: rest)

/-- `) ` or `): T `. -/
def returnPieces : Option Word → List Piece
  | none => [mark .rightParen]
  | some type => [.sign .rightParen, mark .colon, type.piece.spaced]

/-- The body in its braces, or a semicolon. -/
def bodyPieces : Option (List Shape) → List Piece
  | none => [mark .semicolon]
  | some shapes => mark .leftBrace :: (Shape.piecesOfAll shapes ++ [mark .rightBrace])

/-- The text of a method from its name on. -/
def piecesFromName (m : MethodOutline) : List Piece :=
  m.name.piece :: .sign .leftParen ::
    (listed (paramNames m.params) ++ returnPieces m.returnType? ++ bodyPieces m.body?)

/-- The text of a method. -/
def pieces (m : MethodOutline) : List Piece :=
  keyword m.visibility.keyword :: keyword .function_ :: m.piecesFromName

end MethodOutline

namespace Outline

/-- What the parent is written with. -/
def parentPieces : Option Word → List Piece
  | none => []
  | some parent => [keyword .extends_, parent.piece.spaced]

/-- The text of a class from its name on. -/
def piecesFromName (c : Outline) : List Piece :=
  c.name.piece.spaced :: (parentPieces c.parent? ++ mark .leftBrace ::
    (c.methods.flatMap MethodOutline.pieces ++ [.sign .rightBrace]))

/-- The text of a class after the namespace. -/
def declarationPieces (c : Outline) : List Piece :=
  (if c.isAbstract then [keyword .abstract_] else []) ++ keyword .class_ :: c.piecesFromName

/-- The text of a class. -/
def pieces (c : Outline) : List Piece :=
  Piece.tag.spaced :: keyword .namespace_ :: c.base.piece :: mark .semicolon ::
    c.declarationPieces

/-- The source text of a class. -/
def source (c : Outline) : String := String.ofList (Piece.writtenAll c.pieces)

/-! ## The class -/

/-- What is known about names after the namespace is declared. -/
def imports (c : Outline) : Reading.Imports := { base := c.base.name }

/-- What a name stands for as a type. -/
def resolve (c : Outline) (type : Word) : String :=
  c.imports.resolve ⟨.identifier, 1, type.name⟩

/-- The method of an outline. -/
def method (c : Outline) (m : MethodOutline) : Method where
  name := m.name.name
  statements := Shape.statements (m.body?.getD [])
  params := m.params
  returnType? := m.returnType?.map c.resolve
  visibility := m.visibility
  isAbstract := m.body?.isNone

/-- The class of an outline: its methods by descending complexity, and their return types, in the
order of the text, as dependencies. -/
def toClass (c : Outline) : Class where
  name := c.base.name ++ "\\" ++ c.name.name
  methods := (c.methods.map c.method).mergeSort fun a b => b.complexity ≤ a.complexity
  parent? := c.parent?.map c.resolve
  interfaces := []
  isAbstract := c.isAbstract
  dependencies := (c.methods.filterMap fun m => m.returnType?.map c.resolve).foldl Class.offer []

end Outline

end Cyclomatic
