import Cyclomatic.Token.Head

/-!
# The tokens of a text

A `Cursor` stands in a text, on a line. `scan` skips blanks and comments and reads the next token;
it also says where the cursor stands after a fault, so that scanning can go on behind it.
`Token.ofText` reads a whole text, up to the first fault.

`scan_remaining_lt` says that a token or a fault moves the cursor forward, so that scanning ends.
-/

set_option autoImplicit false

namespace Cyclomatic.Token

/-- A place in a text. -/
structure Cursor where
  rest : List Char
  /-- The number of the line, counted from one. -/
  line : Nat
  deriving DecidableEq, Repr

/-- The start of a text. -/
def Cursor.start (text : List Char) : Cursor := ⟨text, 1⟩

/-- The place behind `text`, if `rest` follows there. -/
def Cursor.past (cursor : Cursor) (text rest : List Char) : Cursor :=
  ⟨rest, cursor.line + text.count '\n'⟩

/-- A fault in a text. -/
structure Fault where
  /-- The line on which it shows. -/
  line : Nat
  cause : Cause
  deriving DecidableEq, Repr

/-- The line and the cause of a fault. -/
def Fault.message (fault : Fault) : String :=
  "línea " ++ toString fault.line ++ ": " ++ fault.cause.message

/-! ## Blanks and comments -/

/-- The blanks between tokens. -/
def isBlank (c : Char) : Bool := c == ' ' || c == '\t' || c == '\r' || c == '\n'

/-- Where a search for the next token stands. -/
inductive Place where
  | between
  /-- In a comment that ends with the line. -/
  | lineComment
  /-- In a comment that ends with a star and a slash. -/
  | blockComment
  deriving DecidableEq, Repr

/-- The text up to the next token. -/
structure Gap where
  text : List Char
  rest : List Char
  /-- Whether no block comment is left open. -/
  closed : Bool
  deriving DecidableEq, Repr

/-- The gap with one character more in front. -/
def Gap.cons (c : Char) (gap : Gap) : Gap := { gap with text := c :: gap.text }

/-- Passes over blanks and comments. -/
def skip : Place → List Char → Gap
  | .between, [] => ⟨[], [], true⟩
  | .between, '/' :: '/' :: rest => ((skip .lineComment rest).cons '/').cons '/'
  | .between, '/' :: '*' :: rest => ((skip .blockComment rest).cons '*').cons '/'
  | .between, c :: rest =>
    if isBlank c then (skip .between rest).cons c else ⟨[], c :: rest, true⟩
  | .lineComment, [] => ⟨[], [], true⟩
  | .lineComment, '\n' :: rest => (skip .between rest).cons '\n'
  | .lineComment, c :: rest => (skip .lineComment rest).cons c
  | .blockComment, [] => ⟨[], [], false⟩
  | .blockComment, '*' :: '/' :: rest => ((skip .between rest).cons '/').cons '*'
  | .blockComment, c :: rest => (skip .blockComment rest).cons c

/-- What is passed over and what follows make up the text. -/
theorem skip_append (place : Place) (cs : List Char) :
    (skip place cs).text ++ (skip place cs).rest = cs := by
  fun_induction skip place cs <;> simp_all [Gap.cons]

/-- An open comment reaches to the end of the text. -/
theorem skip_rest_of_open {place : Place} {cs : List Char} (h : (skip place cs).closed = false) :
    (skip place cs).rest = [] := by
  fun_induction skip place cs <;> simp_all [Gap.cons]

/-! ## One token -/

/-- What scanning finds. -/
inductive Scan where
  /-- The end of the text. -/
  | done (next : Cursor)
  | token (t : Token) (next : Cursor)
  /-- A fault; the cursor stands where it showed. -/
  | fault (f : Fault) (next : Cursor)
  deriving DecidableEq, Repr

/-- Where the cursor stands afterwards. -/
@[simp] def Scan.next : Scan → Cursor
  | done next => next
  | token _ next => next
  | fault _ next => next

/-- Reads the next token. Tokens and faults are on the line where the cursor stands after them. -/
def scan (cursor : Cursor) : Scan :=
  let gap := skip .between cursor.rest
  let here := cursor.past gap.text gap.rest
  if gap.closed then
    match gap.rest with
    | [] => .done here
    | c :: rest =>
      match Head.of c rest with
      | .token kind lexeme text rest =>
        let next := here.past text rest
        .token ⟨kind, next.line, String.ofList lexeme⟩ next
      | .fault cause text rest =>
        let next := here.past text rest
        .fault ⟨next.line, cause⟩ next
  else .fault ⟨here.line, .unclosedComment⟩ here

/-- A cursor moves forward unless it has reached the end. -/
theorem scan_remaining_lt {cursor : Cursor} (h : ∀ next, scan cursor ≠ .done next) :
    (scan cursor).next.rest.length < cursor.rest.length := by
  have hs := congrArg List.length (skip_append .between cursor.rest)
  rw [List.length_append] at hs
  unfold scan at h ⊢
  dsimp only at h ⊢
  split
  · rename_i hc
    simp only [hc, if_true] at h
    split
    · rename_i hr
      simp [hr] at h
    · rename_i c rest hr
      have hl := Head.remaining_length_lt c rest
      rw [hr] at hs
      split <;> rename_i he <;> rw [he] at hl <;>
        simp only [Head.remaining, Cursor.past, Scan.next, List.length_cons] at hl hs ⊢ <;> omega
  · rename_i hc
    have ho : (skip .between cursor.rest).closed = false := by simpa using hc
    have hne : cursor.rest ≠ [] := by
      intro he
      rw [he] at ho
      simp [skip] at ho
    simpa [Scan.next, Cursor.past, skip_rest_of_open ho] using List.length_pos_iff.2 hne

/-! ## A whole text -/

/-- The tokens from a cursor on, up to the end or the first fault. -/
def scanAll (cursor : Cursor) : Except Fault (List Token) :=
  match _h : scan cursor with
  | .done _ => .ok []
  | .fault fault _ => .error fault
  | .token t next => (scanAll next).map (t :: ·)
  termination_by cursor.rest.length
  decreasing_by
    have hl : (scan cursor).next.rest.length < cursor.rest.length :=
      scan_remaining_lt (by simp [_h])
    simpa [_h] using hl

/-- The tokens of a text, or its first fault. -/
def ofText (text : String) : Except Fault (List Token) := scanAll (.start text.toList)

end Cyclomatic.Token
