import Cyclomatic.Class
import Cyclomatic.Reading.Body
import Cyclomatic.Reading.Imports

/-!
# Members of a class

`member` reads one member of a class body. A member names types, which the class comes to depend on,
and may be a method. Whatever starts no member takes one token and adds nothing.
-/

set_option autoImplicit false

namespace Cyclomatic.Reading

/-- What a member adds to its class. -/
structure Member where
  /-- The types that it names, a method's return type apart. -/
  types : List String := []
  /-- The method that it is. -/
  method? : Option Method := none

/-- Adds a member to a class. -/
def Member.addTo (c : Class) (m : Member) : Class :=
  let c := m.types.foldl Class.addDependency c
  match m.method? with
  | some method => c.addMethod method
  | none => c

/-- The next token if `t` marks a type as nullable, else `t`. -/
def skipNullable (t : Token) : Read Token :=
  if t.kind == .question then next else pure t

/-- The next token if `t` is the word `abstract`, else `t`. -/
def skipAbstract (t : Token) : Read Token :=
  if t.keyword? = some .abstract_ then next else pure t

/-- Takes all tokens up to a semicolon, and the semicolon. -/
def skipStatement : Read Unit := do
  let _ ← takeUntil (·.kind == .semicolon)
  let _ ← next

/-! ## Methods -/

/-- Reads the return type of a method, if a colon is next, and skips to the body or the semicolon.
Of a union or an intersection only the first type is read. -/
def returnType (imports : Imports) : Read (Option String) := do
  if ← nextIs (·.kind == .colon) then
    let _ ← next
    let t ← skipNullable (← next)
    let _ ← takeUntil fun t => t.kind == .leftBrace || t.kind == .semicolon
    pure (some (imports.resolve t))
  else pure none

/-- Whether a token is a parameter of the list that it stands in. -/
def isParam (t : Token) : Bool := startsWith t.lexeme '$'

/-- Reads a method after the word `function`. -/
def method (imports : Imports) (visibility : Visibility) : Read Member := do
  let name ← next
  let outside ← depth
  let _ ← next
  let list ← takeToDepth outside
  let returnType? ← returnType imports
  let outside ← depth
  let t ← next
  let isAbstract := t.kind == .semicolon
  let statements ← if isAbstract then pure [] else body outside
  pure
    { types := (list.filter (!isParam ·)).filterMap imports.type?
      method? := some
        { name := name.lexeme
          statements
          params := list.countP isParam
          returnType?
          visibility
          isAbstract } }

/-! ## Members -/

/-- Adds the type that a token names. -/
def typed (imports : Imports) (t : Token) : Member := { types := (imports.type? t).toList }

/-- Reads the rest of a member whose first keyword, a visibility apart, is `keyword`. -/
def declared (imports : Imports) (visibility : Visibility) : Keyword → Read Member
  | .readonly_ => do
    let t ← skipNullable (← next)
    pure (typed imports t)
  | .static_ => do
    let t ← skipNullable (← next)
    if t.keyword? = some .function_ then method imports visibility
    else pure (typed imports t)
  | .function_ => method imports visibility
  | _ => do
    skipStatement
    pure {}

/-- Reads the rest of a member that starts with a visibility: a typed property, or anything else. -/
def visible (imports : Imports) (visibility : Visibility) : Read Member := do
  let t ← skipAbstract (← next)
  let t ← skipNullable t
  match imports.type? t, t.keyword? with
  | some type, _ => pure { types := [type] }
  | none, some keyword => declared imports visibility keyword
  | none, none => pure {}

/-- Reads a member, or takes a token that starts none. -/
def member (imports : Imports) : Read Member := do
  let _ ← takeUntil fun t => t.keyword? ≠ some .abstract_
  let t ← next
  match t.keyword? with
  | none => pure {}
  | some .use_ => do
    let t ← next
    pure { types := [imports.resolve t] }
  | some keyword =>
    match keyword.visibility? with
    | some visibility => visible imports visibility
    | none => declared imports .public_ keyword

/-! ## Progress -/

theorem skipNullable_advances (t : Token) : Advances (skipNullable t) := by
  unfold skipNullable
  split
  · exact next_takes.advances
  · exact advances_pure t

theorem skipAbstract_advances (t : Token) : Advances (skipAbstract t) := by
  unfold skipAbstract
  split
  · exact next_takes.advances
  · exact advances_pure t

theorem skipStatement_advances : Advances skipStatement :=
  (takeUntil_advances _).bind fun _ => next_takes.advances.bind fun _ => advances_pure _

theorem returnType_advances (imports : Imports) : Advances (returnType imports) := by
  refine (nextIs_advances _).bind fun isColon => ?_
  split
  · exact next_takes.advances.bind fun _ => next_takes.advances.bind fun _ =>
      (skipNullable_advances _).bind fun _ => (takeUntil_advances _).bind fun _ => advances_pure _
  · exact advances_pure _

theorem method_advances (imports : Imports) (visibility : Visibility) :
    Advances (method imports visibility) := by
  refine next_takes.advances.bind fun _ => depth_advances.bind fun _ =>
    next_takes.advances.bind fun _ => (takeToDepth_advances _).bind fun _ =>
    (returnType_advances imports).bind fun _ => depth_advances.bind fun _ =>
    next_takes.advances.bind fun t => ?_
  dsimp only
  split
  · exact (advances_pure _).bind fun _ => advances_pure _
  · exact (body_advances _).bind fun _ => advances_pure _

theorem declared_advances (imports : Imports) (visibility : Visibility) (keyword : Keyword) :
    Advances (declared imports visibility keyword) := by
  unfold declared
  split
  · exact next_takes.advances.bind fun _ => (skipNullable_advances _).bind fun _ =>
      advances_pure _
  · refine next_takes.advances.bind fun _ => (skipNullable_advances _).bind fun t => ?_
    split
    · exact method_advances imports visibility
    · exact advances_pure _
  · exact method_advances imports visibility
  · exact skipStatement_advances.bind fun _ => advances_pure _

theorem visible_advances (imports : Imports) (visibility : Visibility) :
    Advances (visible imports visibility) := by
  refine next_takes.advances.bind fun _ => (skipAbstract_advances _).bind fun _ =>
    (skipNullable_advances _).bind fun t => ?_
  split
  · exact advances_pure _
  · exact declared_advances imports visibility _
  · exact advances_pure _

/-- A member takes at least one token. -/
theorem member_takes (imports : Imports) : Takes (member imports) := by
  refine (takeUntil_advances _).bind_takes fun _ => next_takes.bind fun t => ?_
  split
  · exact advances_pure _
  · exact next_takes.advances.bind fun _ => advances_pure _
  · split
    · exact visible_advances imports _
    · exact declared_advances imports _ _

end Cyclomatic.Reading
