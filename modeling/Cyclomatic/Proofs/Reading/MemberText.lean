import Cyclomatic.Proofs.Token.Sorts

/-!
# The text of members

The members of a class as they are written: uses of traits, properties, and methods with empty bodies.
`MemberText.types` are the types that a member mentions, in the order of the text.
-/

set_option autoImplicit false

namespace Cyclomatic.Reading

open Token

/-- `T` or `?T`. -/
structure TypeText where
  question? : Option (Sign .question)
  name : TypeName

/-- The type as it is written. -/
def TypeText.tokens (type : TypeText) : List Token :=
  type.question?.toList.map (·.1) ++ [type.name.1]

/-- `[V] [readonly] [?]T[|U…] [&] [...] $p`. -/
structure ParamText where
  visibility? : Option VisibilityWord
  readonly? : Option (Reserved .readonly_)
  type : TypeText
  others : List (Sign .pipe × TypeName)
  reference? : Option (Sign .reference)
  dots? : Option (Sign .dot × Sign .dot × Sign .dot)
  name : Token.Variable

namespace ParamText

def tokens (p : ParamText) : List Token :=
  p.visibility?.toList.map (·.1) ++ (p.readonly?.toList.map (·.1) ++ (p.type.tokens ++
    (p.others.flatMap (fun other => [other.1.1, other.2.1]) ++ (p.reference?.toList.map (·.1) ++
      (p.dots?.toList.flatMap (fun dots => [dots.1.1, dots.2.1.1, dots.2.2.1]) ++ [p.name.1])))))

def types (p : ParamText) : List Token := p.type.name.1 :: p.others.map (·.2.1)

end ParamText

/-- `V [static] function f(…)[: [?]T] {}`. All parameters but the last are followed by commas; the
last one may be, too. -/
structure MethodText where
  visibility : VisibilityWord
  static? : Option (Reserved .static_)
  function : Reserved .function_
  name : Name
  opening : Sign .leftParen
  params : List (ParamText × Sign .comma)
  last? : Option ParamText
  closing : Sign .rightParen
  return? : Option (Sign .colon × TypeText)
  bodyOpening : Sign .leftBrace
  bodyClosing : Sign .rightBrace

namespace MethodText

def paramTokens (m : MethodText) : List Token :=
  m.params.flatMap (fun p => p.1.tokens ++ [p.2.1]) ++ m.last?.toList.flatMap ParamText.tokens

def paramTypes (m : MethodText) : List Token :=
  m.params.flatMap (·.1.types) ++ m.last?.toList.flatMap ParamText.types

def returnTokens (m : MethodText) : List Token :=
  m.return?.toList.flatMap fun r => r.1.1 :: r.2.tokens

/-- The method from its name on. -/
def tokensFromName (m : MethodText) : List Token :=
  m.name.1 :: m.opening.1 :: (m.paramTokens ++ m.closing.1 :: (m.returnTokens ++
    [m.bodyOpening.1, m.bodyClosing.1]))

def tokens (m : MethodText) : List Token :=
  m.visibility.1 :: (m.static?.toList.map (·.1) ++ m.function.1 :: m.tokensFromName)

/-- The types of the parameters, then the type that is returned. -/
def types (m : MethodText) : List Token :=
  m.paramTypes ++ m.return?.toList.map (·.2.name.1)

end MethodText

/-- What a property starts with. -/
inductive PropertyStart where
  | visible (visibility : VisibilityWord)
  | static (visibility : VisibilityWord) (word : Reserved .static_)
  | readonly (visibility? : Option VisibilityWord) (word : Reserved .readonly_)

def PropertyStart.tokens : PropertyStart → List Token
  | visible visibility => [visibility.1]
  | static visibility word => [visibility.1, word.1]
  | readonly visibility? word => visibility?.toList.map (·.1) ++ [word.1]

/-- A member of a class. -/
inductive MemberText where
  /-- `use T;`. -/
  | use (word : Reserved .use_) (type : TypeName) (semicolon : Sign .semicolon)
  /-- `V [?]T $x;`, `V static [?]T $x;` or `[V] readonly [?]T $x;`. -/
  | property (start : PropertyStart) (type : TypeText) (name : Token.Variable)
    (semicolon : Sign .semicolon)
  | method (m : MethodText)

namespace MemberText

def tokens : MemberText → List Token
  | use word type semicolon => [word.1, type.1, semicolon.1]
  | property start type name semicolon =>
    start.tokens ++ (type.tokens ++ [name.1, semicolon.1])
  | method m => m.tokens

/-- The types that a member mentions, in the order of the text. -/
def types : MemberText → List Token
  | use _ type _ => [type.1]
  | property _ type _ _ => [type.name.1]
  | method m => m.types

end MemberText

/-! ## What is mentioned -/

/-- Only names that can stand for types are mentioned. -/
theorem MemberText.isTypeName_of_mem {m : MemberText} {t : Token} (h : t ∈ m.types) :
    t.isTypeName = true := by
  have hparam (p : ParamText) (hp : t ∈ p.types) : t.isTypeName = true := by
    rcases List.mem_cons.1 hp with rfl | hp
    · exact p.type.name.2
    · obtain ⟨other, -, rfl⟩ := List.mem_map.1 hp
      exact other.2.2
  cases m with
  | use word type semicolon =>
    obtain rfl := List.mem_singleton.1 h
    exact type.2
  | property start type name semicolon =>
    obtain rfl := List.mem_singleton.1 h
    exact type.name.2
  | method m =>
    simp only [types, MethodText.types, MethodText.paramTypes, List.mem_append, List.mem_flatMap,
      List.mem_map] at h
    rcases h with (⟨p, -, hp⟩ | ⟨p, -, hp⟩) | ⟨r, -, rfl⟩
    · exact hparam p.1 hp
    · exact hparam p hp
    · exact r.2.name.2

end Cyclomatic.Reading
