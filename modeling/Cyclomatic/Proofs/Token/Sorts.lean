import Cyclomatic.Proofs.Reading.Run
import Cyclomatic.Proofs.Token.Words

/-!
# Sorts of tokens

Tokens of which only the sort is known: a sign, a keyword, any name. Unless it is a bracket, taking
one changes nothing else (`next_sign`, `next_name`).
-/

set_option autoImplicit false

namespace Cyclomatic

namespace Token

/-- The brackets that have to match. -/
def Kind.brackets : List Kind := [.leftParen, .rightParen, .leftBrace, .rightBrace]

/-- The keywords that are names of built-in types, too. -/
def builtInKeywords : List Keyword :=
  [.readonly_, .static_, .string_, .array_, .int_, .float_, .bool_, .self_, .void_, .iterable_,
    .mixed_]

/-- A token of a kind. -/
abbrev Sign (kind : Kind) := { t : Token // t.kind = kind }

/-- An identifier. -/
abbrev Name := { t : Token // t.isIdentifier = true }

/-- A token that is a keyword. -/
abbrev Reserved (k : Keyword) := { t : Token // t.keyword? = some k }

/-- A word for a visibility. -/
abbrev VisibilityWord := { t : Token // (t.keyword?.bind Keyword.visibility?).isSome = true }

/-- An identifier that starts with a dollar sign. -/
abbrev Variable :=
  { t : Token // t.isIdentifier = true ∧ Reading.startsWith t.lexeme '$' = true }

/-- Whether a name can stand for a type: that of a built-in type can, and any other that is no keyword
and no variable. -/
def isTypeName (t : Token) : Bool :=
  t.isBuiltInType || t.isIdentifier && t.keyword?.isNone && !Reading.startsWith t.lexeme '$'

/-- A name that can stand for a type. -/
abbrev TypeName := { t : Token // t.isTypeName = true }

/-! Tokens on the first line. -/

def sign (kind : Kind) (text : String) : Sign kind := ⟨⟨kind, 1, text⟩, rfl⟩

def name (text : String) : Name := ⟨⟨.identifier, 1, text⟩, rfl⟩

def reserved (k : Keyword) : Reserved k :=
  ⟨⟨.identifier, 1, k.spelling⟩, Keyword.keyword?_spelling k 1⟩

def visibilityWord (k : Keyword) (h : k.visibility?.isSome = true) : VisibilityWord :=
  ⟨(reserved k).1, by rw [(reserved k).2]; exact h⟩

def variableName (text : String) (h : Reading.startsWith text '$' = true) : Variable :=
  ⟨(name text).1, rfl, h⟩

def typeName (text : String) (hk : (name text).1.keyword? = none)
    (hs : Reading.startsWith text '$' = false) : TypeName :=
  ⟨(name text).1, by
    have hlexeme : Reading.startsWith (name text).1.lexeme '$' = false := hs
    simp [isTypeName, (name text).2, hk, hlexeme]⟩

variable {t : Token}

theorem isIdentifier_of_keyword? {k : Keyword} (h : t.keyword? = some k) :
    t.isIdentifier = true := by
  cases hi : t.isIdentifier with
  | true => rfl
  | false => simp [keyword?, hi] at h

theorem keyword?_of_not_identifier (h : t.isIdentifier = false) : t.keyword? = none := by
  simp [keyword?, h]

theorem not_isIdentifier_of_kind {kind : Kind} (hk : t.kind = kind) (h : kind ≠ .identifier) :
    t.isIdentifier = false := by
  simp [isIdentifier, hk, h]

theorem keyword?_of_kind {kind : Kind} (hk : t.kind = kind) (h : kind ≠ .identifier) :
    t.keyword? = none :=
  keyword?_of_not_identifier (not_isIdentifier_of_kind hk h)

theorem isIdentifier_of_isTypeName (h : t.isTypeName = true) : t.isIdentifier = true := by
  simp only [isTypeName, isBuiltInType, Bool.or_eq_true, Bool.and_eq_true] at h
  rcases h with ⟨h, -⟩ | ⟨⟨h, -⟩, -⟩ <;> exact h

/-- The visibility that the word stands for. -/
def VisibilityWord.visibility (v : VisibilityWord) : Visibility :=
  (v.1.keyword?.bind Keyword.visibility?).get v.2

theorem VisibilityWord.keyword? (v : VisibilityWord) :
    ∃ k, v.1.keyword? = some k ∧ k.visibility? = some v.visibility := by
  obtain ⟨k, hk, hv⟩ := Option.bind_eq_some_iff.1 (Option.some_get v.2).symm
  exact ⟨k, hk, hv⟩

/-- Keywords start with a letter. -/
theorem not_startsWith_of_keyword? {k : Keyword} (h : t.keyword? = some k) :
    Reading.startsWith t.lexeme '$' = false := by
  rw [keyword?, if_pos (isIdentifier_of_keyword? h)] at h
  rcases Keyword.spelling_of_ofWord? h with hl | ⟨-, hl | hl⟩ <;> rw [hl]
  · cases k <;> rfl
  · rfl
  · rfl

theorem Variable.keyword? (v : Variable) : v.1.keyword? = none := by
  cases hk : v.1.keyword? with
  | none => rfl
  | some k => exact absurd v.2.2 (by simp [not_startsWith_of_keyword? hk])

theorem mem_builtInKeywords {k : Keyword} (h : t.isBuiltInType = true) (hk : t.keyword? = some k) :
    k ∈ builtInKeywords := by
  have hall : ∀ word ∈ builtInTypes, ∀ k ∈ Keyword.ofWord? word, k ∈ builtInKeywords := by
    decide +kernel
  simp only [isBuiltInType, Bool.and_eq_true, List.contains_iff_mem] at h
  rw [keyword?, if_pos h.1] at hk
  exact hall t.lexeme h.2 k hk

theorem keyword?_ne_of_isTypeName {k : Keyword} (h : t.isTypeName = true)
    (hk : k ∉ builtInKeywords) : t.keyword? ≠ some k := by
  intro heq
  have hb : t.isBuiltInType = true := by simpa [isTypeName, heq] using h
  exact hk (mem_builtInKeywords hb heq)

end Token

namespace Reading

open Token

variable {t : Token} {left : List Token} {brackets : List Bracket}

theorem plain_of_kind {kind : Kind} (hk : t.kind = kind) (h : kind ∉ Kind.brackets) :
    opened? t = none ∧ closed? t = none := by
  subst hk
  unfold opened? closed?
  constructor <;> split <;> simp_all [Kind.brackets]

theorem plain_of_isIdentifier (h : t.isIdentifier = true) : opened? t = none ∧ closed? t = none :=
  plain_of_kind (beq_iff_eq.1 h) (by decide)

theorem next_sign {kind : Kind} (hk : t.kind = kind) (h : kind ∉ Kind.brackets) :
    next ⟨t :: left, brackets⟩ = .ok t ⟨left, brackets⟩ :=
  next_plain (plain_of_kind hk h).1 (plain_of_kind hk h).2

theorem next_name (h : t.isIdentifier = true) :
    next ⟨t :: left, brackets⟩ = .ok t ⟨left, brackets⟩ :=
  next_sign (beq_iff_eq.1 h) (by decide)

theorem next?_plain (ho : opened? t = none) (hc : closed? t = none) :
    next? ⟨t :: left, brackets⟩ = .ok (some t) ⟨left, brackets⟩ := by
  rw [next?_run (by simp [fault?, hc]), after_plain ho hc]

theorem next?_name (h : t.isIdentifier = true) :
    next? ⟨t :: left, brackets⟩ = .ok (some t) ⟨left, brackets⟩ :=
  next?_plain (plain_of_isIdentifier h).1 (plain_of_isIdentifier h).2

theorem next_opening_of_kind (b : Bracket) (h : t.kind = b.opener) :
    next ⟨t :: left, brackets⟩ = .ok t ⟨left, b :: brackets⟩ := by
  cases b <;> exact next_opening (by rw [opened?, h]; rfl) (by rw [closed?, h]; rfl)

/-- A closing brace closes an opening one. -/
theorem closes_brace (s : Sign .rightBrace) (brackets : List Bracket) :
    fault? s.1 (.brace :: brackets) = none ∧ after s.1 (.brace :: brackets) = brackets := by
  simp [fault?, after, opened?, closed?, s.2]

end Reading

end Cyclomatic
