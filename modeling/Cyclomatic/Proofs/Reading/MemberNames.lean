import Cyclomatic.Proofs.Reading.Nesting
import Cyclomatic.Proofs.Token.Sorts

/-!
# Names of members at the top level

Code before a class is not read, but a keyword in it is taken for a declaration unless it is passed over
as the name of a member. That happens behind an access that follows a plain name, if that name is no
member itself (`passedOver`). Code that ends with a semicolon, whose brackets nest and whose
declaring keywords are all passed over leaves no trace (`file_append_of_passedOver`).

Behind any other access, such as the second one of a chain, the name of a member is read as a keyword
(`not_forall_ofTokens_append`).
-/

set_option autoImplicit false

namespace Cyclomatic

namespace Token

/-- The keywords that declare something at the top level of a file. -/
def declaringKeywords : List Keyword := [.namespace_, .use_, .abstract_, .class_, .trait_]

/-- Whether the token declares something at the top level of a file. -/
def declares (t : Token) : Bool := t.keyword?.any declaringKeywords.contains

/-- Whether the token is a name and no keyword. -/
def isPlainName (t : Token) : Bool := t.isIdentifier && t.keyword?.isNone

variable {t : Token}

theorem isPlainName_of_isMemberAccess (h : t.isMemberAccess = true) : t.isPlainName = false := by
  have hi : t.isIdentifier = false := by
    simp only [isMemberAccess, Bool.or_eq_true, beq_iff_eq] at h
    rcases h with h | h <;> simp [isIdentifier, h]
  simp [isPlainName, hi]

end Token

namespace Reading

open Token

/-- Whether the token behind these, the last of them first, is passed over as the name of a member: an
access stands before it, and before that a plain name that is not passed over. -/
def passedOver : List Token → Bool
  | access :: name :: before => access.isMemberAccess && name.isPlainName && !passedOver before
  | _ => false

/-- Tokens that are passed over one by one, or three at once: a plain name, an access and a member. -/
inductive Skipped : List Token → Prop
  | nil : Skipped []
  | one {t : Token} {left : List Token} (ht : t.declares = false)
      (hn : t.isPlainName = true → ∀ a ∈ left.head?, a.isMemberAccess = false)
      (h : Skipped left) : Skipped (t :: left)
  | member {name access t : Token} {left : List Token} (hn : name.isPlainName = true)
      (ha : access.isMemberAccess = true) (h : Skipped left) : Skipped (name :: access :: t :: left)

variable {t name access : Token} {left rest before : List Token} {brackets opened : List Bracket}
  {imports : Imports}

/-! ## Steps -/

theorem declaration_one (ht : t.declares = false)
    (hn : t.isPlainName = true → ∀ a ∈ left.head?, a.isMemberAccess = false) :
    declaration t ⟨⟨left, brackets⟩, imports⟩ = .ok none ⟨⟨left, brackets⟩, imports⟩ := by
  cases hi : t.isIdentifier with
  | false =>
    rw [declaration, hi]
    rfl
  | true =>
    cases hk : t.keyword? with
    | none =>
      have hnext : nextIs Token.isMemberAccess ⟨left, brackets⟩ = .ok false ⟨left, brackets⟩ := by
        have hn := hn (by simp [isPlainName, hi, hk])
        cases left with
        | nil => rfl
        | cons a left => simp [nextIs, hn a rfl]
      simp only [declaration, hi, hk, if_true]
      rw [bind_run (onTape_run hnext)]
      rfl
    | some k =>
      have hd : k ∉ declaringKeywords := by simpa [declares, hk] using ht
      simp only [declaration, hi, hk, if_true]
      cases k with
      | namespace_ | use_ | abstract_ | class_ | trait_ => exact absurd (by decide) hd
      | _ => rfl

theorem fileFrom_one (hf : fault? t brackets = none) (ht : t.declares = false)
    (hn : t.isPlainName = true → ∀ a ∈ left.head?, a.isMemberAccess = false) :
    fileFrom ⟨⟨t :: left, brackets⟩, imports⟩ = fileFrom ⟨⟨left, after t brackets⟩, imports⟩ :=
  fileFrom_pass (next?_run hf) (declaration_one ht hn)

theorem plain_of_isPlainName (h : name.isPlainName = true) :
    opened? name = none ∧ closed? name = none := by
  simp only [isPlainName, Bool.and_eq_true] at h
  exact plain_of_isIdentifier h.1

theorem plain_of_isMemberAccess (h : access.isMemberAccess = true) :
    opened? access = none ∧ closed? access = none := by
  simp only [isMemberAccess, Bool.or_eq_true, beq_iff_eq] at h
  rcases h with h | h <;> exact plain_of_kind h (by decide)

theorem fileFrom_member (hn : name.isPlainName = true) (ha : access.isMemberAccess = true)
    (hf : fault? t brackets = none) :
    fileFrom ⟨⟨name :: access :: t :: left, brackets⟩, imports⟩ =
      fileFrom ⟨⟨left, after t brackets⟩, imports⟩ := by
  simp only [isPlainName, Bool.and_eq_true, Option.isNone_iff_eq_none] at hn
  obtain ⟨hi, hk⟩ := hn
  refine fileFrom_pass (next?_name hi) ?_
  have hnext : nextIs Token.isMemberAccess ⟨access :: t :: left, brackets⟩ =
      .ok true ⟨access :: t :: left, brackets⟩ := by simp [nextIs, ha]
  obtain ⟨ho, hc⟩ := plain_of_isMemberAccess ha
  simp only [declaration, hi, hk, if_true]
  rw [bind_run (onTape_run hnext), if_pos rfl, bind_run (onTape_run (next_plain ho hc)),
    bind_run (onTape_run (next_run hf))]
  rfl

/-! ## Runs -/

theorem getLast?_tail {kind : Token.Kind} (he : ∀ u ∈ (t :: left).getLast?, u.kind = kind) :
    ∀ u ∈ left.getLast?, u.kind = kind :=
  fun u hu => he u (by simp [List.getLast?_cons, Option.mem_def.1 hu])

/-- Tokens that are skipped leave nothing but their brackets open. -/
theorem fileFrom_skipped (h : Skipped left) (he : ∀ t ∈ left.getLast?, t.kind = .semicolon)
    (hb : left.foldlM nest brackets = some opened) :
    fileFrom ⟨⟨left ++ rest, brackets⟩, imports⟩ = fileFrom ⟨⟨rest, opened⟩, imports⟩ := by
  induction h generalizing brackets with
  | nil =>
    cases hb
    rfl
  | @one t left ht hn h ih =>
    obtain ⟨hf, hb⟩ := foldlM_nest_cons hb
    have hnext : t.isPlainName = true → ∀ a ∈ (left ++ rest).head?, a.isMemberAccess = false := by
      intro hp a ha
      cases left with
      | nil =>
        -- the last token is a semicolon, so it is no name that what follows could go on with
        have hk : t.kind = .semicolon := he t rfl
        simp [isPlainName, isIdentifier, hk] at hp
      | cons u left => exact hn hp a ha
    rw [List.cons_append, fileFrom_one hf ht hnext]
    exact ih (getLast?_tail he) hb
  | @member name access t left hn ha h ih =>
    obtain ⟨hon, hcn⟩ := plain_of_isPlainName hn
    obtain ⟨hoa, hca⟩ := plain_of_isMemberAccess ha
    obtain ⟨-, hb⟩ := foldlM_nest_cons hb
    rw [after_plain hon hcn] at hb
    obtain ⟨-, hb⟩ := foldlM_nest_cons hb
    rw [after_plain hoa hca] at hb
    obtain ⟨hf, hb⟩ := foldlM_nest_cons hb
    rw [List.cons_append, List.cons_append, List.cons_append, fileFrom_member hn ha hf]
    exact ih (getLast?_tail (getLast?_tail (getLast?_tail he))) hb

/-! ## Where keywords may stand -/

/-- Each keyword that declares something is passed over. `before` has been read, the last token first. -/
def KeywordsPassed (before left : List Token) : Prop :=
  ∀ seen t after, left = seen ++ t :: after → t.declares = true →
    passedOver (seen.reverse ++ before) = true

theorem KeywordsPassed.tail (h : KeywordsPassed before (t :: left)) :
    KeywordsPassed (t :: before) left := by
  intro seen u after hl hd
  simpa using h (t :: seen) u after (by rw [hl]; rfl) hd

theorem KeywordsPassed.declares_eq_false (h : KeywordsPassed before (t :: left))
    (hp : passedOver before = false) : t.declares = false := by
  rw [Bool.eq_false_iff]
  intro hd
  have hover : passedOver before = true := h [] t left rfl hd
  rw [hp] at hover
  cases hover

/-- Tokens are skipped if their keywords are passed over, the next token is not, and no plain name is
waiting for an access. -/
theorem KeywordsPassed.skipped (hk : KeywordsPassed before left)
    (he : ∀ t ∈ left.getLast?, t.kind = .semicolon) (hp : passedOver before = false)
    (ha : ∀ a ∈ left.head?, passedOver (a :: before) = false) : Skipped left := by
  -- a member takes three tokens at once, so the induction is on how many there are
  induction hn : left.length using Nat.strongRecOn generalizing left before with
  | ind n ih =>
    subst hn
    cases left with
    | nil => exact .nil
    | cons t left =>
      by_cases hmember : t.isPlainName = true ∧ ∃ a ∈ left.head?, a.isMemberAccess = true
      · obtain ⟨hplain, access, hl, haccess⟩ := hmember
        obtain ⟨more, rfl⟩ := List.head?_eq_some_iff.1 hl
        cases more with
        | nil =>
          have hkind : access.kind = .semicolon := he access rfl
          simp [isMemberAccess, hkind] at haccess
        | cons m more =>
          have hover : passedOver (access :: t :: before) = true := by
            simp [passedOver, haccess, hplain, hp]
          have hnext : passedOver (m :: access :: t :: before) = false := by
            simp [passedOver, isPlainName_of_isMemberAccess haccess]
          have hwait : ∀ a ∈ more.head?, passedOver (a :: m :: access :: t :: before) = false := by
            intro a _
            rw [passedOver, hover]
            simp
          exact .member hplain haccess (ih more.length (by simp; omega) hk.tail.tail.tail
            (getLast?_tail (getLast?_tail (getLast?_tail he))) hnext hwait rfl)
      · have hone : t.isPlainName = true → ∀ a ∈ left.head?, a.isMemberAccess = false := by
          intro hplain a hl
          rw [Bool.eq_false_iff]
          exact fun haccess => hmember ⟨hplain, a, hl, haccess⟩
        have hwait : ∀ a ∈ left.head?, passedOver (a :: t :: before) = false := by
          intro a hl
          cases hplain : t.isPlainName with
          | false => simp [passedOver, hplain]
          | true => simp [passedOver, hone hplain a hl]
        exact .one (hk.declares_eq_false hp) hone
          (ih left.length (by simp) hk.tail (getLast?_tail he) (ha t rfl) hwait rfl)

/-- **Names of members are no keywords at the top level**, where they are passed over. Code that ends with
a semicolon, whose brackets nest, and whose declaring keywords are all names of members that are
passed over, leaves no trace: what follows is read as if it stood alone. -/
theorem file_append_of_passedOver {code : List Token} (rest : List Token)
    (hb : nesting code = some []) (he : code.getLast?.any (·.kind == .semicolon) = true)
    (hm : ∀ n, (h : n < code.length) → code[n].declares = true →
      passedOver (code.take n).reverse = true) :
    file (code ++ rest) = file rest := by
  have hend : ∀ t ∈ code.getLast?, t.kind = .semicolon := by
    intro t ht
    rw [Option.mem_def.1 ht] at he
    exact beq_iff_eq.1 he
  have hpassed : KeywordsPassed [] code := by
    intro seen t after hl hd
    subst hl
    simpa using hm seen.length (by simp) (by simpa using hd)
  exact fileFrom_skipped (hpassed.skipped hend rfl fun _ _ => rfl) hend hb

/-- `<?php f()->x->use; A::class;`. -/
def membersOfCalls : List Token :=
  [⟨.phpTag, 1, "<?php"⟩, ⟨.identifier, 1, "f"⟩, ⟨.leftParen, 1, "("⟩, ⟨.rightParen, 1, ")"⟩,
    ⟨.thinArrow, 1, "->"⟩, ⟨.identifier, 1, "x"⟩, ⟨.thinArrow, 1, "->"⟩, ⟨.identifier, 1, "use"⟩,
    ⟨.semicolon, 1, ";"⟩, ⟨.identifier, 1, "A"⟩, ⟨.colonColon, 1, "::"⟩, ⟨.identifier, 1, "class"⟩,
    ⟨.semicolon, 1, ";"⟩]

/-- `<?php $a->b->class;`. -/
def memberOfMember : List Token :=
  [⟨.phpTag, 1, "<?php"⟩, ⟨.identifier, 1, "$a"⟩, ⟨.thinArrow, 1, "->"⟩, ⟨.identifier, 1, "b"⟩,
    ⟨.thinArrow, 1, "->"⟩, ⟨.identifier, 1, "class"⟩, ⟨.semicolon, 1, ";"⟩]

/-- `class A {}`. -/
def emptyClass : List Token :=
  [⟨.identifier, 1, "class"⟩, ⟨.identifier, 1, "A"⟩, ⟨.leftBrace, 1, "\x7b"⟩,
    ⟨.rightBrace, 1, "\x7d"⟩]

theorem file_append_of_passedOver_of_calls :
    nesting membersOfCalls = some [] ∧
      (∀ n, (h : n < membersOfCalls.length) → membersOfCalls[n].declares = true →
        passedOver (membersOfCalls.take n).reverse = true) ∧
      file (membersOfCalls ++ emptyClass) = file emptyClass := by
  have hb : nesting membersOfCalls = some [] := by decide
  have hm : ∀ n, (h : n < membersOfCalls.length) → membersOfCalls[n].declares = true →
      passedOver (membersOfCalls.take n).reverse = true := by decide
  exact ⟨hb, hm, file_append_of_passedOver emptyClass hb (by decide) hm⟩

/-- The second member of a chain is taken for a keyword, and a class is read that is none. -/
theorem not_forall_ofTokens_append :
    ¬ ∀ code rest : List Token, nesting code = some [] →
      code.getLast?.any (·.kind == .semicolon) = true →
      (∀ n, (h : n < code.length) → code[n].keyword?.isSome = true →
        (code.take n).getLast?.any Token.isMemberAccess = true) →
      Class.ofTokens (code ++ rest) = Class.ofTokens rest ∨
        (Class.ofTokens (code ++ rest)).isOk = false ∧ (Class.ofTokens rest).isOk = false := by
  intro hall
  have hsemicolon : (Class.ofTokens (memberOfMember ++ emptyClass)).toOption.join.map (·.name) =
      some "\\;" := by decide +kernel
  have hclass : (Class.ofTokens emptyClass).toOption.join.map (·.name) = some "\\A" := by
    decide +kernel
  rcases hall memberOfMember emptyClass (by decide) (by decide) (by decide) with heq | ⟨-, hfault⟩
  · rw [heq, hclass] at hsemicolon
    exact absurd hsemicolon (by decide)
  · cases hc : Class.ofTokens emptyClass with
    | ok class? => simp [hc, Except.isOk, Except.toBool] at hfault
    | error fault => simp [hc, Except.toOption] at hclass

end Reading

end Cyclomatic
