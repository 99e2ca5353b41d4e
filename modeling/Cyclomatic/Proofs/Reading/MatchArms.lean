import Cyclomatic.Proofs.Reading.Nesting
import Cyclomatic.Proofs.Reading.Origins
import Cyclomatic.Proofs.Reading.Tally

/-!
# The arms of a match

While a match is open, only its arrows count, whatever they stand in; it ends with the brace that
closes its own. So a match whose brackets nest adds one statement to what has been read, with as many
cases as there are arrows between its parentheses and braces (`leads_match`). That is the number of its
arms if no subject, condition or result has an arrow of its own (`match_counts_arrows`).
-/

set_option autoImplicit false

namespace Cyclomatic.Reading

open Token

/-! ## The text of a match -/

/-- An expression: its brackets nest. -/
abbrev ExpressionText := { ts : List Token // nesting ts = some [] }

/-- `condition => result[,]`. -/
structure MatchArm where
  condition : ExpressionText
  arrow : Sign .fatArrow
  result : ExpressionText
  comma? : Option (Sign .comma)

/-- `match (subject) { arms }`. -/
structure MatchText where
  word : Reserved .match_
  opening : Sign .leftParen
  subject : ExpressionText
  closing : Sign .rightParen
  bodyOpening : Sign .leftBrace
  arms : List MatchArm
  bodyClosing : Sign .rightBrace

def isArrow (t : Token) : Bool := t.kind == .fatArrow

def MatchArm.tokens (a : MatchArm) : List Token :=
  a.condition.1 ++ a.arrow.1 :: (a.result.1 ++ a.comma?.toList.map (·.1))

namespace MatchText

/-- The arms as they are written, one after the other. -/
def armTokens (m : MatchText) : List Token := m.arms.flatMap MatchArm.tokens

def tokens (m : MatchText) : List Token :=
  m.word.1 :: m.opening.1 :: (m.subject.1 ++ m.closing.1 :: m.bodyOpening.1 ::
    (m.armTokens ++ [m.bodyClosing.1]))

/-- The tokens of the subject, of the conditions and of the results. -/
def expressions (m : MatchText) : List Token :=
  m.subject.1 ++ m.arms.flatMap fun a => a.condition.1 ++ a.result.1

/-- How many arrows there are. -/
def arrows (m : MatchText) : Nat := m.arms.length + m.expressions.countP isArrow

/-- The statement that a match is read as. -/
def statement (m : MatchText) : Statement := .choice .match_ m.word.1.line m.arrows []

end MatchText

theorem MatchArm.nesting_tokens (a : MatchArm) : nesting a.tokens = some [] := by
  have hsign {kind : Kind} (s : Sign kind) (h : kind ∉ Kind.brackets) : nesting [s.1] = some [] :=
    nesting_of_plain (by simpa using plain_of_kind s.2 h)
  have hcomma : nesting (a.comma?.toList.map (·.1)) = some [] := by
    cases a.comma? with
    | none => rfl
    | some comma => exact hsign comma (by decide)
  exact nesting_append_of_nesting a.condition.2 (nesting_append_of_nesting
    (hsign a.arrow (by decide)) (nesting_append_of_nesting a.result.2 hcomma))

theorem MatchArm.countP_tokens (a : MatchArm) :
    a.tokens.countP isArrow = 1 + (a.condition.1 ++ a.result.1).countP isArrow := by
  have hcomma : (a.comma?.toList.map (·.1)).countP isArrow = 0 := by
    cases a.comma? with
    | none => rfl
    | some comma => simp [isArrow, comma.2]
  have harrow : isArrow a.arrow.1 = true := by simp [isArrow, a.arrow.2]
  simp only [tokens, List.countP_append, List.countP_cons, hcomma, harrow]
  simp
  omega

theorem MatchText.countP_armTokens (m : MatchText) :
    m.subject.1.countP isArrow + m.armTokens.countP isArrow = m.arrows := by
  rw [armTokens, countP_flatMap_of_one_more MatchArm.countP_tokens, arrows, expressions,
    List.countP_append]
  omega

/-! ## Reading on -/

/-- Reading the tokens leads from one progress to another, whatever follows. -/
def Leads (depth : Nat) (ts : List Token) (p : Progress) (brackets : List Bracket) (q : Progress)
    (opened : List Bracket) : Prop :=
  ∀ others, bodyFrom depth p (ts ++ others) brackets = bodyFrom depth q others opened

section

variable {depth start n : Nat} {t : Token} {ts us : List Token} {p q r : Progress}
  {brackets middle opened base : List Bracket} {line : Int}

theorem Leads.nil : Leads depth [] p brackets p brackets := fun _ => rfl

theorem Leads.append (h₁ : Leads depth ts p brackets q middle) (h₂ : Leads depth us q middle r opened) :
    Leads depth (ts ++ us) p brackets r opened := by
  intro others
  rw [List.append_assoc, h₁, h₂]

theorem leads_take (he : (p.choices.isEmpty && brackets.length == depth) = false)
    (hf : fault? t brackets = none) (hs : p.skipsMember t = false) :
    Leads depth [t] p brackets (p.take t (after t brackets).length) (after t brackets) := by
  intro others
  rw [List.singleton_append, bodyFrom, he, hf]
  simp [hs]

/-! ## In a match -/

/-- What has been read inside a match, `n` of its arrows among it. -/
def Progress.inMatch (p : Progress) (line : Int) (start n : Nat) : Progress :=
  ⟨⟨.match_, line, start, n, []⟩ :: p.choices, p.statements⟩

/-- In a match, a token that does not end it counts if it is an arrow. -/
theorem leads_arrow (hf : fault? t brackets = none)
    (he : (t.kind == .rightBrace && (after t brackets).length == start) = false) :
    Leads depth [t] (p.inMatch line start n) brackets
      (p.inMatch line start (n + if isArrow t then 1 else 0)) (after t brackets) := by
  have hskip : Progress.skipsMember t (p.inMatch line start n) = false := by
    simp [Progress.skipsMember, Progress.inMatch]
  have h : Leads depth [t] (p.inMatch line start n) brackets
      ((p.inMatch line start n).take t (after t brackets).length) (after t brackets) :=
    leads_take rfl hf hskip
  rw [Progress.take_of_match rfl rfl he] at h
  cases hk : isArrow t with
  | true =>
    have hk : t.kind = .fatArrow := by simpa [isArrow] using hk
    rwa [if_pos hk] at h
  | false =>
    have hk : t.kind ≠ .fatArrow := by simpa [isArrow] using hk
    rwa [if_neg hk] at h

/-- In a match, a sign that neither is an arrow nor ends it changes nothing. -/
theorem leads_sign {kind : Kind} (s : Sign kind) (hk : kind ≠ .fatArrow) (hb : kind ≠ .rightBrace)
    (hf : fault? s.1 brackets = none ∧ after s.1 brackets = opened) :
    Leads depth [s.1] (p.inMatch line start n) brackets (p.inMatch line start n) opened := by
  have h := @leads_arrow depth start n s.1 p brackets line hf.1 (by simp [s.2, hb])
  have hno : isArrow s.1 = false := by simpa [isArrow, s.2] using hk
  rw [hno, hf.2] at h
  exact h

/-- In a bracket of a match, tokens whose brackets nest only add their arrows. -/
theorem leads_arrows {inner : List Bracket} (b : Bracket) (hb : base.length = start)
    (hn : ts.foldlM nest inner = some opened) :
    Leads depth ts (p.inMatch line start n) (inner ++ b :: base)
      (p.inMatch line start (n + ts.countP isArrow)) (opened ++ b :: base) := by
  induction ts generalizing n inner with
  | nil =>
    cases hn
    exact .nil
  | cons t ts ih =>
    rw [List.foldlM_cons] at hn
    obtain ⟨middle, hm, hn⟩ := Option.bind_eq_some_iff.1 hn
    obtain ⟨hf, hafter⟩ := nest_eq_some (nest_append (b :: base) hm)
    have hinside : (t.kind == .rightBrace && (after t (inner ++ b :: base)).length == start) =
        false := by
      rw [← hafter, List.length_append, List.length_cons, ← hb]
      simp
      omega
    have hone := @leads_arrow depth start n t p _ line hf hinside
    rw [← hafter] at hone
    rw [List.countP_cons, Nat.add_comm (ts.countP isArrow), ← Nat.add_assoc]
    exact hone.append (ih hn)

/-- The word `match` opens a match where no match is innermost. -/
theorem leads_word (word : Reserved .match_) (hm : p.choices.head?.any (·.kind == .match_) = false)
    (he : (p.choices.isEmpty && brackets.length == depth) = false) :
    Leads depth [word.1] p brackets (p.inMatch word.1.line brackets.length 0) brackets := by
  have hi := isIdentifier_of_keyword? word.2
  have hkind : word.1.kind = .identifier := beq_iff_eq.1 hi
  obtain ⟨ho, hc⟩ := plain_of_isIdentifier hi
  have hswitch : ∀ c ∈ p.choices.head?, c.kind = .switch_ := by
    intro c hmem
    rw [Option.mem_def] at hmem
    rw [hmem] at hm
    cases hkc : c.kind with
    | switch_ => rfl
    | match_ => simp [hkc] at hm
  have h : Leads depth [word.1] p brackets _ _ := leads_take he (by simp [fault?, hc])
    (by simp [Progress.skipsMember, Token.isMemberAccess, hkind])
  rw [after_plain ho hc, Progress.take_of_word hswitch (by simp [hkind]), word.2] at h
  simpa [Progress.start, Progress.inMatch, decision?, choice?] using h

/-- **A match adds one statement to what has been read**, with a case for each of its arrows. -/
theorem leads_match (m : MatchText) (hm : p.choices.head?.any (·.kind == .match_) = false)
    (he : (p.choices.isEmpty && brackets.length == depth) = false) :
    Leads depth m.tokens p brackets (p.add m.statement) brackets := by
  have hopening : fault? m.opening.1 brackets = none ∧
      after m.opening.1 brackets = .paren :: brackets := by
    simp [fault?, after, opened?, closed?, m.opening.2]
  have hclosing : fault? m.closing.1 (.paren :: brackets) = none ∧
      after m.closing.1 (.paren :: brackets) = brackets := by
    simp [fault?, after, opened?, closed?, m.closing.2]
  have hbody : fault? m.bodyOpening.1 brackets = none ∧
      after m.bodyOpening.1 brackets = .brace :: brackets := by
    simp [fault?, after, opened?, closed?, m.bodyOpening.2]
  have hsubject : Leads depth m.subject.1 (p.inMatch m.word.1.line brackets.length 0)
      (.paren :: brackets) (p.inMatch m.word.1.line brackets.length (0 + m.subject.1.countP isArrow))
      (.paren :: brackets) := leads_arrows .paren rfl m.subject.2
  have harms : Leads depth m.armTokens
      (p.inMatch m.word.1.line brackets.length (0 + m.subject.1.countP isArrow)) (.brace :: brackets)
      (p.inMatch m.word.1.line brackets.length m.arrows) (.brace :: brackets) := by
    have h : nesting m.armTokens = some [] := nesting_flatMap fun a _ => a.nesting_tokens
    rw [← m.countP_armTokens, ← Nat.zero_add (m.subject.1.countP isArrow + _), ← Nat.add_assoc]
    exact leads_arrows .brace rfl h
  have hend : Leads depth [m.bodyClosing.1] (p.inMatch m.word.1.line brackets.length m.arrows)
      (.brace :: brackets) (p.add m.statement) brackets := by
    obtain ⟨hf, hafter⟩ := closes_brace m.bodyClosing brackets
    have h : Leads depth [m.bodyClosing.1] (p.inMatch m.word.1.line brackets.length m.arrows)
        (.brace :: brackets) _ _ :=
      leads_take rfl hf (by simp [Progress.skipsMember, Progress.inMatch])
    have htake : (p.inMatch m.word.1.line brackets.length m.arrows).take m.bodyClosing.1
        brackets.length = (p.inMatch m.word.1.line brackets.length m.arrows).close :=
      Progress.take_of_end rfl m.bodyClosing.2 rfl
    rw [hafter, htake] at h
    exact h
  exact (leads_word m.word hm he).append ((leads_sign m.opening (by decide) (by decide) hopening).append
    (hsubject.append ((leads_sign m.closing (by decide) (by decide) hclosing).append
      ((leads_sign m.bodyOpening (by decide) (by decide) hbody).append (harms.append hend)))))

end

/-! ## In a body -/

/-- Tokens that a body does not end in are read in the same way whatever follows, if none of what
follows could be the name of a member. -/
theorem Follows.exists_leads {depth : Nat} {p : Progress} {before later : List Token}
    {brackets : List Bracket} {s : Tally} {statements : List Statement} {rest : Tape}
    (hf : Follows depth p (before ++ later) brackets s)
    (h : bodyFrom depth p (before ++ later) brackets = .ok statements rest)
    (hl : rest.left.length < later.length) (ha : (before.foldl Tally.step s).afterAccess = false) :
    ∃ q opened, Leads depth before p brackets q opened ∧
      Follows depth q later opened (before.foldl Tally.step s) := by
  generalize hleft : before ++ later = left at hf h
  -- an access takes the name behind it, so that what is read at once may be two tokens of `before`
  fun_induction bodyFrom depth p left brackets generalizing s before with
  | case1 p brackets he =>
    cases h
    rw [(List.append_eq_nil_iff.1 hleft).2] at hl
    simp at hl
  | case2 => cases h
  | case3 p t left brackets he =>
    cases h
    rw [← hleft, List.length_append] at hl
    omega
  | case4 => cases h
  | case5 p t brackets he hn _ hskip =>
    rename_i ih
    cases before with
    | nil =>
      subst hleft
      exact ⟨p, brackets, .nil, hf⟩
    | cons v before =>
      obtain ⟨rfl, hnil⟩ := List.cons.inj hleft
      rw [(List.append_eq_nil_iff.1 hnil).2] at hl
      simp at hl
  | case6 p t brackets he hn _ hskip u left hu =>
    rename_i ih
    cases before with
    | nil =>
      subst hleft
      exact ⟨p, brackets, .nil, hf⟩
    | cons v before =>
    obtain ⟨rfl, htail⟩ := List.cons.inj hleft
    cases before with
    | nil =>
      rw [List.foldl_cons, (hf.skip hn hskip).1] at ha
      cases ha
    | cons w before =>
      obtain ⟨rfl, hrest⟩ := List.cons.inj htail
      obtain ⟨q, opened, hread, hq⟩ := @ih before _ ha hrest (hf.skip_name hn hskip hu) h
      refine ⟨q, opened, fun others => ?_, hq⟩
      rw [List.cons_append, List.cons_append, bodyFrom]
      simp only [he, hn, hskip, hu, if_true]
      exact hread others
  | case7 p t brackets he hn _ hskip u left hu =>
    rename_i ih
    cases before with
    | nil =>
      subst hleft
      exact ⟨p, brackets, .nil, hf⟩
    | cons v before =>
    obtain ⟨rfl, htail⟩ := List.cons.inj hleft
    cases before with
    | nil =>
      rw [List.foldl_cons, (hf.skip hn hskip).1] at ha
      cases ha
    | cons w before =>
      obtain ⟨rfl, -⟩ := List.cons.inj htail
      obtain ⟨q, opened, hread, hq⟩ :=
        @ih (w :: before) _ ha htail (hf.skip_access hn hskip (by simpa using hu)) h
      refine ⟨q, opened, fun others => ?_, hq⟩
      rw [List.cons_append, List.cons_append, bodyFrom]
      simp only [he, hn, hskip, hu, if_true]
      exact hread others
  | case8 p t left brackets he hn _ hskip =>
    rename_i ih
    cases before with
    | nil =>
      subst hleft
      exact ⟨p, brackets, .nil, hf⟩
    | cons v before =>
      obtain ⟨rfl, hrest⟩ := List.cons.inj hleft
      have hword : p.skipsMember v = false := by simpa using hskip
      obtain ⟨q, opened, hread, hq⟩ := @ih before _ ha hrest (hf.take hn hword) h
      exact ⟨q, opened, (leads_take (Bool.eq_false_iff.2 he) hn hword).append hread, hq⟩

/-! ## What has been read stays -/

/-- The statement has been read: it is among the statements of the body or of an open choice, or
nested in one of them. -/
def Progress.Holds (p : Progress) (s : Statement) : Prop :=
  ∃ u ∈ p.choices.flatMap (·.nested) ++ p.statements, s ∈ u.withNested

namespace Progress

variable {p : Progress} {s u : Statement} {t : Token} {k : Keyword} {line : Int} {n : Nat}

theorem holds_add (hs : s ∈ u.withNested) (p : Progress) : (p.add u).Holds s := by
  refine ⟨u, ?_, hs⟩
  obtain ⟨choices, statements⟩ := p
  cases choices <;> simp [add]

theorem Holds.add (h : p.Holds s) (u : Statement) : (p.add u).Holds s := by
  obtain ⟨w, hw, hs⟩ := h
  refine ⟨w, ?_, hs⟩
  obtain ⟨choices, statements⟩ := p
  cases choices with
  | nil => exact List.mem_cons_of_mem u hw
  | cons c outer => exact List.mem_cons_of_mem u hw

theorem Holds.addCase (h : p.Holds s) : p.addCase.Holds s := by
  obtain ⟨choices, statements⟩ := p
  cases choices <;> exact h

/-- A choice that is closed keeps its statements. -/
theorem Holds.close (h : p.Holds s) : p.close.Holds s := by
  obtain ⟨choices, statements⟩ := p
  cases choices with
  | nil => exact h
  | cons c outer =>
    obtain ⟨w, hw, hs⟩ := h
    rw [List.flatMap_cons, List.append_assoc, List.mem_append] at hw
    rcases hw with hw | hw
    · refine holds_add ?_ _
      rw [Statement.withNested]
      refine List.mem_cons_of_mem _ (Statement.mem_withNestedOfAll.2 ⟨w, ?_, hs⟩)
      exact List.mem_reverse.2 hw
    · exact Holds.add ⟨w, hw, hs⟩ _

theorem Holds.start (h : p.Holds s) : (p.start k line n).Holds s := by
  unfold Progress.start
  split
  · exact h.add _
  · exact h
  · exact h

theorem Holds.take (h : p.Holds s) : (p.take t n).Holds s := by
  rcases take_cases p t n with htake | htake | htake | ⟨k, -, htake⟩ <;> rw [htake]
  · exact h
  · exact h.close
  · exact h.addCase
  · exact h.start

end Progress

theorem mem_of_bodyFrom {depth : Nat} {p : Progress} {s : Statement} {left : List Token}
    {brackets : List Bracket} {statements : List Statement} {rest : Tape} (hp : p.Holds s)
    (h : bodyFrom depth p left brackets = .ok statements rest) :
    s ∈ Statement.withNestedOfAll statements := by
  obtain ⟨q, ⟨u, hu, hs⟩, hc, rfl⟩ :=
    bodyFrom_invariant (fun p t n (h : p.Holds s) => h.take) hp h
  rw [hc] at hu
  exact Statement.mem_withNestedOfAll.2 ⟨u, List.mem_reverse.2 hu, hs⟩

theorem bodyFrom_of_end {depth : Nat} {p : Progress} {left : List Token} {brackets : List Bracket}
    (he : (p.choices.isEmpty && brackets.length == depth) = true) :
    bodyFrom depth p left brackets = .ok p.statements.reverse ⟨left, brackets⟩ := by
  cases left <;> simp [bodyFrom, he]

/-! ## Methods -/

/-- **A match counts its arrows.** In a method whose body goes on behind a match, the match is read where
no other match is open, as one statement more than what stands before it, with a case for each arrow
between its parentheses and braces. These are its arms exactly if no expression in it has an arrow of
its own. -/
theorem match_counts_arrows {imports : Imports} {v : Visibility} {tape rest : Tape} {member : Member}
    {sig : Signature} {opening : Token} {before behind : List Token} {brackets : List Bracket}
    (m : MatchText) (h : method imports v tape = .ok member rest)
    (hsig : signature imports tape = .ok sig ⟨opening :: (before ++ (m.tokens ++ behind)), brackets⟩)
    (ho : opening.kind = .leftBrace) (hm : (tally before).onTop .match_ = false)
    (ha : (tally before).afterAccess = false) (hrest : rest.left <:+ behind) :
    ∃ f q opened, member.method? = some f ∧
      Leads brackets.length before {} (.brace :: brackets) q opened ∧
      Leads brackets.length (before ++ m.tokens) {} (.brace :: brackets) (q.add m.statement) opened ∧
      m.statement ∈ Statement.withNestedOfAll f.statements ∧
      (m.arrows = m.arms.length ↔ ∀ t ∈ m.expressions, t.kind ≠ .fatArrow) := by
  obtain ⟨sig', opening', inner, outer, statements, hsig', rfl, hbody⟩ := method_eq_ok h
  cases hsig.symm.trans hsig'
  have hopened : after opening brackets = .brace :: brackets := by
    simp [after, opened?, ho]
  have hread := hbody (by simp [ho])
  rw [hopened] at hread
  have hlonger : rest.left.length < (m.tokens ++ behind).length := by
    have hlength := hrest.length_le
    have hpositive : 0 < m.tokens.length := by simp [MatchText.tokens]
    rw [List.length_append]
    omega
  obtain ⟨q, opened, hlead, hq⟩ := (follows_start _ brackets).exists_leads hread hlonger ha
  have htop : q.choices.head?.any (·.kind == .match_) = false := (hq.onTop_eq .match_).symm.trans hm
  have hmatch : bodyFrom brackets.length q (m.tokens ++ behind) opened = .ok statements rest :=
    (hlead _).symm.trans hread
  have hgoes : (q.choices.isEmpty && opened.length == brackets.length) = false := by
    rw [Bool.eq_false_iff]
    intro he
    cases hmatch.symm.trans (bodyFrom_of_end he)
    exact Nat.lt_irrefl _ hlonger
  have hstatement := leads_match m htop hgoes
  refine ⟨_, q, opened, rfl, hlead, hlead.append hstatement, ?_, ?_⟩
  · exact mem_of_bodyFrom (Progress.holds_add (by simp [MatchText.statement, Statement.withNested]) q)
      ((hstatement behind).symm.trans hmatch)
  · rw [MatchText.arrows, Nat.add_eq_left, List.countP_eq_zero]
    simp [isArrow]

/-- `match ($x) { 1 => result, default => 3 }`. -/
def matchX (result : ExpressionText) : MatchText where
  word := reserved .match_
  opening := sign .leftParen "("
  subject := ⟨[⟨.identifier, 1, "$x"⟩], rfl⟩
  closing := sign .rightParen ")"
  bodyOpening := sign .leftBrace "\x7b"
  arms := [
    ⟨⟨[⟨.number, 1, "1"⟩], rfl⟩, sign .fatArrow "=>", result, some (sign .comma ",")⟩,
    ⟨⟨[⟨.identifier, 1, "default"⟩], rfl⟩, sign .fatArrow "=>", ⟨[⟨.number, 1, "3"⟩], rfl⟩, none⟩]
  bodyClosing := sign .rightBrace "\x7d"

def two : ExpressionText := ⟨[⟨.number, 1, "2"⟩], rfl⟩

/-- `['k' => 2]`. -/
def keyed : ExpressionText :=
  ⟨[⟨.leftBracket, 1, "["⟩, ⟨.string, 1, "k"⟩, ⟨.fatArrow, 1, "=>"⟩, ⟨.number, 1, "2"⟩,
    ⟨.rightBracket, 1, "]"⟩], rfl⟩

/-- `f() { return match …; }`. -/
def bodyOfF (m : MatchText) : List Token :=
  [⟨.identifier, 1, "f"⟩, ⟨.leftParen, 1, "("⟩, ⟨.rightParen, 1, ")"⟩, ⟨.leftBrace, 1, "\x7b"⟩] ++
    ([⟨.identifier, 1, "return"⟩] ++ (m.tokens ++ [⟨.semicolon, 1, ";"⟩, ⟨.rightBrace, 1, "\x7d"⟩]))

theorem match_counts_arrows_of_two :
    ∃ member f, method {} .public_ ⟨bodyOfF (matchX two), []⟩ = .ok member ⟨[], []⟩ ∧
      member.method? = some f ∧
      Statement.choice .match_ 1 2 [] ∈ Statement.withNestedOfAll f.statements := by
  obtain ⟨member, hread⟩ : ∃ member, method {} .public_ ⟨bodyOfF (matchX two), []⟩ =
      .ok member ⟨[], []⟩ := ⟨_, rfl⟩
  obtain ⟨f, -, -, hf, -, -, hmem, -⟩ := @match_counts_arrows _ _ _ _ _ _ _
    [⟨.identifier, 1, "return"⟩] _ _ (matchX two) hread rfl rfl rfl rfl List.nil_suffix
  exact ⟨member, f, hread, hf, hmem⟩

/-- The cases of a match are not its arms. -/
theorem not_forall_match_counts_arms :
    ¬ ∀ (imports : Imports) (v : Visibility) (tape rest : Tape) (member : Member) (sig : Signature)
      (opening : Token) (before behind : List Token) (brackets : List Bracket) (m : MatchText)
      (f : Method), method imports v tape = .ok member rest →
      signature imports tape = .ok sig ⟨opening :: (before ++ (m.tokens ++ behind)), brackets⟩ →
      opening.kind = .leftBrace → (tally before).onTop .match_ = false →
      (tally before).afterAccess = false → rest.left <:+ behind → member.method? = some f →
      .choice .match_ m.word.1.line m.arms.length [] ∈ Statement.withNestedOfAll f.statements := by
  intro h
  obtain ⟨member, f, hread, hf, hstatements⟩ : ∃ member f,
      method {} .public_ ⟨bodyOfF (matchX keyed), []⟩ = .ok member ⟨[], []⟩ ∧
        member.method? = some f ∧ f.statements = [.choice .match_ 1 3 []] := ⟨_, _, rfl, rfl, rfl⟩
  have hmem := h {} .public_ _ _ _ _ _ [⟨.identifier, 1, "return"⟩] _ _ (matchX keyed) f hread rfl rfl
    rfl rfl List.nil_suffix hf
  rw [hstatements, Statement.withNestedOfAll_singleton] at hmem
  simp [Statement.withNested, Statement.withNestedOfAll, matchX] at hmem

end Cyclomatic.Reading
