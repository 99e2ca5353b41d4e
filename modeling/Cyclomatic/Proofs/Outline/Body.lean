import Cyclomatic.Proofs.Outline
import Cyclomatic.Proofs.Reading.Run
import Cyclomatic.Proofs.Token.Words

/-!
# The statements of a printed body are read back

`bodyFrom` takes the tokens of a shape for the shape's statement, wherever statements are met
(`Progress.Ready`): outside of all choices with the braces of the body open, or directly in an open
switch. What a switch holds is met inside of that switch, so that the induction over the shape goes
through with the switch as the innermost choice (`Shape.opened`).

Main results: `Shape.bodyFrom_pieces`, `Shape.bodyFrom_piecesOfAll`.
-/

set_option autoImplicit false

namespace Cyclomatic

open Token

namespace Reading

/-! ## Running a body -/

/-- The body does not end where `n` brackets are open. -/
def Progress.Running (depth : Nat) (p : Progress) (n : Nat) : Prop := p.choices = [] → depth < n

/-- Statements are met where `n` brackets are open: no match is innermost, and the innermost
switch is open. -/
structure Progress.Ready (depth : Nat) (p : Progress) (n : Nat) : Prop where
  running : p.Running depth n
  switch : ∀ c ∈ p.choices.head?, c.kind = .switch_ ∧ c.depth < n

variable {depth n : Nat} {p : Progress} {t : Token} {left rest : List Token}
  {brackets : List Bracket}

theorem Progress.Running.mono {m : Nat} (h : p.Running depth n) (hm : n ≤ m) :
    p.Running depth m := fun hc => Nat.lt_of_lt_of_le (h hc) hm

theorem Progress.Ready.mono {m : Nat} (h : p.Ready depth n) (hm : n ≤ m) : p.Ready depth m :=
  ⟨h.running.mono hm, fun c hc => ⟨(h.switch c hc).1, Nat.lt_of_lt_of_le (h.switch c hc).2 hm⟩⟩

theorem Progress.Ready.add (h : p.Ready depth n) (s : Statement) : (p.add s).Ready depth n := by
  obtain ⟨choices, statements⟩ := p
  cases choices with
  | nil => exact ⟨fun _ => h.running rfl, by simp [Progress.add]⟩
  | cons c outer =>
    refine ⟨fun hc => by simp [Progress.add] at hc, fun d hd => ?_⟩
    obtain rfl : { c with nested := s :: c.nested } = d := by simpa [Progress.add] using hd
    exact h.switch c rfl

theorem bodyFrom_cons (hr : p.Running depth brackets.length) (hf : fault? t brackets = none)
    (hm : t.isMemberAccess = false) :
    bodyFrom depth p (t :: left) brackets =
      bodyFrom depth (p.take t (after t brackets).length) left (after t brackets) := by
  have hend : (p.choices.isEmpty && brackets.length == depth) = false := by
    cases hc : p.choices with
    | nil => simpa [hc] using Nat.ne_of_gt (hr hc)
    | cons c outer => simp
  rw [bodyFrom]
  simp [hend, hf, Progress.skipsMember, hm]

/-- A token that is no keyword changes nothing, unless it is an arrow or the end of a choice. -/
theorem Progress.take_plain (hk : t.keyword? = none) (ha : t.kind ≠ .fatArrow)
    (hb : t.kind = .rightBrace → ∀ c ∈ p.choices.head?, n ≠ c.depth) : p.take t n = p := by
  obtain ⟨choices, statements⟩ := p
  cases choices with
  | nil => simp [Progress.take, hk]
  | cons c outer =>
    have hend : (t.kind == .rightBrace && n == c.depth) = false := by
      simpa using fun h => hb h c rfl
    cases hc : c.kind <;> simp [Progress.take, hend, hc, hk, ha]

/-- A token that is no keyword, no bracket, no arrow and no member access is passed over. -/
theorem bodyFrom_plain (hr : p.Running depth brackets.length) (ho : opened? t = none)
    (hc : closed? t = none) (hk : t.keyword? = none) (ha : t.kind ≠ .fatArrow)
    (hm : t.isMemberAccess = false) :
    bodyFrom depth p (t :: left) brackets = bodyFrom depth p left brackets := by
  have hb : t.kind ≠ .rightBrace := by
    intro h
    simp [closed?, h] at hc
  rw [bodyFrom_cons hr (by simp [fault?, hc]) hm, after_plain ho hc,
    Progress.take_plain hk ha fun h => absurd h hb]

/-- A keyword is read wherever statements are met. -/
theorem Progress.take_keyword {k : Keyword} (hr : p.Ready depth n) (hk : t.keyword? = some k) :
    p.take t n =
      if p.choices ≠ [] ∧ k = .case_ then p.addCase else p.start k t.line n := by
  have hends : (t.kind == .rightBrace && p.choices.head?.any (n == ·.depth)) = false := by
    have hi : t.kind = .identifier := by
      by_contra h
      simp [Token.keyword?, Token.isIdentifier, h] at hk
    simp [hi]
  rw [Progress.take_of_word (fun c hc => (hr.switch c hc).1) hends, hk]

end Reading

namespace Shape

open Outline Reading

variable {depth : Nat} {p : Progress} {left : List Token} {brackets : List Bracket}

theorem bodyFrom_head (hr : p.Running depth brackets.length) :
    bodyFrom depth p (head.map (Piece.token 1) ++ left) brackets =
      bodyFrom depth p left brackets := by
  have hr' : p.Running depth (.paren :: brackets : List Bracket).length :=
    hr.mono (Nat.le_succ _)
  have hopen : after ((Piece.sign .leftParen).token 1) brackets = .paren :: brackets := rfl
  have hclose : after ((mark .rightParen).token 1) (.paren :: brackets) = brackets := rfl
  simp only [head, List.map_cons, List.map_nil, List.cons_append, List.nil_append]
  rw [bodyFrom_cons hr rfl rfl, hopen,
    Progress.take_plain (by decide) (by decide) (fun h => absurd h (by decide)),
    bodyFrom_plain hr' rfl rfl (by decide) (by decide) rfl, bodyFrom_cons hr' rfl rfl, hclose,
    Progress.take_plain (by decide) (by decide) fun h => absurd h (by decide)]

theorem token_keyword (k : Keyword) :
    (keyword k).token 1 = ⟨.identifier, 1, k.spelling⟩ := by
  cases k <;> rfl

/-- A keyword closes and opens no bracket. -/
theorem bodyFrom_keyword (k : Keyword) (hr : p.Running depth brackets.length) :
    bodyFrom depth p ((keyword k).token 1 :: left) brackets =
      bodyFrom depth (p.take ⟨.identifier, 1, k.spelling⟩ brackets.length) left brackets := by
  rw [token_keyword]
  exact bodyFrom_cons hr rfl rfl

theorem bodyFrom_block (hr : p.Ready depth brackets.length) :
    bodyFrom depth p ([.sign .leftBrace, mark .rightBrace].map (Piece.token 1) ++ left) brackets =
      bodyFrom depth p left brackets := by
  have hr' : p.Ready depth (.brace :: brackets : List Bracket).length := hr.mono (Nat.le_succ _)
  have hopen : after ((Piece.sign .leftBrace).token 1) brackets = .brace :: brackets := rfl
  have hclose : after ((mark .rightBrace).token 1) (.brace :: brackets) = brackets := rfl
  simp only [List.map_cons, List.map_nil, List.cons_append, List.nil_append]
  rw [bodyFrom_cons hr.running rfl rfl, hopen,
    Progress.take_plain (by decide) (by decide) (fun h => absurd h (by decide)),
    bodyFrom_cons hr'.running rfl rfl, hclose,
    Progress.take_plain (by decide) (by decide) fun _ c hc => Nat.ne_of_gt (hr.switch c hc).2]

/-- The choice that a keyword has just opened. -/
def opened (kind : Choice) (cases : Nat) (nested : List Statement) (p : Progress) (n : Nat) :
    Progress :=
  { p with choices := ⟨kind, 1, n, cases, nested⟩ :: p.choices }

theorem opened_running (kind : Choice) (cases : Nat) (nested : List Statement) (n m : Nat) :
    (opened kind cases nested p n).Running depth m := by
  intro h
  simp [opened] at h

theorem bodyFrom_arm (n cases : Nat) (left : List Token) :
    bodyFrom depth (opened .match_ cases [] p n) (arm.map (Piece.token 1) ++ left) brackets =
      bodyFrom depth (opened .match_ (cases + 1) [] p n) left brackets := by
  have hr (cases : Nat) := @opened_running depth p .match_ cases [] n brackets.length
  have harrow : (opened .match_ cases [] p n).take ((mark .fatArrow).token 1) brackets.length =
      opened .match_ (cases + 1) [] p n := Progress.take_of_match rfl rfl rfl
  have hafter : after ((mark .fatArrow).token 1) brackets = brackets := rfl
  simp only [arm, List.map_cons, List.map_nil, List.cons_append, List.nil_append]
  rw [bodyFrom_plain (hr _) rfl rfl (by decide) (by decide) rfl, bodyFrom_cons (hr _) rfl rfl,
    hafter, harrow, bodyFrom_plain (hr _) rfl rfl (by decide) (by decide) rfl,
    bodyFrom_plain (hr _) rfl rfl (by decide) (by decide) rfl]

theorem bodyFrom_arms (arms n cases : Nat) (left : List Token) :
    bodyFrom depth (opened .match_ cases [] p n)
        ((List.replicate arms arm).flatten.map (Piece.token 1) ++ left) brackets =
      bodyFrom depth (opened .match_ (cases + arms) [] p n) left brackets := by
  induction arms generalizing cases with
  | zero => rfl
  | succ arms ih =>
    rw [List.replicate_succ, List.flatten_cons, List.map_append, List.append_assoc, bodyFrom_arm,
      ih, Nat.add_assoc, Nat.add_comm 1]

theorem opened_ready {n m : Nat} (cases : Nat) (nested : List Statement) (h : n < m) :
    (opened .switch_ cases nested p n).Ready depth m :=
  ⟨opened_running _ _ _ _ _, by simpa [opened] using h⟩

theorem bodyFrom_label {n : Nat} (cases : Nat) (left : List Token) (hn : n < brackets.length) :
    bodyFrom depth (opened .switch_ cases [] p n) (label.map (Piece.token 1) ++ left) brackets =
      bodyFrom depth (opened .switch_ (cases + 1) [] p n) left brackets := by
  have hr (cases : Nat) := @opened_ready depth p n brackets.length cases [] hn
  have hcase : (opened .switch_ cases [] p n).take
      ⟨.identifier, 1, Keyword.case_.spelling⟩ brackets.length =
        opened .switch_ (cases + 1) [] p n := by
    rw [Progress.take_keyword (hr cases) (Keyword.keyword?_spelling _ _)]
    simp [opened, Progress.addCase]
  simp only [label, List.map_cons, List.map_nil, List.cons_append, List.nil_append]
  rw [bodyFrom_keyword _ (hr _).running, hcase,
    bodyFrom_plain (hr _).running rfl rfl (by decide) (by decide) rfl,
    bodyFrom_plain (hr _).running rfl rfl (by decide) (by decide) rfl]

theorem bodyFrom_labels {n : Nat} (labels cases : Nat) (left : List Token)
    (hn : n < brackets.length) :
    bodyFrom depth (opened .switch_ cases [] p n)
        ((List.replicate labels label).flatten.map (Piece.token 1) ++ left) brackets =
      bodyFrom depth (opened .switch_ (cases + labels) [] p n) left brackets := by
  induction labels generalizing cases with
  | zero => rfl
  | succ labels ih =>
    rw [List.replicate_succ, List.flatten_cons, List.map_append, List.append_assoc,
      bodyFrom_label _ _ hn, ih, Nat.add_assoc, Nat.add_comm 1]

theorem bodyFrom_decision (kind : Decision) (left : List Token)
    (hr : p.Ready depth brackets.length) :
    bodyFrom depth p ((keyword kind.keyword).token 1 :: left) brackets =
      bodyFrom depth (p.add (.decision kind 1)) left brackets := by
  have hk : ¬ (p.choices ≠ [] ∧ kind.keyword = .case_) := by cases kind <;> simp [Decision.keyword]
  rw [bodyFrom_keyword _ hr.running, Progress.take_keyword hr (Keyword.keyword?_spelling _ _), if_neg hk]
  cases kind <;> rfl

/-- The keyword of a choice, its head and its opening brace open it. -/
theorem bodyFrom_opening {k : Keyword} {kind : Choice} (left : List Token)
    (hd : decision? k = none) (hc : choice? k = some kind) (hr : p.Ready depth brackets.length) :
    bodyFrom depth p
        ((keyword k).token 1 :: (head.map (Piece.token 1) ++ (mark .leftBrace).token 1 :: left))
        brackets =
      bodyFrom depth (opened kind 0 [] p brackets.length) left (.brace :: brackets) := by
  have hk : ¬ (p.choices ≠ [] ∧ k = .case_) := by
    rintro ⟨-, rfl⟩
    simp [choice?] at hc
  have hstart : p.start k 1 brackets.length = opened kind 0 [] p brackets.length := by
    simp [Progress.start, hd, hc, opened]
  have hafter : after ((mark .leftBrace).token 1) brackets = .brace :: brackets := rfl
  have hr' (m : Nat) := @opened_running depth p kind 0 [] brackets.length m
  rw [bodyFrom_keyword _ hr.running, Progress.take_keyword hr (Keyword.keyword?_spelling _ _), if_neg hk, hstart,
    bodyFrom_head (hr' _), bodyFrom_cons (hr' _) rfl rfl, hafter,
    Progress.take_plain (by decide) (by decide) fun h => absurd h (by decide)]

/-- The closing brace of a choice makes it a statement. -/
theorem bodyFrom_closing (kind : Choice) (cases : Nat) (nested : List Statement)
    (left : List Token) :
    bodyFrom depth (opened kind cases nested p brackets.length)
        ((Piece.sign .rightBrace).token 1 :: left) (.brace :: brackets) =
      bodyFrom depth (p.add (.choice kind 1 cases nested.reverse)) left brackets := by
  have hafter : after ((Piece.sign .rightBrace).token 1) (.brace :: brackets) = brackets := rfl
  have hclose : (opened kind cases nested p brackets.length).take
      ((Piece.sign .rightBrace).token 1) brackets.length = _ := Progress.take_of_end rfl rfl rfl
  rw [bodyFrom_cons (opened_running _ _ _ _ _) rfl rfl, hafter, hclose]
  rfl

theorem foldl_add_opened (cases n : Nat) (sts nested : List Statement) :
    sts.foldl (fun p s => p.add s) (opened .switch_ cases nested p n) =
      opened .switch_ cases (sts.reverse ++ nested) p n := by
  induction sts generalizing nested with
  | nil => rfl
  | cons s sts ih =>
    rw [List.foldl_cons, List.reverse_cons, List.append_assoc]
    exact ih (s :: nested)

mutual

/-- **A statement is read back**, wherever statements are met. -/
theorem bodyFrom_pieces (s : Shape) (p : Progress) (left : List Token) (brackets : List Bracket)
    (hr : p.Ready depth brackets.length) :
    bodyFrom depth p (s.pieces.map (Piece.token 1) ++ left) brackets =
      bodyFrom depth (p.add s.statement) left brackets := by
  cases s with
  | decision kind =>
    have hr' (kind : Decision) := (hr.add (.decision kind 1)).running
    cases kind with
    | throw_ =>
      refine (bodyFrom_decision .throw_ _ hr).trans ?_
      exact (bodyFrom_plain (hr' _) rfl rfl (by decide) (by decide) rfl).trans
        (bodyFrom_plain (hr' _) rfl rfl (by decide) (by decide) rfl)
    | _ =>
      simp only [pieces, List.map_cons, List.map_append, List.cons_append, List.append_assoc]
      rw [bodyFrom_decision _ _ hr, bodyFrom_head (hr' _)]
      exact bodyFrom_block (hr.add _)
  | match_ arms =>
    simp only [pieces, List.map_cons, List.map_nil, List.map_append, List.cons_append,
      List.append_assoc, List.nil_append]
    rw [bodyFrom_opening _ rfl rfl hr, bodyFrom_arms, bodyFrom_closing, Nat.zero_add]
    exact bodyFrom_plain (hr.add _).running rfl rfl (by decide) (by decide) rfl
  | switch_ cases nested =>
    have hn : brackets.length < (.brace :: brackets : List Bracket).length := Nat.lt_succ_self _
    simp only [pieces, List.map_cons, List.map_append, List.cons_append, List.append_assoc]
    rw [bodyFrom_opening _ rfl rfl hr, bodyFrom_labels _ _ _ hn,
      bodyFrom_piecesOfAll nested _ _ _ (opened_ready _ _ hn), foldl_add_opened]
    exact (bodyFrom_closing _ _ _ _).trans (by simp [statement])

theorem bodyFrom_piecesOfAll (shapes : List Shape) (p : Progress) (left : List Token)
    (brackets : List Bracket) (hr : p.Ready depth brackets.length) :
    bodyFrom depth p ((piecesOfAll shapes).map (Piece.token 1) ++ left) brackets =
      bodyFrom depth ((statements shapes).foldl (fun p s => p.add s) p) left brackets := by
  cases shapes with
  | nil => rfl
  | cons s rest =>
    rw [piecesOfAll, List.map_append, List.append_assoc, bodyFrom_pieces s p _ _ hr,
      bodyFrom_piecesOfAll rest _ _ _ (hr.add _)]
    rfl

end

end Shape

end Cyclomatic
