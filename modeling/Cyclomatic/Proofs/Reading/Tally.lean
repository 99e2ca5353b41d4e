import Cyclomatic.Proofs.Reading.Points
import Cyclomatic.Proofs.Reading.Run
import Cyclomatic.Proofs.Token.Words

/-!
# The complexity of a method is a flat count

A `Tally` passes once over the tokens of a body. It knows how deep it is in brackets, which choices
are open and at what depth each started, and what it has counted; it builds no statements. While a
body is read, the tally of the tokens taken so far follows the reader's progress (`Follows`), so
that both stop at the same token (`bodyFrom_tally`) and the complexity of the method is one more
than the count (`method_complexity`).
-/

set_option autoImplicit false

namespace Cyclomatic.Reading

/-! ## The count -/

/-- What has been counted of a body, from its opening brace on. -/
structure Tally where
  /-- The brackets open, less those open before the body. -/
  depth : Int := 1
  /-- The open choices, the innermost first, and the depth at which each started. -/
  opens : List (Choice × Int) := []
  /-- The decision points. -/
  total : Int := 0
  /-- Whether the last token selects a member. -/
  afterAccess : Bool := false

namespace Tally

/-- The words that count wherever no match is innermost. -/
def decisionWords : List String := ["if", "elseif", "for", "foreach", "throw", "catch"]

/-- Whether the innermost open choice is of a kind. -/
def onTop (kind : Choice) (s : Tally) : Bool := s.opens.head?.any (·.1 == kind)

/-- How a token changes the depth. -/
def change (t : Token) : Int :=
  match t.kind with
  | .leftParen | .leftBrace => 1
  | .rightParen | .rightBrace => -1
  | _ => 0

/-- What a token adds to the count. -/
def points (s : Tally) (t : Token) : Int :=
  if s.onTop .match_ then if t.kind = .fatArrow then 1 else 0
  else if !t.isIdentifier || s.afterAccess then 0
  else if decisionWords.contains t.lexeme then 1
  else if s.onTop .switch_ && t.lexeme == "case" then 1
  else 0

/-- The choice that a token starts. -/
def starts? (s : Tally) (t : Token) : Option Choice :=
  if s.onTop .match_ || !t.isIdentifier || s.afterAccess then none
  else if t.lexeme = "switch" then some .switch_
  else if t.lexeme = "match" then some .match_
  else none

/-- Whether a token after which the depth is `depth` ends the innermost choice. -/
def ends (s : Tally) (t : Token) (depth : Int) : Bool :=
  t.kind == .rightBrace && s.opens.head?.any (·.2 == depth)

/-- Counts a token. -/
def step (s : Tally) (t : Token) : Tally where
  depth := s.depth + change t
  opens :=
    match s.starts? t with
    | some kind => (kind, s.depth + change t) :: s.opens
    | none => if s.ends t (s.depth + change t) then s.opens.tail else s.opens
  total := s.total + s.points t
  afterAccess := t.isMemberAccess

/-- The body has ended: no choice is open, and the depth is that before the body. -/
def Finished (s : Tally) : Prop := s.opens = [] ∧ s.depth = 0

/-- The body ends for the first time after `body`. -/
structure Stops (s : Tally) (body : List Token) : Prop where
  finished : (body.foldl step s).Finished
  first : ∀ before t after, body = before ++ t :: after → ¬ (before.foldl step s).Finished

variable {s : Tally} {t : Token}

theorem Stops.nil (h : s.Finished) : s.Stops [] := ⟨h, by simp⟩

theorem Stops.cons {body : List Token} (hn : ¬ s.Finished) (h : (s.step t).Stops body) :
    s.Stops (t :: body) := by
  refine ⟨h.finished, fun before u after he => ?_⟩
  cases before with
  | nil => exact hn
  | cons v before =>
    obtain ⟨rfl, rfl⟩ := List.cons.inj he
    exact h.first before u after rfl

end Tally

/-- The count over tokens. -/
def tally (body : List Token) : Tally := body.foldl Tally.step {}

/-! ## Words -/

theorem contains_decisionWords (word : String) :
    Tally.decisionWords.contains word = ((Keyword.ofWord? word).bind decision?).isSome := by
  cases hk : Keyword.ofWord? word with
  | none =>
    refine Bool.eq_false_iff.2 fun hc => ?_
    have hm : word ∈ Tally.decisionWords := by simpa using hc
    simp only [Tally.decisionWords, List.mem_cons, List.not_mem_nil, or_false] at hm
    rcases hm with rfl | rfl | rfl | rfl | rfl | rfl <;> revert hk <;> decide
  | some k =>
    rcases Keyword.spelling_of_ofWord? hk with rfl | ⟨rfl, rfl | rfl⟩
    · cases k <;> rfl
    · rfl
    · rfl

theorem choice_of_word (word : String) :
    (if word = "switch" then some .switch_ else if word = "match" then some .match_ else none) =
      (Keyword.ofWord? word).bind choice? := by
  have hs := @Keyword.ofWord?_eq_some word .switch_ (by decide)
  have hm := @Keyword.ofWord?_eq_some word .match_ (by decide)
  split
  · rename_i h
    rw [hs.2 h]
    rfl
  · rename_i h
    split
    · rename_i h'
      rw [hm.2 h']
      rfl
    · rename_i h'
      cases hk : Keyword.ofWord? word with
      | none => rfl
      | some k =>
        have hks : k ≠ .switch_ := fun he => h (hs.1 (he ▸ hk))
        have hkm : k ≠ .match_ := fun he => h' (hm.1 (he ▸ hk))
        cases k <;> first | rfl | contradiction

variable {s : Tally} {t : Token}

theorem Tally.points_of_keyword? (hm : s.onTop .match_ = false)
    (ha : t.isIdentifier = true → s.afterAccess = false) :
    s.points t = match t.keyword? with
      | some k =>
        if (decision? k).isSome then 1 else if s.onTop .switch_ ∧ k = .case_ then 1 else 0
      | none => 0 := by
  cases hi : t.isIdentifier with
  | false => simp [Tally.points, hm, hi, Token.keyword?]
  | true =>
    have hcase : (t.lexeme == "case") = (Keyword.ofWord? t.lexeme == some .case_) := by
      rw [Bool.eq_iff_iff, beq_iff_eq, beq_iff_eq]
      exact (@Keyword.ofWord?_eq_some t.lexeme .case_ (by decide)).symm
    simp only [Tally.points, hm, hi, ha hi, contains_decisionWords, hcase, Token.keyword?]
    cases hk : Keyword.ofWord? t.lexeme <;> simp

theorem Tally.starts?_of_keyword? (hm : s.onTop .match_ = false)
    (ha : t.isIdentifier = true → s.afterAccess = false) :
    s.starts? t = t.keyword?.bind choice? := by
  cases hi : t.isIdentifier with
  | false => simp [Tally.starts?, hm, hi, Token.keyword?]
  | true => simp [Tally.starts?, hm, hi, ha hi, choice_of_word, Token.keyword?]

/-! ## Following the reader -/

/-- The tally has the choices open that the reader has, and has counted what the reader has read. -/
structure Agrees (depth : Nat) (p : Progress) (s : Tally) : Prop where
  opens_eq : s.opens = p.frames.map fun f => (f.1, (f.2 : Int) - depth)
  total_eq : s.total = p.points
  outer : ∀ f ∈ p.frames.tail, f.1 = .switch_

variable {depth n : Nat} {p : Progress} {left : List Token} {brackets : List Bracket}

theorem Agrees.onTop_eq (hs : Agrees depth p s) (kind : Choice) :
    s.onTop kind = p.choices.head?.any (·.kind == kind) := by
  rw [Tally.onTop, hs.opens_eq, Progress.frames]
  cases p.choices <;> rfl

theorem Agrees.ends_eq (hs : Agrees depth p s) (t : Token) (n : Nat) :
    s.ends t (n - depth) = (t.kind == .rightBrace && p.choices.head?.any (n == ·.depth)) := by
  have hd (m : Nat) : ((m : Int) - depth == n - depth) = (n == m) := by
    rw [Bool.eq_iff_iff, beq_iff_eq, beq_iff_eq]
    omega
  rw [Tally.ends, hs.opens_eq, Progress.frames]
  cases p.choices with
  | nil => rfl
  | cons c outer => simp [hd]

theorem Agrees.take_end (hs : Agrees depth p s) (hd : s.depth + Tally.change t = n - depth)
    (he : s.ends t (n - depth) = true) : Agrees depth (p.take t n) (s.step t) := by
  have hk : t.kind = .rightBrace ∧ p.choices.head?.any (n == ·.depth) = true := by
    simpa [hs.ends_eq] using he
  have hi : t.isIdentifier = false := by simp [Token.isIdentifier, hk.1]
  have hstart : s.starts? t = none := by simp [Tally.starts?, hi]
  have hpoints : s.points t = 0 := by simp [Tally.points, hi, hk.1]
  have htake : p.take t n = p.close := by
    cases hp : p.choices with
    | nil => simp [hp] at hk
    | cons c outer => exact Progress.take_of_end hp hk.1 (by simpa [hp] using hk.2)
  rw [htake]
  constructor
  · simp only [Tally.step, hstart, hd, he, if_true, hs.opens_eq, Progress.frames_close,
      List.map_tail]
  · simp only [Tally.step, hpoints, Int.add_zero, hs.total_eq, Progress.points_close hs.outer]
  · rw [Progress.frames_close]
    exact fun f hf => hs.outer f (List.mem_of_mem_tail hf)

theorem Agrees.take_match (hs : Agrees depth p s) (hd : s.depth + Tally.change t = n - depth)
    (he : s.ends t (n - depth) = false) (hm : s.onTop .match_ = true) :
    Agrees depth (p.take t n) (s.step t) := by
  have hstart : s.starts? t = none := by simp [Tally.starts?, hm]
  have hpoints : s.points t = if t.kind = .fatArrow then 1 else 0 := by simp [Tally.points, hm]
  have hopens : (s.step t).opens = s.opens := by simp [Tally.step, hstart, hd, he]
  rw [hs.onTop_eq] at hm
  rw [hs.ends_eq] at he
  obtain ⟨c, outer, hp⟩ : ∃ c outer, p.choices = c :: outer := by
    cases hp : p.choices with
    | nil => simp [hp] at hm
    | cons c outer => exact ⟨c, outer, rfl⟩
  rw [Progress.take_of_match hp (by simpa [hp] using hm) (by simpa [hp] using he)]
  have htotal : (s.step t).total = p.points + s.points t := by rw [← hs.total_eq]; rfl
  split
  · rename_i hk
    exact ⟨by rw [hopens, hs.opens_eq, Progress.frames_addCase],
      by rw [htotal, hpoints, if_pos hk, Progress.points_addCase hp],
      by rw [Progress.frames_addCase]; exact hs.outer⟩
  · rename_i hk
    exact ⟨by rw [hopens, hs.opens_eq], by rw [htotal, hpoints, if_neg hk, Int.add_zero], hs.outer⟩

/-- Where no match is innermost, all open choices are switches. -/
theorem Agrees.all_switch (hs : Agrees depth p s) (hm : s.onTop .match_ = false) :
    ∀ f ∈ p.frames, f.1 = .switch_ := by
  rw [hs.onTop_eq] at hm
  intro f hf
  cases hp : p.choices with
  | nil => simp [Progress.frames, hp] at hf
  | cons c outer =>
    have ho := hs.outer
    simp only [Progress.frames, hp, List.map_cons, List.tail_cons, List.mem_cons] at hf ho
    obtain rfl | hf := hf
    · cases hc : c.kind with
      | switch_ => rfl
      | match_ => simp [hp, hc] at hm
    · exact ho f hf

theorem Agrees.take_word (hs : Agrees depth p s) (hd : s.depth + Tally.change t = n - depth)
    (he : s.ends t (n - depth) = false) (hm : s.onTop .match_ = false)
    (ha : t.isIdentifier = true → s.afterAccess = false) :
    Agrees depth (p.take t n) (s.step t) := by
  have hstart := Tally.starts?_of_keyword? hm ha
  have hpoints := Tally.points_of_keyword? hm ha
  have hall := hs.all_switch hm
  have hc : ∀ c ∈ p.choices.head?, c.kind = .switch_ := fun c hc =>
    hall (c.kind, c.depth) (List.mem_map_of_mem (List.mem_of_mem_head? hc))
  have hswitch : s.onTop .switch_ = true ↔ p.choices ≠ [] := by
    rw [hs.onTop_eq]
    cases hp : p.choices with
    | nil => simp
    | cons c outer => simp [hc c (by simp [hp])]
  have htotal : (s.step t).total = p.points + s.points t := by rw [← hs.total_eq]; rfl
  have hopens : (s.step t).opens = match s.starts? t with
      | some kind => (kind, (n : Int) - depth) :: s.opens
      | none => s.opens := by
    rw [Tally.step, hd, he]
    rfl
  rw [hs.ends_eq] at he
  rw [Progress.take_of_word hc he]
  rw [hstart] at hopens
  cases hk : t.keyword? with
  | none =>
    simp only [hk] at hopens hpoints
    exact ⟨hopens.trans hs.opens_eq, by rw [htotal, hpoints, Int.add_zero], hs.outer⟩
  | some k =>
    simp only [hk] at hopens hpoints
    dsimp only
    split
    · rename_i h
      obtain ⟨hne, rfl⟩ := h
      obtain ⟨c, outer, hp⟩ := List.exists_cons_of_ne_nil hne
      have hpoint : s.points t = 1 := by simp [hpoints, decision?, hswitch, hne]
      exact ⟨by rw [Progress.frames_addCase]; exact hopens.trans hs.opens_eq,
        by rw [htotal, hpoint, Progress.points_addCase hp],
        by rw [Progress.frames_addCase]; exact hs.outer⟩
    · rename_i h
      have hno : ¬ (s.onTop .switch_ = true ∧ k = .case_) := by rwa [hswitch]
      rw [if_neg hno] at hpoints
      refine ⟨?_, by rw [htotal, hpoints, Progress.points_start hc], ?_⟩
      · rw [hopens, Progress.frames_start, hs.opens_eq]
        cases hk : choice? k <;> simp [hk]
      · rw [Progress.frames_start]
        cases choice? k with
        | none => exact hs.outer
        | some kind => exact hall

/-- **A token is counted as it is read.** -/
theorem Agrees.take (hs : Agrees depth p s) (hd : s.depth + Tally.change t = n - depth)
    (ha : t.isIdentifier = true → s.onTop .match_ = true ∨ s.afterAccess = false) :
    Agrees depth (p.take t n) (s.step t) := by
  cases he : s.ends t (n - depth) with
  | true => exact hs.take_end hd he
  | false =>
    cases hm : s.onTop .match_ with
    | true => exact hs.take_match hd he hm
    | false => exact hs.take_word hd he hm fun hi => by simpa [hm] using ha hi

/-- A token that adds, opens and closes nothing only moves the tally on. -/
theorem Tally.step_of_still (hc : Tally.change t = 0) (hs : s.starts? t = none)
    (hp : s.points t = 0) : s.step t = { s with afterAccess := t.isMemberAccess } := by
  have hk : (t.kind == .rightBrace) = false := by
    cases hk : t.kind <;> simp_all [Tally.change]
  simp [Tally.step, Tally.ends, hc, hs, hp, hk]

/-- The tally agrees where `brackets` are open and `left` is left. The name of a member, which the
reader passes over, is no word for the tally: it is behind a selection, or in a match. -/
structure Follows (depth : Nat) (p : Progress) (left : List Token) (brackets : List Bracket)
    (s : Tally) : Prop extends Agrees depth p s where
  depth_eq : s.depth = brackets.length - depth
  access : s.afterAccess = true →
    s.onTop .match_ = true ∨ ∀ t ∈ left.head?, t.isIdentifier = false

theorem change_eq (t : Token) :
    Tally.change t = match opened? t, closed? t with
      | some _, _ => 1
      | none, some _ => -1
      | none, none => 0 := by
  unfold Tally.change opened? closed?
  cases t.kind <;> rfl

theorem length_after (h : fault? t brackets = none) :
    ((after t brackets).length : Int) = brackets.length + Tally.change t := by
  rw [change_eq]
  cases ho : opened? t with
  | some b => simp only [after, ho, List.length_cons]; omega
  | none =>
    cases hc : closed? t with
    | none => simp only [after, ho, hc]; omega
    | some b =>
      cases brackets with
      | nil => simp [fault?, hc] at h
      | cons top outer => simp only [after, ho, hc, List.tail_cons, List.length_cons]; omega

theorem Follows.finished_iff (hf : Follows depth p left brackets s) :
    s.Finished ↔ (p.choices.isEmpty && brackets.length == depth) = true := by
  have hd : s.depth = 0 ↔ brackets.length = depth := by
    rw [hf.depth_eq]
    omega
  rw [Tally.Finished, hd, hf.opens_eq, Progress.frames]
  cases p.choices <;> simp

theorem Tally.step_memberAccess (h : t.isMemberAccess = true) :
    s.step t = { s with afterAccess := true } := by
  have hk : t.kind = .thinArrow ∨ t.kind = .colonColon := by simpa [Token.isMemberAccess] using h
  have hi : t.isIdentifier = false := by rcases hk with hk | hk <;> simp [Token.isIdentifier, hk]
  have hf : t.kind ≠ .fatArrow := by rcases hk with hk | hk <;> simp [hk]
  rw [← h]
  refine step_of_still ?_ (by simp [starts?, hi]) (by simp [points, hi, hf])
  rcases hk with hk | hk <;> simp [change, hk]

theorem Follows.take (hf : Follows depth p (t :: left) brackets s)
    (hn : fault? t brackets = none) (hskip : p.skipsMember t = false) :
    Follows depth (p.take t (after t brackets).length) left (after t brackets) (s.step t) := by
  have hd : s.depth + Tally.change t = (after t brackets).length - depth := by
    rw [hf.depth_eq, length_after hn]
    omega
  have ha (hi : t.isIdentifier = true) : s.onTop .match_ = true ∨ s.afterAccess = false := by
    by_cases ha : s.afterAccess = true
    · rcases hf.access ha with hm | hl
      · exact .inl hm
      · cases hi.symm.trans (hl t rfl)
    · exact .inr (by simpa using ha)
  refine ⟨hf.toAgrees.take hd ha, hd, fun hm => .inl ?_⟩
  -- the reader does not pass over a name in a match: the tally has to be in one, too
  have hm' : t.isMemberAccess = true := hm
  rw [Tally.step_memberAccess hm']
  have htop := hf.onTop_eq .match_
  have hin : p.choices.head?.any (·.kind == .match_) = true := by
    simpa [Progress.skipsMember, hm'] using hskip
  exact htop.trans hin

/-- A selection that the reader passes over together with a name moves the tally on; no match is
innermost. -/
theorem Follows.skip (hf : Follows depth p (t :: left) brackets s)
    (hn : fault? t brackets = none) (hskip : p.skipsMember t = true) :
    s.step t = { s with afterAccess := true } ∧ s.onTop .match_ = false ∧
      s.depth = (after t brackets).length - depth := by
  obtain ⟨hm, htop⟩ : t.isMemberAccess = true ∧
      p.choices.head?.any (·.kind == .match_) = false := by
    simpa [Progress.skipsMember] using hskip
  have hs := @Tally.step_memberAccess s t hm
  have hc : s.depth + Tally.change t = s.depth := congrArg Tally.depth hs
  have hd := hf.depth_eq
  refine ⟨hs, (hf.onTop_eq _).trans htop, ?_⟩
  rw [length_after hn]
  omega

theorem Follows.skip_access (hf : Follows depth p (t :: left) brackets s)
    (hn : fault? t brackets = none) (hskip : p.skipsMember t = true)
    (hl : ∀ u ∈ left.head?, u.isIdentifier = false) :
    Follows depth p left (after t brackets) (s.step t) := by
  obtain ⟨hs, -, hd⟩ := hf.skip hn hskip
  rw [hs]
  exact ⟨⟨hf.opens_eq, hf.total_eq, hf.outer⟩, hd, fun _ => .inr hl⟩

theorem Follows.skip_name {u : Token} (hf : Follows depth p (t :: u :: left) brackets s)
    (hn : fault? t brackets = none) (hskip : p.skipsMember t = true)
    (hu : u.isIdentifier = true) :
    Follows depth p left (after t brackets) ((s.step t).step u) := by
  obtain ⟨hs, hm, hd⟩ := hf.skip hn hskip
  have hk : u.kind = .identifier := by simpa [Token.isIdentifier] using hu
  have hm' : Tally.onTop .match_ { s with afterAccess := true } = false := hm
  have hname : Tally.step { s with afterAccess := true } u = { s with afterAccess := false } := by
    rw [Tally.step_of_still (by simp [Tally.change, hk]) (by simp [Tally.starts?])
      (by simp [Tally.points, hm'])]
    simp [Token.isMemberAccess, hk]
  rw [hs, hname]
  exact ⟨⟨hf.opens_eq, hf.total_eq, hf.outer⟩, hd, by simp⟩

/-- Where the reader ends a body, the tally has counted its statements. -/
theorem Follows.total_of_end (hf : Follows depth p left brackets s)
    (he : (p.choices.isEmpty && brackets.length == depth) = true) :
    s.total = Statement.complexityOfAll p.statements.reverse := by
  rw [hf.total_eq, Progress.points, choices_of_end he, Statement.complexityOfAll_reverse]
  exact Int.zero_add _

/-- **The reader and the tally end a body at the same token.** -/
theorem bodyFrom_tally {statements : List Statement} {rest : Tape}
    (hf : Follows depth p left brackets s)
    (h : bodyFrom depth p left brackets = .ok statements rest) :
    ∃ body, left = body ++ rest.left ∧ s.Stops body ∧
      (body.foldl Tally.step s).total = Statement.complexityOfAll statements := by
  fun_induction bodyFrom depth p left brackets generalizing s with
  | case1 p brackets he =>
    cases h
    exact ⟨[], rfl, .nil (hf.finished_iff.2 he), hf.total_of_end he⟩
  | case2 => cases h
  | case3 p t left brackets he =>
    cases h
    exact ⟨[], rfl, .nil (hf.finished_iff.2 he), hf.total_of_end he⟩
  | case4 => cases h
  | case5 p t brackets he hn _ hskip =>
    rename_i ih
    obtain ⟨body, hl, hs, ht⟩ := ih (hf.skip_access hn hskip (by simp)) h
    exact ⟨t :: body, by rw [hl, List.cons_append], .cons (mt hf.finished_iff.1 he) hs, ht⟩
  | case6 p t brackets he hn _ hskip u left hu =>
    rename_i ih
    obtain ⟨body, hl, hs, ht⟩ := ih (hf.skip_name hn hskip hu) h
    have he' : ¬ (s.step t).Finished := by
      rw [(hf.skip hn hskip).1]
      exact mt hf.finished_iff.1 he
    exact ⟨t :: u :: body, by rw [hl]; rfl, .cons (mt hf.finished_iff.1 he) (.cons he' hs), ht⟩
  | case7 p t brackets he hn _ hskip u left hu =>
    rename_i ih
    obtain ⟨body, hl, hs, ht⟩ := ih (hf.skip_access hn hskip (by simpa using hu)) h
    exact ⟨t :: body, by rw [hl, List.cons_append], .cons (mt hf.finished_iff.1 he) hs, ht⟩
  | case8 p t left brackets he hn _ hskip =>
    rename_i ih
    obtain ⟨body, hl, hs, ht⟩ := ih (hf.take hn (by simpa using hskip)) h
    exact ⟨t :: body, by rw [hl, List.cons_append], .cons (mt hf.finished_iff.1 he) hs, ht⟩

/-! ## Methods -/

/-- What comes before the body of a method: its name, its parameter list and its return type. -/
structure Signature where
  name : Token
  list : List Token
  returnType? : Option String

/-- Reads a method after the word `function`, up to its body. -/
def signature (imports : Imports) : Read Signature := do
  let name ← next
  let outside ← Reading.depth
  let _ ← next
  let list ← takeToDepth outside
  let returnType? ← returnType imports
  pure ⟨name, list, returnType?⟩

/-- The method with a signature and a body. -/
def Signature.method (imports : Imports) (visibility : Visibility) (s : Signature)
    (isAbstract : Bool) (statements : List Statement) : Member where
  types := (s.list.filter (!isParam ·)).filterMap imports.type?
  method? := some
    { name := s.name.lexeme
      statements
      params := s.list.countP isParam
      returnType? := s.returnType?
      visibility
      isAbstract }

/-- A method is its signature, then a token that opens its body, or a semicolon. -/
theorem method_eq (imports : Imports) (visibility : Visibility) :
    method imports visibility = (do
      let s ← signature imports
      let outside ← Reading.depth
      let t ← next
      let statements ← if t.kind == .semicolon then pure [] else body outside
      pure (s.method imports visibility (t.kind == .semicolon) statements)) := by
  simp only [method, signature, bind_assoc, pure_bind]
  rfl

/-- What a method is made of. Without a semicolon behind its signature, it has a body. -/
theorem method_eq_ok {imports : Imports} {visibility : Visibility} {tape rest : Tape} {m : Member}
    (h : method imports visibility tape = .ok m rest) :
    ∃ sig opening inner brackets statements,
      signature imports tape = .ok sig ⟨opening :: inner, brackets⟩ ∧
      m = sig.method imports visibility (opening.kind == .semicolon) statements ∧
      (opening.kind ≠ .semicolon →
        body brackets.length ⟨inner, after opening brackets⟩ = .ok statements rest) := by
  rw [method_eq] at h
  obtain ⟨sig, ⟨left, brackets⟩, hsig, h⟩ := bind_eq_ok h
  obtain ⟨outside, middle, hd, h⟩ := bind_eq_ok h
  cases hd
  obtain ⟨opening, ⟨inner, opened⟩, hn, h⟩ := bind_eq_ok h
  obtain ⟨rfl, -, rfl⟩ := next_eq_ok hn
  dsimp only at h
  split at h
  · rename_i hk
    cases h
    exact ⟨sig, opening, inner, brackets, [], hsig, rfl, fun hne => absurd (beq_iff_eq.1 hk) hne⟩
  · obtain ⟨statements, final, hbody, h⟩ := bind_eq_ok h
    cases h
    exact ⟨sig, opening, inner, brackets, statements, hsig, rfl, fun _ => hbody⟩

/-- The tally of a body starts with the reader. -/
theorem follows_start (left : List Token) (brackets : List Bracket) :
    Follows brackets.length {} left (.brace :: brackets) {} where
  opens_eq := rfl
  total_eq := rfl
  outer := by simp [Progress.frames]
  depth_eq := by
    show (1 : Int) = (brackets.length + 1 : Nat) - brackets.length
    omega
  access := by simp

/-- **The complexity of a method with a body is one more than the count over its body**, which ends
at the first token after which no choice is open and the depth is that before the body. -/
theorem method_complexity {imports : Imports} {visibility : Visibility} {tape rest : Tape}
    {m : Member} (h : method imports visibility tape = .ok m rest) :
    ∃ sig opening left brackets f, signature imports tape = .ok sig ⟨opening :: left, brackets⟩ ∧
      m.method? = some f ∧
      (opening.kind = .leftBrace → ∃ body, left = body ++ rest.left ∧ ({} : Tally).Stops body ∧
        f.complexity = 1 + (tally body).total) := by
  rw [method_eq] at h
  obtain ⟨sig, ⟨left, brackets⟩, hsig, h⟩ := bind_eq_ok h
  obtain ⟨outside, middle, hd, h⟩ := bind_eq_ok h
  obtain ⟨rfl, rfl⟩ : brackets.length = outside ∧ (⟨left, brackets⟩ : Tape) = middle := by
    simpa [depth_run] using hd
  obtain ⟨opening, ⟨inner, opened⟩, hn, h⟩ := bind_eq_ok h
  obtain ⟨rfl, -, rfl⟩ := next_eq_ok hn
  dsimp only at h
  split at h
  · rename_i hk
    cases h
    refine ⟨sig, opening, inner, brackets, _, hsig, rfl, fun hb => ?_⟩
    simp [hb] at hk
  · obtain ⟨statements, final, hbody, h⟩ := bind_eq_ok h
    cases h
    refine ⟨sig, opening, inner, brackets, _, hsig, rfl, fun hb => ?_⟩
    have hafter : after opening brackets = .brace :: brackets := by simp [after, opened?, hb]
    rw [body, hafter] at hbody
    obtain ⟨body, hl, hs, ht⟩ := bodyFrom_tally (follows_start inner brackets) hbody
    refine ⟨body, hl, hs, ?_⟩
    rw [Method.complexity, ← ht, Int.add_comm]
    rfl

/-- `f() { switch () { case match () { => } if } -> if }`. -/
def nestedChoices : List Token :=
  [⟨.identifier, 1, "f"⟩, ⟨.leftParen, 1, "("⟩, ⟨.rightParen, 1, ")"⟩, ⟨.leftBrace, 1, "\x7b"⟩,
    ⟨.identifier, 1, "switch"⟩, ⟨.leftParen, 1, "("⟩, ⟨.rightParen, 1, ")"⟩,
    ⟨.leftBrace, 1, "\x7b"⟩, ⟨.identifier, 1, "case"⟩, ⟨.identifier, 1, "match"⟩,
    ⟨.leftParen, 1, "("⟩, ⟨.rightParen, 1, ")"⟩, ⟨.leftBrace, 1, "\x7b"⟩, ⟨.fatArrow, 1, "=>"⟩,
    ⟨.rightBrace, 1, "\x7d"⟩, ⟨.identifier, 1, "if"⟩, ⟨.rightBrace, 1, "\x7d"⟩,
    ⟨.thinArrow, 1, "->"⟩, ⟨.identifier, 1, "if"⟩, ⟨.rightBrace, 1, "\x7d"⟩]

theorem method_complexity_of_nestedChoices :
    ∃ m, method {} .public_ ⟨nestedChoices, []⟩ = .ok m ⟨[], []⟩ ∧
      ∃ sig opening left brackets f,
        signature {} ⟨nestedChoices, []⟩ = .ok sig ⟨opening :: left, brackets⟩ ∧
        m.method? = some f ∧
        (opening.kind = .leftBrace → ∃ body, left = body ++ [] ∧ ({} : Tally).Stops body ∧
          f.complexity = 1 + (tally body).total) :=
  ⟨_, rfl, @method_complexity {} .public_ ⟨nestedChoices, []⟩ ⟨[], []⟩ _ rfl⟩

end Cyclomatic.Reading
