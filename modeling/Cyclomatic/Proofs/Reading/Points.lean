import Cyclomatic.Reading.Body

/-!
# The decision points read so far

`Progress.points` counts what has been read of a body as if all open choices were closed now, and
`Progress.frames` is where those choices started. For each way in which the reader goes on, one
lemma says what it adds to the points and one what it does to the frames. Statements are added only
where a switch is innermost, or nothing: what is nested in a match would not count.

`Progress.take_cases` says once what a token can do to the progress made, and `bodyFrom_invariant` that
what every token keeps holds of the statements read in the end.
-/

set_option autoImplicit false

namespace Cyclomatic.Statement

theorem complexityOfAll_append (statements others : List Statement) :
    complexityOfAll (statements ++ others) =
      complexityOfAll statements + complexityOfAll others := by
  induction statements with
  | nil => exact (Int.zero_add _).symm
  | cons s rest ih =>
    rw [List.cons_append, complexityOfAll, complexityOfAll, ih, Int.add_assoc]

theorem complexityOfAll_reverse (statements : List Statement) :
    complexityOfAll statements.reverse = complexityOfAll statements := by
  induction statements with
  | nil => rfl
  | cons s rest ih =>
    have hone : complexityOfAll [s] = s.complexity := Int.add_zero _
    rw [List.reverse_cons, complexityOfAll_append, ih, hone, Int.add_comm]
    rfl

end Cyclomatic.Statement

namespace Cyclomatic.Reading

/-- The statement that an open choice is if it is closed now. -/
def OpenChoice.statement (c : OpenChoice) : Statement :=
  .choice c.kind c.line c.cases c.nested.reverse

theorem OpenChoice.complexity_match {line : Int} {depth cases : Nat} {nested : List Statement} :
    (statement ⟨.match_, line, depth, cases, nested⟩).complexity = cases := rfl

theorem OpenChoice.complexity_switch {line : Int} {depth cases : Nat} {nested : List Statement} :
    (statement ⟨.switch_, line, depth, cases, nested⟩).complexity =
      cases + Statement.complexityOfAll nested := by
  rw [statement, Statement.complexity, Statement.complexityOfAll_reverse]

namespace Progress

/-- The decision points read so far. -/
def points (p : Progress) : Int :=
  Statement.complexityOfAll (p.choices.map OpenChoice.statement) +
    Statement.complexityOfAll p.statements

variable {p : Progress} {c : OpenChoice} {outer : List OpenChoice} {k : Keyword} {line : Int}
  {n : Nat}

/-- The kinds of the open choices and where they started. -/
def frames (p : Progress) : List (Choice × Nat) := p.choices.map fun c => (c.kind, c.depth)

theorem frames_add (s : Statement) (p : Progress) : (p.add s).frames = p.frames := by
  obtain ⟨choices, statements⟩ := p
  cases choices <;> rfl

theorem points_add (s : Statement) (hk : ∀ c ∈ p.choices.head?, c.kind = .switch_) :
    (p.add s).points = p.points + s.complexity := by
  obtain ⟨choices, statements⟩ := p
  cases choices with
  | nil =>
    simp only [add, points, Statement.complexityOfAll]
    omega
  | cons c outer =>
    obtain ⟨kind, line, depth, cases, nested⟩ := c
    obtain rfl : kind = .switch_ := hk _ rfl
    simp only [add, points, List.map_cons, Statement.complexityOfAll,
      OpenChoice.complexity_switch]
    omega

theorem points_addCase (hp : p.choices = c :: outer) : p.addCase.points = p.points + 1 := by
  obtain ⟨choices, statements⟩ := p
  obtain rfl : choices = c :: outer := hp
  obtain ⟨kind, line, depth, cases, nested⟩ := c
  cases kind <;>
    simp only [addCase, points, List.map_cons, Statement.complexityOfAll,
      OpenChoice.complexity_match, OpenChoice.complexity_switch] <;>
    omega

theorem frames_addCase (p : Progress) : p.addCase.frames = p.frames := by
  obtain ⟨choices, statements⟩ := p
  cases choices <;> rfl

theorem points_close (ho : ∀ f ∈ p.frames.tail, f.1 = .switch_) : p.close.points = p.points := by
  obtain ⟨choices, statements⟩ := p
  cases choices with
  | nil => rfl
  | cons c outer =>
    have hk : ∀ d ∈ outer.head?, d.kind = .switch_ := fun d hd =>
      ho _ (List.mem_map_of_mem (List.mem_of_mem_head? hd))
    rw [close, points_add _ hk]
    simp only [points, List.map_cons, Statement.complexityOfAll, OpenChoice.statement]
    omega

theorem frames_close (p : Progress) : p.close.frames = p.frames.tail := by
  obtain ⟨choices, statements⟩ := p
  cases choices with
  | nil => rfl
  | cons c outer => exact frames_add _ _

theorem points_start (hk : ∀ c ∈ p.choices.head?, c.kind = .switch_) :
    (p.start k line n).points = p.points + if (decision? k).isSome then 1 else 0 := by
  unfold start
  split
  · rename_i kind hd
    rw [points_add _ hk, hd]
    rfl
  · rename_i kind hd hc
    have hnew : (OpenChoice.statement ⟨kind, line, n, 0, []⟩).complexity = 0 := by
      cases kind <;> rfl
    simp [points, hd, hnew, Statement.complexityOfAll]
  · rename_i hd hc
    simp [hd]

theorem frames_start : (p.start k line n).frames =
    match choice? k with
    | some kind => (kind, n) :: p.frames
    | none => p.frames := by
  unfold start
  split
  · rename_i kind _ hd
    have hc : choice? k = none := by cases k <;> simp_all [decision?, choice?]
    rw [frames_add, hc]
  · rename_i kind hd hc
    rw [hc]
    rfl
  · rename_i hd hc
    rw [hc]

/-- What a token does: nothing, or it ends a choice, counts as a case, or is read as a word. -/
theorem take_cases (p : Progress) (t : Token) (n : Nat) :
    p.take t n = p ∨ p.take t n = p.close ∨ p.take t n = p.addCase ∨
      ∃ k, t.keyword? = some k ∧ p.take t n = p.start k t.line n := by
  unfold take
  split
  · split
    · rename_i k hk
      exact .inr (.inr (.inr ⟨k, hk, rfl⟩))
    · exact .inl rfl
  · split
    · exact .inr (.inl rfl)
    · split
      · split
        · exact .inr (.inr (.inl rfl))
        · exact .inl rfl
      · split
        · exact .inr (.inr (.inl rfl))
        · rename_i k _ hk
          exact .inr (.inr (.inr ⟨k, hk, rfl⟩))
        · exact .inl rfl

end Progress

/-! ## Bodies -/

section

variable {depth : Nat} {p : Progress} {left : List Token} {brackets : List Bracket}
  {statements : List Statement} {rest : Tape}

theorem choices_of_end (he : (p.choices.isEmpty && brackets.length == depth) = true) :
    p.choices = [] := by
  simp only [Bool.and_eq_true, List.isEmpty_iff] at he
  exact he.1

/-- **What every token keeps holds in the end**, where no choice is open. -/
theorem bodyFrom_invariant {P : Progress → Prop} (htake : ∀ p t n, P p → P (p.take t n)) (hp : P p)
    (h : bodyFrom depth p left brackets = .ok statements rest) :
    ∃ q, P q ∧ q.choices = [] ∧ statements = q.statements.reverse := by
  fun_induction bodyFrom depth p left brackets with
  | case1 p brackets he =>
    cases h
    exact ⟨p, hp, choices_of_end he, rfl⟩
  | case2 => cases h
  | case3 p t left brackets he =>
    cases h
    exact ⟨p, hp, choices_of_end he, rfl⟩
  | case4 => cases h
  | case5 p t brackets _ _ _ _ ih => exact ih hp h
  | case6 p t brackets _ _ _ _ u left _ ih => exact ih hp h
  | case7 p t brackets _ _ _ _ u left _ ih => exact ih hp h
  | case8 p t left brackets _ _ _ _ ih => exact ih (htake p t _ hp) h

end

end Cyclomatic.Reading
