import Cyclomatic.Proofs.Reading.Origins
import Cyclomatic.Proofs.Reading.Tally

/-!
# What the complexities of read methods can be

The number of cases of a choice that is read is a count (`Statement.Counted`). This holds of all that
has been read of a body when a token is taken (`counted_take`), so no statement of a body has a negative
complexity, nested ones included. And a body has at most as many decision points as tokens, since the
tally counts at most one for a token (`ReadIn.complexityOfAll_le`).
-/

set_option autoImplicit false

namespace Cyclomatic

namespace Statement

/-- No number of cases is negative, in the statement and in what is nested in it. -/
inductive Counted : Statement → Prop
  | decision (kind : Decision) (line : Int) : Counted (.decision kind line)
  | choice {kind : Choice} {line : Int} {cases : Nat} {nested : List Statement}
      (h : ∀ s ∈ nested, Counted s) : Counted (.choice kind line cases nested)

theorem complexityOfAll_nonneg {statements : List Statement}
    (h : ∀ s ∈ statements, 0 ≤ s.complexity) : 0 ≤ complexityOfAll statements := by
  induction statements with
  | nil => exact Int.le_refl 0
  | cons s rest ih =>
    obtain ⟨hs, hrest⟩ := List.forall_mem_cons.1 h
    exact Int.add_nonneg hs (ih hrest)

theorem Counted.complexity_nonneg {s : Statement} (h : s.Counted) : 0 ≤ s.complexity := by
  induction h with
  | decision kind line => exact Int.one_nonneg
  | @choice kind line cases nested h ih =>
    cases kind with
    | match_ => exact Int.natCast_nonneg cases
    | switch_ => exact Int.add_nonneg (Int.natCast_nonneg cases) (complexityOfAll_nonneg ih)

theorem Counted.of_mem_withNested {s u : Statement} (h : s.Counted) (hu : u ∈ s.withNested) :
    u.Counted := by
  induction h with
  | decision kind line =>
    obtain rfl := List.mem_singleton.1 hu
    exact .decision kind line
  | choice h ih =>
    rw [withNested] at hu
    rcases List.mem_cons.1 hu with rfl | hu
    · exact .choice h
    · obtain ⟨v, hv, hu⟩ := mem_withNestedOfAll.1 hu
      exact ih v hv hu

theorem complexity_nonneg_of_counted {statements : List Statement}
    (h : ∀ s ∈ statements, s.Counted) : ∀ u ∈ withNestedOfAll statements, 0 ≤ u.complexity := by
  intro u hu
  obtain ⟨s, hs, hu⟩ := mem_withNestedOfAll.1 hu
  exact ((h s hs).of_mem_withNested hu).complexity_nonneg

end Statement

namespace Reading

open Statement

/-! ## Bodies -/

namespace Progress

/-- What has been read is counted, as if all open choices were closed now. -/
def Counted (p : Progress) : Prop :=
  ∀ s ∈ p.choices.map OpenChoice.statement ++ p.statements, s.Counted

variable {p : Progress} {s : Statement}

theorem counted_cons {c : OpenChoice} {outer : List OpenChoice} {statements : List Statement} :
    Counted ⟨c :: outer, statements⟩ ↔
      (∀ s ∈ c.nested, s.Counted) ∧ Counted ⟨outer, statements⟩ := by
  have hc : c.statement.Counted ↔ ∀ s ∈ c.nested, s.Counted := by
    constructor
    · intro h
      cases h with
      | choice h => exact fun s hs => h s (List.mem_reverse.2 hs)
    · exact fun h => .choice fun s hs => h s (List.mem_reverse.1 hs)
  rw [← hc, Counted, List.map_cons, List.cons_append, List.forall_mem_cons]
  rfl

theorem counted_add (hp : p.Counted) (hs : s.Counted) : (p.add s).Counted := by
  obtain ⟨choices, statements⟩ := p
  cases choices with
  | nil => exact List.forall_mem_cons.2 ⟨hs, hp⟩
  | cons c outer =>
    obtain ⟨hc, houter⟩ := counted_cons.1 hp
    exact counted_cons.2 ⟨List.forall_mem_cons.2 ⟨hs, hc⟩, houter⟩

theorem counted_addCase (hp : p.Counted) : p.addCase.Counted := by
  obtain ⟨choices, statements⟩ := p
  cases choices with
  | nil => exact hp
  | cons c outer =>
    obtain ⟨hc, houter⟩ := counted_cons.1 hp
    exact counted_cons.2 ⟨hc, houter⟩

theorem counted_close (hp : p.Counted) : p.close.Counted := by
  obtain ⟨choices, statements⟩ := p
  cases choices with
  | nil => exact hp
  | cons c outer =>
    exact counted_add (counted_cons.1 hp).2 (hp _ List.mem_cons_self)

theorem counted_start (hp : p.Counted) (k : Keyword) (line : Int) (n : Nat) :
    (p.start k line n).Counted := by
  unfold start
  split
  · exact counted_add hp (.decision _ line)
  · exact counted_cons.2 ⟨by simp, hp⟩
  · exact hp

/-- **Whatever token is taken, what has been read is counted.** -/
theorem counted_take (hp : p.Counted) (t : Token) (n : Nat) : (p.take t n).Counted := by
  rcases take_cases p t n with h | h | h | ⟨k, -, h⟩ <;> rw [h]
  · exact hp
  · exact counted_close hp
  · exact counted_addCase hp
  · exact counted_start hp k t.line n

end Progress

variable {left : List Token} {statements : List Statement}

/-- **All that is read is counted.** -/
theorem ReadIn.counted (h : ReadIn left statements) : ∀ s ∈ statements, s.Counted := by
  cases h with
  | none => simp
  | body hi hb =>
    have hstart : Progress.Counted {} := by simp [Progress.Counted]
    obtain ⟨q, hq, -, rfl⟩ :=
      bodyFrom_invariant (fun p t n (h : p.Counted) => Progress.counted_take h t n) hstart hb
    exact fun s hs => hq s (List.mem_append_right _ (List.mem_reverse.1 hs))

/-! ## Bounds -/

theorem Tally.points_le (s : Tally) (t : Token) : s.points t ≤ 1 := by
  unfold points
  split_ifs <;> decide

theorem Tally.total_foldl_le (body : List Token) (s : Tally) :
    (body.foldl step s).total ≤ s.total + body.length := by
  induction body generalizing s with
  | nil => simp
  | cons t body ih =>
    have hone := s.points_le t
    have hrest := ih (s.step t)
    have hstep : (s.step t).total = s.total + s.points t := rfl
    rw [List.foldl_cons, List.length_cons]
    omega

/-- A body has at most as many decision points as there are tokens to read. -/
theorem ReadIn.complexityOfAll_le (h : ReadIn left statements) :
    complexityOfAll statements ≤ left.length := by
  cases h with
  | none => exact Int.natCast_nonneg _
  | @body depth inner brackets statements rest hi hb =>
    have hf : Follows depth {} inner brackets { depth := brackets.length - depth } :=
      ⟨⟨rfl, rfl, by simp [Progress.frames]⟩, rfl, by simp⟩
    obtain ⟨body, rfl, -, htotal⟩ := bodyFrom_tally hf hb
    have hle := Tally.total_foldl_le body { depth := brackets.length - depth }
    have hlen := hi.length_le
    rw [htotal] at hle
    rw [List.length_append] at hlen
    have hzero : ({ depth := brackets.length - depth } : Tally).total = 0 := rfl
    omega

end Reading

end Cyclomatic
