import Cyclomatic.Text.Integer
import Mathlib.Data.List.DropRight
import Mathlib.Data.Nat.Digits.Defs
import Mathlib.Tactic.Ring

/-!
# Which texts are read as integers

`Strips` says what is left of a text without the blanks at its ends, and `Writes` which integer a text
writes: blanks, a sign or none, digits of any script with an underscore or none between neighbours,
and blanks. No more than 4300 digits are read. `strips_iff` and `integer?_eq_some_iff` say that this
is what the readers do.
-/

set_option autoImplicit false

namespace Cyclomatic.Text

/-! ## Blanks at the ends -/

/-- The second text is the first one without the blanks at its ends. -/
structure Strips (cs core : List Char) : Prop where
  blanks : ∃ before after, cs = before ++ (core ++ after) ∧ before.all isBlank = true ∧
    after.all isBlank = true
  head : core.head?.any isBlank = false
  last : core.getLast?.any isBlank = false

variable {cs core : List Char} {c : Char}

theorem dropWhile_append_of_all {blanks : List Char} (hb : blanks.all isBlank = true)
    (hc : core.head?.any isBlank = false) : (blanks ++ core).dropWhile isBlank = core := by
  rw [List.dropWhile_append_of_pos fun c h => List.all_eq_true.1 hb c h]
  cases core with
  | nil => rfl
  | cons c core => exact List.dropWhile_cons_of_neg (by simpa using hc)

theorem any_head?_dropWhile (cs : List Char) : (cs.dropWhile isBlank).head?.any isBlank = false := by
  have h := List.head?_dropWhile_not isBlank cs
  cases hc : (cs.dropWhile isBlank).head? with
  | none => rfl
  | some c =>
    rw [hc] at h
    exact h

theorem stripList_eq (cs : List Char) :
    stripList cs = (cs.dropWhile isBlank).rdropWhile isBlank := rfl

theorem Strips.eq_stripList (h : Strips cs core) : core = stripList cs := by
  obtain ⟨before, after, rfl, hbefore, hafter⟩ := h.blanks
  have hlast : core.reverse.head?.any isBlank = false := by
    rw [List.head?_reverse]
    exact h.last
  have hafter : after.reverse.all isBlank = true := by rwa [List.all_reverse]
  have hcore : (core ++ after).rdropWhile isBlank = core := by
    rw [List.rdropWhile, List.reverse_append, dropWhile_append_of_all hafter hlast,
      List.reverse_reverse]
  cases core with
  | nil =>
    have hall : (before ++ ([] ++ after)).dropWhile isBlank = [] := by
      refine List.dropWhile_eq_nil_iff.2 fun c hc => ?_
      rcases List.mem_append.1 hc with hc | hc
      · exact List.all_eq_true.1 hbefore c hc
      · exact List.all_eq_true.1 hafter c (List.mem_reverse.2 hc)
    rw [stripList_eq, hall]
    rfl
  | cons c core =>
    have hhead : (c :: core ++ after).head?.any isBlank = false := h.head
    rw [stripList_eq, dropWhile_append_of_all hbefore hhead, hcore]

theorem strips_stripList (cs : List Char) : Strips cs (stripList cs) where
  blanks := by
    refine ⟨cs.takeWhile isBlank, (cs.dropWhile isBlank).rtakeWhile isBlank, ?_, ?_, ?_⟩
    · rw [stripList_eq, List.rdropWhile_append_rtakeWhile, List.takeWhile_append_dropWhile]
    · exact List.all_eq_true.2 fun c hc => List.mem_takeWhile_imp hc
    · exact List.all_eq_true.2 fun c hc => List.mem_rtakeWhile_imp hc
  head := by
    have hfront := any_head?_dropWhile cs
    obtain ⟨after, ha⟩ := List.rdropWhile_prefix isBlank (cs.dropWhile isBlank)
    rw [stripList_eq]
    cases hcore : (cs.dropWhile isBlank).rdropWhile isBlank with
    | nil => rfl
    | cons c core =>
      rw [hcore] at ha
      rwa [← ha] at hfront
  last := by
    rw [stripList_eq, List.rdropWhile, List.getLast?_reverse]
    exact any_head?_dropWhile _

/-- **What stripping leaves.** -/
theorem strips_iff : Strips cs core ↔ stripList cs = core :=
  ⟨fun h => h.eq_stripList.symm, fun h => h ▸ strips_stripList cs⟩

@[simp] theorem stripList_stripList (cs : List Char) : stripList (stripList cs) = stripList cs := by
  have h := strips_stripList cs
  exact strips_iff.1 ⟨⟨[], [], by simp, rfl, rfl⟩, h.head, h.last⟩

/-! ## Digits -/

/-- The text consists of these digits, with an underscore or none between two of them. -/
inductive Digits : List Char → List Nat → Prop
  | last {c : Char} {d : Nat} (h : decimalValue? c = some d) : Digits [c] [d]
  | next {c : Char} {d : Nat} {cs : List Char} {digits : List Nat} (h : decimalValue? c = some d)
      (hrest : Digits cs digits) : Digits (c :: cs) (d :: digits)
  | joined {c : Char} {d : Nat} {cs : List Char} {digits : List Nat} (h : decimalValue? c = some d)
      (hrest : Digits cs digits) : Digits (c :: '_' :: cs) (d :: digits)

variable {digits : List Nat} {d n : Nat}

theorem ne_underscore (h : decimalValue? c = some d) : c ≠ '_' := by
  have hnone : decimalValue? '_' = none := by decide
  rintro rfl
  cases h.symm.trans hnone

theorem not_digits_nil : ¬ Digits [] digits := nofun

theorem not_digits_cons (h : decimalValue? c = none) : ¬ Digits (c :: cs) digits := by
  intro hd
  cases hd with
  | last h' | next h' _ | joined h' _ => cases h.symm.trans h'

theorem not_digits_underscore : ¬ Digits ('_' :: cs) digits := not_digits_cons (by decide)

theorem Digits.countP_eq (h : Digits cs digits) : cs.countP (· != '_') = digits.length := by
  induction h with
  | last h | next h _ _ | joined h _ _ =>
    have hc := ne_underscore h
    simp_all

/-- Behind a digit there is nothing, or the next one, or an underscore and the next one. -/
theorem digits_cons_iff (h : decimalValue? c = some d) :
    Digits (c :: cs) digits ↔
      cs = [] ∧ digits = [d] ∨
        ∃ rest, digits = d :: rest ∧ (Digits cs rest ∨ ∃ tail, cs = '_' :: tail ∧ Digits tail rest) := by
  constructor
  · intro hd
    cases hd with
    | last h' =>
      obtain rfl := Option.some.inj (h.symm.trans h')
      exact .inl ⟨rfl, rfl⟩
    | next h' hrest =>
      obtain rfl := Option.some.inj (h.symm.trans h')
      exact .inr ⟨_, rfl, .inl hrest⟩
    | joined h' hrest =>
      obtain rfl := Option.some.inj (h.symm.trans h')
      exact .inr ⟨_, rfl, .inr ⟨_, rfl, hrest⟩⟩
  · rintro (⟨rfl, rfl⟩ | ⟨rest, rfl, hrest | ⟨tail, rfl, hrest⟩⟩)
    · exact .last h
    · exact .next h hrest
    · exact .joined h hrest

/-- The number that digits write, behind those that write `value`. -/
def valueBehind (value : Nat) (digits : List Nat) : Nat :=
  value * 10 ^ digits.length + Nat.ofDigits 10 digits.reverse

theorem valueBehind_cons (value d : Nat) (digits : List Nat) :
    valueBehind value (d :: digits) = valueBehind (10 * value + d) digits := by
  simp only [valueBehind, List.length_cons, List.reverse_cons, Nat.ofDigits_append,
    Nat.ofDigits_singleton, List.length_reverse]
  ring

/-- What is read behind a digit are the digits from this one on. -/
theorem digitsFrom?_eq_some_iff {value v : Nat} (h : decimalValue? c = some d)
    (hv : value = 10 * v + d) :
    digitsFrom? value cs = some n ↔ ∃ digits, Digits (c :: cs) digits ∧ n = valueBehind v digits := by
  have hcons (digits : List Nat) : valueBehind v (d :: digits) = valueBehind value digits := by
    rw [valueBehind_cons, ← hv]
  simp only [digits_cons_iff h]
  fun_induction digitsFrom? value cs generalizing c d v with
  | case1 value =>
    have hone : valueBehind v [d] = value := by rw [hcons]; simp [valueBehind]
    constructor
    · rintro ⟨⟩
      exact ⟨[d], .inl ⟨rfl, rfl⟩, hone.symm⟩
    · rintro ⟨digits, ⟨-, rfl⟩ | ⟨rest, -, hrest | ⟨tail, htail, -⟩⟩, rfl⟩
      · exact congrArg some hone.symm
      · exact absurd hrest not_digits_nil
      · cases htail
  | case2 value c' rest d' h' ih =>
    refine (ih h' rfl (valueBehind_cons value d')).trans ?_
    simp only [← digits_cons_iff h']
    constructor
    · rintro ⟨digits, hd, rfl⟩
      exact ⟨d :: digits, .inr ⟨digits, rfl, .inr ⟨_, rfl, hd⟩⟩, (hcons digits).symm⟩
    · rintro ⟨digits, ⟨hnil, -⟩ | ⟨others, rfl, hrest | ⟨tail, htail, hrest⟩⟩, rfl⟩
      · cases hnil
      · exact absurd hrest not_digits_underscore
      · cases htail
        exact ⟨others, hrest, hcons others⟩
  | case3 value c' rest h' =>
    refine iff_of_false nofun ?_
    rintro ⟨digits, ⟨hnil, -⟩ | ⟨others, -, hrest | ⟨tail, htail, hrest⟩⟩, -⟩
    · cases hnil
    · exact not_digits_underscore hrest
    · cases htail
      exact not_digits_cons h' hrest
  | case4 value c' rest hunder d' h' ih =>
    refine (ih h' rfl (valueBehind_cons value d')).trans ?_
    simp only [← digits_cons_iff h']
    constructor
    · rintro ⟨digits, hd, rfl⟩
      exact ⟨d :: digits, .inr ⟨digits, rfl, .inl hd⟩, (hcons digits).symm⟩
    · rintro ⟨digits, ⟨hnil, -⟩ | ⟨others, rfl, hrest | ⟨tail, htail, hrest⟩⟩, rfl⟩
      · cases hnil
      · exact ⟨others, hrest, hcons others⟩
      · cases htail
        exact absurd rfl (ne_underscore h')
  | case5 value c' rest hunder h' =>
    refine iff_of_false nofun ?_
    rintro ⟨digits, ⟨hnil, -⟩ | ⟨others, -, hrest | ⟨tail, htail, hrest⟩⟩, -⟩
    · cases hnil
    · exact not_digits_cons h' hrest
    · cases htail
      cases rest with
      | nil => exact not_digits_nil hrest
      | cons c'' rest => exact hunder c'' rest rfl rfl

theorem natural?_of_none (h : decimalValue? c = none) (cs : List Char) :
    natural? (c :: cs) = none := by
  rw [natural?, h]
  split <;> rfl

/-- A number is read from digits, of which there are 4300 at most. -/
theorem natural?_eq_some_iff :
    natural? cs = some n ↔
      ∃ digits, Digits cs digits ∧ digits.length ≤ 4300 ∧ n = Nat.ofDigits 10 digits.reverse := by
  cases cs with
  | nil => exact iff_of_false nofun fun ⟨_, hd, _⟩ => not_digits_nil hd
  | cons c cs =>
    cases hc : decimalValue? c with
    | none =>
      rw [natural?_of_none hc]
      exact iff_of_false nofun fun ⟨_, hd, _⟩ => not_digits_cons hc hd
    | some d =>
      have hvalue : d = 10 * 0 + d := by omega
      have hread : digitsFrom? d cs = some n ↔ _ := digitsFrom?_eq_some_iff hc hvalue
      simp only [valueBehind, Nat.zero_mul, Nat.zero_add] at hread
      simp only [natural?, hc]
      split
      case isTrue hmany =>
        refine iff_of_false nofun fun ⟨digits, hd, hlength, _⟩ => ?_
        rw [hd.countP_eq, digitLimit] at hmany
        omega
      case isFalse hfew =>
        refine hread.trans (exists_congr fun digits => and_congr_right fun hd => ?_)
        rw [hd.countP_eq, digitLimit] at hfew
        exact (and_iff_right (by omega)).symm

/-! ## Integers -/

/-- The text writes the integer. -/
inductive Writes (s : String) : Int → Prop
  | plain {cs : List Char} {digits : List Nat} (h : Strips s.toList cs) (hd : Digits cs digits)
      (hlength : digits.length ≤ 4300) : Writes s (Nat.ofDigits 10 digits.reverse : Nat)
  | plus {cs : List Char} {digits : List Nat} (h : Strips s.toList ('+' :: cs))
      (hd : Digits cs digits) (hlength : digits.length ≤ 4300) :
      Writes s (Nat.ofDigits 10 digits.reverse : Nat)
  | minus {cs : List Char} {digits : List Nat} (h : Strips s.toList ('-' :: cs))
      (hd : Digits cs digits) (hlength : digits.length ≤ 4300) :
      Writes s (-(Nat.ofDigits 10 digits.reverse : Nat))

theorem writes_iff {s : String} {n : Int} :
    Writes s n ↔
      (∃ k : Nat, natural? (stripList s.toList) = some k ∧ n = k) ∨
      (∃ cs, ∃ k : Nat, stripList s.toList = '+' :: cs ∧ natural? cs = some k ∧ n = k) ∨
      ∃ cs, ∃ k : Nat, stripList s.toList = '-' :: cs ∧ natural? cs = some k ∧ n = -k := by
  simp only [natural?_eq_some_iff]
  constructor
  · rintro (⟨h, hd, hlength⟩ | ⟨h, hd, hlength⟩ | ⟨h, hd, hlength⟩)
    · exact .inl ⟨_, ⟨_, strips_iff.1 h ▸ hd, hlength, rfl⟩, rfl⟩
    · exact .inr (.inl ⟨_, _, strips_iff.1 h, ⟨_, hd, hlength, rfl⟩, rfl⟩)
    · exact .inr (.inr ⟨_, _, strips_iff.1 h, ⟨_, hd, hlength, rfl⟩, rfl⟩)
  · rintro (⟨k, ⟨digits, hd, hlength, rfl⟩, rfl⟩ | ⟨cs, k, hcs, ⟨digits, hd, hlength, rfl⟩, rfl⟩ |
      ⟨cs, k, hcs, ⟨digits, hd, hlength, rfl⟩, rfl⟩)
    · exact .plain (strips_stripList _) hd hlength
    · exact .plus (strips_iff.2 hcs) hd hlength
    · exact .minus (strips_iff.2 hcs) hd hlength

/-- **An integer is read where one is written.** -/
theorem integer?_eq_some_iff {s : String} {n : Int} : integer? s = some n ↔ Writes s n := by
  have hplus : decimalValue? '+' = none := by decide
  have hminus : decimalValue? '-' = none := by decide
  rw [writes_iff, integer?]
  split
  case h_1 digits h =>
    rw [Option.map_eq_some_iff]
    simp [h, natural?_of_none hminus, eq_comm (a := n)]
  case h_2 digits h =>
    rw [Option.map_eq_some_iff]
    simp [h, natural?_of_none hplus, eq_comm (a := n)]
  case h_3 digits hminus' hplus' =>
    have hminus'' (cs : List Char) : stripList s.toList ≠ '-' :: cs := hminus' cs
    have hplus'' (cs : List Char) : stripList s.toList ≠ '+' :: cs := hplus' cs
    rw [Option.map_eq_some_iff]
    simp [hplus'', hminus'', eq_comm (a := n)]

theorem integer?_strip (s : String) : integer? (strip s) = integer? s := by
  rw [integer?, integer?, strip, String.toList_ofList, stripList_stripList]

/-- Underscores and zeros, in the digits of two scripts. -/
example : integer? " -0_1٢ " = some (-12) := by decide +kernel

end Cyclomatic.Text
