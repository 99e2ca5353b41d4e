import Cyclomatic.Proofs.Metric
import Cyclomatic.Proofs.Reading.Counts
import Mathlib.Algebra.Order.BigOperators.Group.List
import Mathlib.Data.Int.Cast.Lemmas

/-!
# Metrics of classes

The highest complexity of any class is the largest one of its methods, and its average complexity is
the rounded quotient of a sum over all but its constructors. If the class is read, its methods are in
the order of their complexities, and these are positive; so the average lies between one and the highest
complexity (`metrics_of_ofTokens`).
-/

set_option autoImplicit false

namespace Cyclomatic

theorem Statement.complexityOfAll_eq_sum (statements : List Statement) :
    complexityOfAll statements = (statements.map complexity).sum := by
  induction statements with
  | nil => rfl
  | cons s rest ih => rw [complexityOfAll, List.map_cons, List.sum_cons, ih]

theorem Method.complexityOfAll_eq_sum (methods : List Method) :
    complexityOfAll methods = (methods.map complexity).sum := by
  induction methods with
  | nil => rfl
  | cons m rest ih => rw [complexityOfAll, List.map_cons, List.sum_cons, ih]

namespace Class

variable {c : Class} {m : Method}

theorem highestComplexity_of_nil (h : c.methods = []) : c.highestComplexity = 0 := by
  rw [highestComplexity, h]
  rfl

theorem max?_complexity (hm : m ∈ c.methods) :
    (c.methods.map Method.complexity).max? = some c.highestComplexity := by
  obtain ⟨highest, hh⟩ : ∃ highest, (c.methods.map Method.complexity).max? = some highest :=
    Option.isSome_iff_exists.1 (List.isSome_max?_of_mem (List.mem_map_of_mem hm))
  rw [highestComplexity, hh]
  rfl

theorem complexity_le_highest (hm : m ∈ c.methods) : m.complexity ≤ c.highestComplexity :=
  (List.max?_eq_some_iff.1 (max?_complexity hm)).2 _ (List.mem_map_of_mem hm)

theorem exists_highest (h : c.methods ≠ []) :
    ∃ m ∈ c.methods, m.complexity = c.highestComplexity := by
  obtain ⟨first, hfirst⟩ := List.exists_mem_of_ne_nil _ h
  exact List.mem_map.1 (List.max?_eq_some_iff.1 (max?_complexity hfirst)).1

/-- The quotient that the average complexity is. -/
def meanComplexity (c : Class) : ℚ :=
  ((c.measured.map Method.complexity).sum : Int) / c.measured.length

theorem averageComplexity_roundsTo (h : c.measured ≠ []) :
    RoundsTo c.meanComplexity c.averageComplexity := by
  have hpos : 0 < c.measured.length := List.length_pos_iff.2 h
  rw [averageComplexity, Nat.max_eq_left hpos, Method.complexityOfAll_eq_sum]
  exact metric_roundsTo _ hpos

theorem averageComplexity_of_nil (h : c.measured = []) : c.averageComplexity = .ok 0 := by
  rw [averageComplexity, h]
  exact metric_zero Nat.one_pos

theorem mem_methods_of_mem_measured (h : m ∈ c.measured) : m ∈ c.methods :=
  (List.mem_filter.1 h).1

theorem one_le_meanComplexity (h : ∀ m ∈ c.methods, 1 ≤ m.complexity) (hne : c.measured ≠ []) :
    1 ≤ c.meanComplexity := by
  have hpos : (0 : ℚ) < c.measured.length := by exact_mod_cast List.length_pos_iff.2 hne
  have hsum := List.card_nsmul_le_sum (c.measured.map Method.complexity) 1 (by
    intro n hn
    obtain ⟨m, hm, rfl⟩ := List.mem_map.1 hn
    exact h m (mem_methods_of_mem_measured hm))
  rw [List.length_map, nsmul_eq_mul, mul_one] at hsum
  rw [meanComplexity, le_div_iff₀ hpos, one_mul]
  exact_mod_cast hsum

theorem meanComplexity_le_highest (hne : c.measured ≠ []) :
    c.meanComplexity ≤ c.highestComplexity := by
  have hpos : (0 : ℚ) < c.measured.length := by exact_mod_cast List.length_pos_iff.2 hne
  have hsum := List.sum_le_card_nsmul (c.measured.map Method.complexity) c.highestComplexity (by
    intro n hn
    obtain ⟨m, hm, rfl⟩ := List.mem_map.1 hn
    exact complexity_le_highest (mem_methods_of_mem_measured hm))
  rw [List.length_map, nsmul_eq_mul, mul_comm] at hsum
  rw [meanComplexity, div_le_iff₀ hpos]
  exact_mod_cast hsum

/-! ## Classes that are read -/

theorem one_le_complexity {tokens : List Token} (h : ofTokens tokens = .ok (some c)) :
    ∀ m ∈ c.methods, 1 ≤ m.complexity := by
  intro m hm
  have hcounted := (readIn_of_ofTokens h m hm).counted
  have hall := Statement.complexityOfAll_nonneg fun s hs => (hcounted s hs).complexity_nonneg
  rw [Method.complexity]
  omega

theorem descending_of_ofTokens {tokens : List Token} (h : ofTokens tokens = .ok (some c)) :
    c.methods.Pairwise fun a b => b.complexity ≤ a.complexity := by
  unfold ofTokens at h
  split at h
  · rename_i rest hfile
    cases h
    obtain ⟨isAbstract, tape, d, -, rfl⟩ := Reading.fileFrom_eq_class hfile
    rw [Reading.complete_eq]
    exact descending_mergeSort Method.complexity d.methods
  · cases h

theorem highestComplexity_of_descending
    (h : c.methods.Pairwise fun a b => b.complexity ≤ a.complexity) :
    c.highestComplexity = (c.methods.head?.map Method.complexity).getD 0 := by
  cases hc : c.methods with
  | nil => exact highestComplexity_of_nil hc
  | cons first rest =>
    rw [hc] at h
    obtain ⟨m, hm, hhighest⟩ := exists_highest (hc ▸ List.cons_ne_nil first rest)
    have hle := complexity_le_highest (hc ▸ List.mem_cons_self : first ∈ c.methods)
    rw [hc] at hm
    rcases List.mem_cons.1 hm with rfl | hm
    · exact hhighest.symm
    · have hfirst := (List.pairwise_cons.1 h).1 m hm
      exact le_antisymm (hhighest ▸ hfirst) hle

theorem highestComplexity_le {tokens : List Token} (h : ofTokens tokens = .ok (some c)) :
    c.highestComplexity ≤ tokens.length + 1 := by
  by_cases hne : c.methods = []
  · rw [highestComplexity_of_nil hne]
    omega
  · obtain ⟨m, hm, hhighest⟩ := exists_highest hne
    have hle := (readIn_of_ofTokens h m hm).complexityOfAll_le
    rw [← hhighest, Method.complexity]
    omega

/-- A class has an average complexity unless there are too many tokens for a double. -/
theorem exists_averageComplexity {tokens : List Token} {n : Nat}
    (h : ofTokens tokens = .ok (some c)) (hn : n < 1024) (hl : tokens.length < 2 ^ n) :
    ∃ average, c.averageComplexity = .ok average := by
  by_cases hne : c.measured = []
  · exact ⟨0, averageComplexity_of_nil hne⟩
  · have hone := one_le_meanComplexity (one_le_complexity h) hne
    have hhighest := highestComplexity_le h
    have hpow : (tokens.length : Int) + 1 ≤ (2 ^ n : Nat) := by exact_mod_cast hl
    refine (averageComplexity_roundsTo hne).exists_of_le hn ?_
    rw [abs_of_nonneg (zero_le_one.trans hone)]
    exact (meanComplexity_le_highest hne).trans (by exact_mod_cast hhighest.trans hpow)

/-- What the metrics of a class that is read are. -/
structure Metrics (c : Class) : Prop where
  one_le : ∀ m ∈ c.methods, 1 ≤ m.complexity
  nonneg : ∀ m ∈ c.methods, ∀ s ∈ Statement.withNestedOfAll m.statements, 0 ≤ s.complexity
  descending : c.methods.Pairwise fun a b => b.complexity ≤ a.complexity
  highest : c.highestComplexity = (c.methods.head?.map Method.complexity).getD 0
  average : c.measured ≠ [] → RoundsTo c.meanComplexity c.averageComplexity ∧
    1 ≤ c.meanComplexity ∧ c.meanComplexity ≤ c.highestComplexity
  averageOfNone : c.measured = [] → c.averageComplexity = .ok 0

/-- **The metrics of a class that is read are consistent**, and its average complexity has a value if
there are not too many tokens for a double. -/
theorem metrics_of_ofTokens {tokens : List Token} (h : ofTokens tokens = .ok (some c)) :
    c.Metrics ∧ (tokens.length < 2 ^ 1023 → ∃ average, c.averageComplexity = .ok average) := by
  have hone := one_le_complexity h
  have hdescending := descending_of_ofTokens h
  refine ⟨⟨hone, fun m hm => ?_, hdescending, ?_, fun hne => ⟨?_, ?_, ?_⟩, ?_⟩, ?_⟩
  · exact Statement.complexity_nonneg_of_counted (readIn_of_ofTokens h m hm).counted
  · exact highestComplexity_of_descending hdescending
  · exact averageComplexity_roundsTo hne
  · exact one_le_meanComplexity hone hne
  · exact meanComplexity_le_highest hne
  · exact averageComplexity_of_nil
  · exact exists_averageComplexity h (by omega)

/-- A match and an `if` are nested in a switch. -/
def nestedInSwitch : String :=
  "class A \x7b function f() \x7b " ++
    "switch (1) \x7b case 2: match (3) \x7b 4 => 5, 6 => 7 \x7d; if (8) e(); \x7d \x7d \x7d"

theorem metrics_of_ofTokens_of_nestedInSwitch :
    ∃ tokens c, Token.ofText nestedInSwitch = .ok tokens ∧ ofTokens tokens = .ok (some c) ∧
      c.methods.map Method.complexity = [5] ∧
      c.methods.map (fun m => (Statement.withNestedOfAll m.statements).map Statement.complexity) =
        [[4, 2, 1]] ∧
      c.Metrics ∧ (tokens.length < 2 ^ 1023 → ∃ average, c.averageComplexity = .ok average) := by
  have h : (Reading.classOf? nestedInSwitch).map (fun read =>
        (read.2.methods.map Method.complexity, read.2.methods.map fun m =>
          (Statement.withNestedOfAll m.statements).map Statement.complexity)) =
      some ([5], [[4, 2, 1]]) := by
    decide +kernel
  obtain ⟨⟨tokens, c⟩, hr, h⟩ := Option.map_eq_some_iff.1 h
  obtain ⟨ht, hc⟩ := Reading.eq_of_classOf? hr
  obtain ⟨hmethods, hnested⟩ := Prod.mk.inj h
  exact ⟨tokens, c, ht, hc, hmethods, hnested, metrics_of_ofTokens hc⟩

end Class

end Cyclomatic
