import Cyclomatic.Metric
import Mathlib.Algebra.Order.Ring.Abs
import Mathlib.Data.Rat.Cast.Order
import Mathlib.Tactic.FieldSimp
import Mathlib.Tactic.Linarith
import Mathlib.Tactic.Positivity
import Mathlib.Tactic.Ring

/-!
# Metrics are correctly rounded

A metric is the double nearest to a quotient, of two equally near ones the one with an even last
digit, or an error if there is no finite one (`metric_roundsTo`).

What is rounded is a quotient in units of the spacing around it. The multiples of that spacing are
not all doubles and not the only ones: above `2 ^ 53` times the spacing they are too long, and below
`2 ^ 52` times the spacing there are doubles in between. Neither matters, since the quotient lies
between the two (`lt_spacing`, `spacing_le`).
-/

set_option autoImplicit false

namespace Cyclomatic

namespace Double

/-- Magnitudes of at most 53 binary digits, which those of finite doubles are. -/
def IsShort (units : Nat) : Prop :=
  ∃ digits exponent, digits < 2 ^ 53 ∧ units = digits * 2 ^ exponent

/-- No double is nearer to a magnitude of `x` units, and if another one is just as near, the last
digit is even: the magnitude is an even multiple of the distance of the two. -/
structure IsNearest (x : ℚ) (units : Nat) : Prop where
  short : IsShort units
  le : ∀ v, IsShort v → |(units : ℚ) - x| ≤ |(v : ℚ) - x|
  even : ∀ v, IsShort v → v ≠ units → |(units : ℚ) - x| = |(v : ℚ) - x| →
    2 * |(units : ℤ) - v| ∣ units

/-! ## Rounding to whole numbers -/

/-- A whole number within a half of `y`, and an even one if it is at a half. -/
def IsRounded (y : ℚ) (r : Nat) : Prop := |(r : ℚ) - y| ≤ 1 / 2 ∧ (|(r : ℚ) - y| = 1 / 2 → Even r)

theorem div_eq_floor_add {num den : Nat} (hd : 0 < den) :
    (num : ℚ) / den = (num / den : Nat) + ((num % den : Nat) : ℚ) / den := by
  have hne : (den : ℚ) ≠ 0 := by exact_mod_cast hd.ne'
  have hnum : (num : ℚ) = den * (num / den : Nat) + (num % den : Nat) := by
    exact_mod_cast (Nat.div_add_mod num den).symm
  rw [hnum]
  field_simp

theorem isRounded_floor {floor : Nat} {part : ℚ} (h0 : 0 ≤ part) (h : part ≤ 1 / 2)
    (he : part = 1 / 2 → Even floor) : IsRounded (floor + part) floor := by
  unfold IsRounded
  rw [sub_add_cancel_left, abs_neg, abs_of_nonneg h0]
  exact ⟨h, he⟩

theorem isRounded_succ {floor : Nat} {part : ℚ} (h1 : part < 1) (h : 1 / 2 ≤ part)
    (he : part = 1 / 2 → Even (floor + 1)) : IsRounded (floor + part) (floor + 1) := by
  unfold IsRounded
  rw [Nat.cast_succ, add_sub_add_left_eq_sub, abs_of_nonneg (by linarith)]
  exact ⟨by linarith, fun heq => he (by linarith)⟩

theorem isRounded_roundQuotient {num den : Nat} (hd : 0 < den) :
    IsRounded ((num : ℚ) / den) (roundQuotient num den) := by
  have hpos : (0 : ℚ) < den := by exact_mod_cast hd
  have hlt : num % den < den := Nat.mod_lt num hd
  rw [div_eq_floor_add hd]
  unfold roundQuotient
  generalize num / den = floor
  generalize num % den = rest at hlt
  have h0 : (0 : ℚ) ≤ rest / den := by positivity
  have h1 : (rest : ℚ) / den < 1 := (div_lt_one hpos).2 (by exact_mod_cast hlt)
  have hbelow : (rest : ℚ) / den < 1 / 2 ↔ 2 * rest < den := by
    rw [div_lt_div_iff₀ hpos two_pos, one_mul, mul_comm]
    exact_mod_cast Iff.rfl
  have habove : 1 / 2 < (rest : ℚ) / den ↔ den < 2 * rest := by
    rw [div_lt_div_iff₀ two_pos hpos, one_mul, mul_comm (rest : ℚ)]
    exact_mod_cast Iff.rfl
  dsimp only
  by_cases hb : 2 * rest < den
  · rw [if_pos hb]
    have hpart := hbelow.2 hb
    exact isRounded_floor h0 hpart.le fun heq => absurd heq hpart.ne
  · rw [if_neg hb]
    have hpart := not_lt.1 (mt hbelow.1 hb)
    by_cases ha : den < 2 * rest
    · rw [if_pos ha]
      exact isRounded_succ h1 hpart fun heq => absurd heq (habove.2 ha).ne'
    · rw [if_neg ha]
      by_cases he : floor % 2 = 0
      · rw [if_pos he]
        exact isRounded_floor h0 (not_lt.1 (mt habove.1 ha)) fun _ => Nat.even_iff.2 he
      · rw [if_neg he]
        refine isRounded_succ h1 hpart fun _ => Nat.even_add_one.2 ?_
        rwa [Nat.even_iff]

/-- No whole number is nearer, and if another one is just as near, they are neighbours. -/
theorem IsRounded.le_of_ne {y : ℚ} {r z : Nat} (h : IsRounded y r) (hne : z ≠ r) :
    |(r : ℚ) - y| ≤ |(z : ℚ) - y| ∧
      (|(r : ℚ) - y| = |(z : ℚ) - y| → Even r ∧ |(r : ℤ) - z| = 1) := by
  obtain ⟨hhalf, heven⟩ := h
  have hone : 1 ≤ |(r : ℤ) - z| := Int.one_le_abs (sub_ne_zero.2 (by exact_mod_cast hne.symm))
  have hone' : (1 : ℚ) ≤ |(r : ℚ) - z| := by exact_mod_cast hone
  have htriangle : |(r : ℚ) - z| ≤ |(r : ℚ) - y| + |(z : ℚ) - y| := by
    rw [abs_sub_comm (z : ℚ) y]
    exact abs_sub_le _ _ _
  refine ⟨by linarith, fun heq => ⟨heven (by linarith), le_antisymm ?_ hone⟩⟩
  have hle : |(r : ℚ) - z| ≤ 1 := by linarith
  exact_mod_cast hle

/-! ## Rounding to doubles -/

theorem spacing_pos (units : Nat) : 0 < spacing units := Nat.pow_pos (by omega)

theorem lt_spacing (units : Nat) : units < 2 ^ 53 * spacing units := by
  have hlt : units < 2 ^ (units.log2 + 1) := Nat.lt_log2_self
  have hle : 2 ^ (units.log2 + 1) ≤ 2 ^ (53 + (units.log2 - 52)) :=
    Nat.pow_le_pow_right (by omega) (by omega)
  rw [spacing, Nat.pow_eq, ← Nat.pow_add]
  omega

theorem spacing_le {units : Nat} (h : spacing units ≠ 1) : 2 ^ 52 * spacing units ≤ units := by
  have hlog : 52 < units.log2 := by
    by_contra hle
    apply h
    rw [spacing, Nat.sub_eq_zero_of_le (Nat.le_of_not_lt hle)]
  have hne : units ≠ 0 := by
    rintro rfl
    simp at hlog
  rw [spacing, Nat.pow_eq, ← Nat.pow_add, Nat.add_sub_cancel' hlog.le]
  exact Nat.log2_self_le hne

/-- Short magnitudes are multiples of the spacing, or they are below some that are not above what is
rounded. -/
theorem IsShort.eq_mul_or_lt {v : Nat} (h : IsShort v) (units : Nat) :
    (∃ z, v = z * spacing units) ∨
      v < 2 ^ 52 * spacing units ∧ 2 ^ 52 * spacing units ≤ units := by
  obtain ⟨digits, exponent, hd, rfl⟩ := h
  by_cases he : units.log2 - 52 ≤ exponent
  · obtain ⟨more, rfl⟩ := Nat.exists_eq_add_of_le he
    exact .inl ⟨digits * 2 ^ more, by rw [spacing, Nat.pow_eq]; ring⟩
  · have hne : spacing units ≠ 1 := by
      rw [spacing, Nat.pow_eq]
      exact (Nat.one_lt_pow (by omega) (by omega)).ne'
    refine .inr ⟨?_, spacing_le hne⟩
    calc digits * 2 ^ exponent
        < 2 ^ 53 * 2 ^ exponent := Nat.mul_lt_mul_of_pos_right hd (by positivity)
      _ = 2 ^ 52 * 2 ^ (exponent + 1) := by ring
      _ ≤ 2 ^ 52 * spacing units :=
        Nat.mul_le_mul_left _ (Nat.pow_le_pow_right (by omega) (by omega))

theorem isShort_mul_spacing {units r : Nat} (h : r ≤ 2 ^ 53) : IsShort (r * spacing units) := by
  rcases h.lt_or_eq with hlt | rfl
  · exact ⟨r, _, hlt, rfl⟩
  · exact ⟨1, 53 + (units.log2 - 52), by norm_num, by rw [Nat.pow_add, one_mul]; rfl⟩

theorem IsRounded.le_of_lt {y : ℚ} {r n : Nat} (h : IsRounded y r) (hy : y < n) : r ≤ n := by
  by_contra hlt
  have hr : (n : ℚ) + 1 ≤ r := by exact_mod_cast Nat.lt_of_not_le hlt
  have habs := (le_abs_self _).trans h.1
  linarith

/-- The distance to a multiple of the spacing, measured in the spacing. -/
theorem abs_mul_sub {y : ℚ} (z step : Nat) :
    |((z * step : Nat) : ℚ) - y * step| = |(z : ℚ) - y| * step := by
  rw [Nat.cast_mul, ← sub_mul, abs_mul, Nat.abs_cast]

theorem IsRounded.abs_mul_sub_le {y : ℚ} {r : Nat} (h : IsRounded y r) (z step : Nat) :
    |((r * step : Nat) : ℚ) - y * step| ≤ |((z * step : Nat) : ℚ) - y * step| := by
  rw [abs_mul_sub, abs_mul_sub]
  rcases eq_or_ne z r with rfl | hne
  · exact le_rfl
  · exact mul_le_mul_of_nonneg_right (h.le_of_ne hne).1 (Nat.cast_nonneg step)

/-- What is below a multiple that does not go beyond `y * step` is less near than the nearest one. -/
theorem IsRounded.abs_mul_sub_lt {y : ℚ} {r z step v : Nat} (h : IsRounded y r)
    (hv : v < z * step) (hz : ((z * step : Nat) : ℚ) ≤ y * step) :
    |((r * step : Nat) : ℚ) - y * step| < |(v : ℚ) - y * step| := by
  have hv' : (v : ℚ) < (z * step : Nat) := by exact_mod_cast hv
  refine (h.abs_mul_sub_le z step).trans_lt ?_
  rw [abs_sub_comm, abs_sub_comm (v : ℚ), abs_of_nonneg (by linarith), abs_of_nonneg (by linarith)]
  linarith

theorem IsRounded.isNearest {y : ℚ} {r floor : Nat} (h : IsRounded y r)
    (hge : (floor : ℚ) ≤ y * spacing floor) (hlt : y * spacing floor < floor + 1) :
    IsNearest (y * spacing floor) (r * spacing floor) := by
  have hstep : (0 : ℚ) < spacing floor := by exact_mod_cast spacing_pos floor
  have htop : (floor : ℚ) + 1 ≤ (2 ^ 53 : Nat) * spacing floor := by exact_mod_cast lt_spacing floor
  have hy : y < (2 ^ 53 : Nat) := lt_of_mul_lt_mul_right (hlt.trans_le htop) hstep.le
  have hlow {v : Nat} (hv : v < 2 ^ 52 * spacing floor) (hle : 2 ^ 52 * spacing floor ≤ floor) :=
    h.abs_mul_sub_lt hv (le_trans (by exact_mod_cast hle) hge)
  refine ⟨isShort_mul_spacing (h.le_of_lt hy), fun v hv => ?_, fun v hv hne heq => ?_⟩
  · rcases hv.eq_mul_or_lt floor with ⟨z, rfl⟩ | ⟨hv, hle⟩
    · exact h.abs_mul_sub_le z _
    · exact (hlow hv hle).le
  · rcases hv.eq_mul_or_lt floor with ⟨z, rfl⟩ | ⟨hv, hle⟩
    · have hzr : z ≠ r := by
        rintro rfl
        exact hne rfl
      rw [abs_mul_sub, abs_mul_sub] at heq
      obtain ⟨⟨half, rfl⟩, hnext⟩ := (h.le_of_ne hzr).2 (mul_right_cancel₀ hstep.ne' heq)
      rw [Nat.cast_mul, Nat.cast_mul z, ← sub_mul, abs_mul, Nat.abs_cast, hnext, one_mul]
      exact ⟨half, by push_cast; ring⟩
    · exact absurd heq (hlow hv hle).ne

theorem nearestUnits_isNearest (num : Nat) {den : Nat} (hd : 0 < den) :
    IsNearest ((num : ℚ) / den) (nearestUnits num den) := by
  have hpos : (0 : ℚ) < den := by exact_mod_cast hd
  have hge : ((num / den : Nat) : ℚ) ≤ (num : ℚ) / den := by
    rw [div_eq_floor_add hd]
    exact le_add_of_nonneg_right (by positivity)
  have hlt : (num : ℚ) / den < (num / den : Nat) + 1 := by
    rw [div_eq_floor_add hd]
    gcongr
    exact (div_lt_one hpos).2 (by exact_mod_cast Nat.mod_lt num hd)
  have hstep : (0 : ℚ) < spacing (num / den) := by exact_mod_cast spacing_pos (num / den)
  have hx : (num : ℚ) / den = num / (den * spacing (num / den) : Nat) * spacing (num / den) := by
    push_cast
    field_simp
  rw [hx] at hge hlt ⊢
  exact (isRounded_roundQuotient (Nat.mul_pos hd (spacing_pos _))).isNearest hge hlt

/-- There is only one: of two neighbours, both cannot be even multiples of their distance. -/
theorem IsNearest.unique {x : ℚ} {units v : Nat} (h : IsNearest x units) (hv : IsNearest x v) :
    units = v := by
  by_contra hne
  have heq := le_antisymm (h.le v hv.short) (hv.le units h.short)
  have hdvd := h.even v hv.short (Ne.symm hne) heq
  have hdvd' := hv.even units h.short hne heq.symm
  rw [abs_sub_comm] at hdvd'
  have hpos : 0 < |(units : ℤ) - v| := abs_pos.2 (sub_ne_zero.2 (by exact_mod_cast hne))
  have hle := Int.le_of_dvd hpos ((dvd_abs _ _).2 (dvd_sub hdvd hdvd'))
  omega

theorem isNearest_zero : IsNearest 0 0 := by
  refine ⟨⟨0, 0, by norm_num, rfl⟩, fun v _ => by simp, fun v _ hne heq => ?_⟩
  have hv : v = 0 := by simpa using heq.symm
  exact absurd hv hne

/-- Rounding does not go beyond a double. -/
theorem IsNearest.le_of_le {x : ℚ} {units v : Nat} (h : IsNearest x units) (hv : IsShort v)
    (hx : x ≤ v) : units ≤ v := by
  by_contra hlt
  have hlt' : (v : ℚ) < units := by exact_mod_cast Nat.lt_of_not_le hlt
  have hnear := h.le v hv
  rw [abs_of_nonneg (by linarith), abs_of_nonneg (by linarith)] at hnear
  linarith

end Double

open Double

/-- A rational number rounds to the finite double with its sign and the magnitude nearest to its own, if
that is in range. -/
inductive RoundsTo (x : ℚ) : Except MetricError Double → Prop
  | value {units : Nat} (h : IsNearest (|x| * one) units) (hl : units < limit) :
      RoundsTo x (.ok (.finite (decide (x < 0)) units))
  | tooLarge {units : Nat} (h : IsNearest (|x| * one) units) (hl : limit ≤ units) :
      RoundsTo x (.error .tooLarge)

theorem RoundsTo.unique {x : ℚ} {m m' : Except MetricError Double} (h : RoundsTo x m)
    (h' : RoundsTo x m') : m = m' := by
  cases h with
  | @value units h hl =>
    cases h' with
    | @value v h' hl' => rw [h.unique h']
    | @tooLarge v h' hl' =>
      obtain rfl := h.unique h'
      omega
  | @tooLarge units h hl =>
    cases h' with
    | @value v h' hl' =>
      obtain rfl := h.unique h'
      omega
    | @tooLarge v h' hl' => rfl

-- The exponents are made variables, so that the powers are not computed.
theorem pow_mul_one_lt_limit {n : Nat} (h : n < 1024) : 2 ^ n * one < limit := by
  unfold one limit
  generalize ha : 1074 = a
  generalize hb : 2098 = b
  rw [Nat.pow_eq, Nat.pow_eq, ← Nat.pow_add]
  exact Nat.pow_lt_pow_right (by omega) (by omega)

theorem isShort_pow_mul_one (n : Nat) : IsShort (2 ^ n * one) := by
  unfold one
  generalize 1074 = a
  refine ⟨1, n + a, by norm_num, ?_⟩
  rw [Nat.pow_eq, ← Nat.pow_add, one_mul]

/-- What is not beyond a power of two in range rounds to a double. -/
theorem RoundsTo.exists_of_le {x : ℚ} {m : Except MetricError Double} (h : RoundsTo x m) {n : Nat}
    (hn : n < 1024) (hx : |x| ≤ (2 ^ n : Nat)) : ∃ value, m = .ok value := by
  cases h with
  | value h hl => exact ⟨_, rfl⟩
  | @tooLarge units h hl =>
    have hle : |x| * one ≤ (2 ^ n * one : Nat) := by
      rw [Nat.cast_mul]
      exact mul_le_mul_of_nonneg_right hx (Nat.cast_nonneg one)
    have hlt := pow_mul_one_lt_limit hn
    have hunits := h.le_of_le (isShort_pow_mul_one n) hle
    omega

theorem roundsTo_zero : RoundsTo 0 (.ok 0) := by
  have h : IsNearest (|0| * one) 0 := by
    rw [abs_zero, zero_mul]
    exact isNearest_zero
  exact .value h ((Nat.zero_le _).trans_lt (pow_mul_one_lt_limit (n := 0) (by omega)))

/-- **A metric is correctly rounded.** -/
theorem metric_roundsTo (num : Int) {den : Nat} (hd : 0 < den) :
    RoundsTo ((num : ℚ) / den) (metric num den) := by
  have hpos : (0 : ℚ) < den := by exact_mod_cast hd
  have hx : |(num : ℚ) / den| * one = ((one * num.natAbs : Nat) : ℚ) / den := by
    rw [abs_div, Nat.abs_cast, Nat.cast_mul, Nat.cast_natAbs, Int.cast_abs]
    ring
  have hnear := nearestUnits_isNearest (one * num.natAbs) hd
  rw [← hx] at hnear
  have hsign : decide ((num : ℚ) / den < 0) = decide (num < 0) := by
    rw [decide_eq_decide, div_lt_iff₀ hpos, zero_mul]
    exact_mod_cast Iff.rfl
  unfold metric quotient?
  dsimp only
  by_cases hl : nearestUnits (one * num.natAbs) den < limit
  · rw [if_pos hl, ← hsign]
    exact .value hnear hl
  · rw [if_neg hl]
    exact .tooLarge hnear (Nat.le_of_not_lt hl)

theorem metric_zero {den : Nat} (hd : 0 < den) : metric 0 den = .ok 0 := by
  have h := metric_roundsTo 0 hd
  rw [Int.cast_zero, zero_div] at h
  exact h.unique roundsTo_zero

end Cyclomatic
