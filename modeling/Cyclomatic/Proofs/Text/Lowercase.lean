import Cyclomatic.Text.Lowercase
import Mathlib.Data.List.Infix

/-!
# Small letters in context

Of all characters only the capital sigma is lowered by what stands around it: by the nearest
character on each side that is not passed over (`HasNearest`). Where a part of a text tells both, or
enough of one, the part is lowered as it is lowered alone (`lowerAfter_infix`); a part with a sigma
of which it does not tell enough stands in some text whose small letters do not have the part's
(`exists_not_infix`).

Capitals and small letters of ASCII are alike to all of this (`lowerAfter_of_map_toLower_eq`).
-/

set_option autoImplicit false

namespace Cyclomatic.Text

/-! ## Sigmas -/

/-- Some character is not passed over in the search for the nearest one that has case. -/
def HasNearest (cs : List Char) : Prop := ∃ c ∈ cs, isCaseIgnorable c = false

/-- What stands around a sigma, the nearest character first, tells whether it ends a word, and no
text further out can change that. -/
def SigmaSettled (before after : List Char) : Prop :=
  (HasNearest before ∧ nearestIsCased before = false) ∨ nearestIsCased after = true ∨
    (HasNearest before ∧ HasNearest after)

/-- The form of every capital sigma is told by the text itself and what is `known` to stand before
it. -/
def SettledBehind (known cs : List Char) : Prop :=
  ∀ u v, cs = u ++ 'Σ' :: v → SigmaSettled (u.reverse ++ known) v

/-- The form of every capital sigma is told by the text itself. -/
def Settled (cs : List Char) : Prop := SettledBehind [] cs

-- By name, since there is another instance, which runs through all characters there are.
instance (cs : List Char) : Decidable (HasNearest cs) :=
  List.decidableBEx (fun c => isCaseIgnorable c = false) cs

instance (before after : List Char) : Decidable (SigmaSettled before after) :=
  inferInstanceAs (Decidable (_ ∨ _ ∨ _))

theorem settledBehind_nil (known : List Char) : SettledBehind known [] := by
  intro u v h
  cases u <;> cases h

theorem settledBehind_cons {known cs : List Char} {c : Char} :
    SettledBehind known (c :: cs) ↔
      (c = 'Σ' → SigmaSettled known cs) ∧ SettledBehind (c :: known) cs := by
  constructor
  · intro h
    refine ⟨fun hc => h [] cs (by rw [hc]; rfl), fun u v huv => ?_⟩
    simpa using h (c :: u) v (by rw [huv, List.cons_append])
  · rintro ⟨hc, h⟩ u v huv
    cases u with
    | nil =>
      cases huv
      exact hc rfl
    | cons d u =>
      cases huv
      simpa using h u v rfl

instance (known : List Char) : (cs : List Char) → Decidable (SettledBehind known cs)
  | [] => isTrue (settledBehind_nil known)
  | c :: cs =>
    have : Decidable (SettledBehind (c :: known) cs) := instDecidableSettledBehind (c :: known) cs
    decidable_of_iff _ settledBehind_cons.symm

instance (cs : List Char) : Decidable (Settled cs) :=
  inferInstanceAs (Decidable (SettledBehind [] cs))

theorem isCaseIgnorable_sigma : isCaseIgnorable 'Σ' = false := by decide +kernel

theorem lowerChar_a : lowerChar 'a' = 'a' := by decide +kernel

theorem nearestIsCased_a : nearestIsCased ['a'] = true := by decide +kernel

theorem HasNearest.append_left {cs : List Char} (h : HasNearest cs) (more : List Char) :
    HasNearest (more ++ cs) := by
  obtain ⟨c, hc, hn⟩ := h
  exact ⟨c, List.mem_append_right _ hc, hn⟩

theorem hasNearest_sigma (cs : List Char) : HasNearest ('Σ' :: cs) :=
  ⟨'Σ', List.mem_cons_self, isCaseIgnorable_sigma⟩

/-- A text without such a character has no sigma either. -/
theorem sigma_not_mem {cs : List Char} (h : ¬ HasNearest cs) : 'Σ' ∉ cs :=
  fun hm => h ⟨'Σ', hm, isCaseIgnorable_sigma⟩

theorem find?_eq_none_of_not_hasNearest {cs : List Char} (h : ¬ HasNearest cs) :
    cs.find? (!isCaseIgnorable ·) = none := by
  rw [List.find?_eq_none]
  intro c hc hn
  exact h ⟨c, hc, by simpa using hn⟩

theorem nearestIsCased_of_not_hasNearest {cs : List Char} (h : ¬ HasNearest cs) :
    nearestIsCased cs = false := by
  rw [nearestIsCased, find?_eq_none_of_not_hasNearest h]

theorem hasNearest_of_nearestIsCased {cs : List Char} (h : nearestIsCased cs = true) :
    HasNearest cs := by
  by_contra hn
  rw [nearestIsCased_of_not_hasNearest hn] at h
  cases h

/-- What is further out does not matter. -/
theorem nearestIsCased_append {cs : List Char} (h : HasNearest cs) (more : List Char) :
    nearestIsCased (cs ++ more) = nearestIsCased cs := by
  obtain ⟨c, hc, hn⟩ := h
  have hsome : (cs.find? (!isCaseIgnorable ·)).isSome = true := by
    rw [List.find?_isSome]
    exact ⟨c, hc, by simp [hn]⟩
  obtain ⟨d, hd⟩ := Option.isSome_iff_exists.1 hsome
  simp only [nearestIsCased, List.find?_append, hd, Option.some_or]

theorem nearestIsCased_append_of_not {cs : List Char} (h : ¬ HasNearest cs) (more : List Char) :
    nearestIsCased (cs ++ more) = nearestIsCased more := by
  simp only [nearestIsCased, List.find?_append, find?_eq_none_of_not_hasNearest h, Option.none_or]

/-! ## Parts of a text -/

/-- What becomes of a character between the characters `before`, the nearest one first, and `after`.
-/
def lowerAt (before : List Char) (c : Char) (after : List Char) : List Char :=
  if c = 'Σ' then [if nearestIsCased before && !nearestIsCased after then 'ς' else 'σ']
  else if c = 'İ' then ['i', '\u0307']
  else [lowerChar c]

/-- What becomes of a part of a text between the characters `before`, the nearest one first, and
`after`. -/
def lowerBetween (before : List Char) : List Char → List Char → List Char
  | [], _ => []
  | c :: cs, after => lowerAt before c (cs ++ after) ++ lowerBetween (c :: before) cs after

theorem lowerAfter_cons (before : List Char) (c : Char) (cs : List Char) :
    lowerAfter before (c :: cs) = lowerAt before c cs ++ lowerAfter (c :: before) cs := rfl

theorem lowerBetween_nil (before cs : List Char) :
    lowerBetween before cs [] = lowerAfter before cs := by
  induction cs generalizing before with
  | nil => rfl
  | cons c cs ih => rw [lowerBetween, lowerAfter_cons, ih, List.append_nil]

theorem lowerBetween_append (before u v after : List Char) :
    lowerBetween before (u ++ v) after =
      lowerBetween before u (v ++ after) ++ lowerBetween (u.reverse ++ before) v after := by
  induction u generalizing before with
  | nil => rfl
  | cons c u ih => simp [lowerBetween, ih]

theorem lowerAfter_append (before u v : List Char) :
    lowerAfter before (u ++ v) =
      lowerBetween before u v ++ lowerAfter (u.reverse ++ before) v := by
  rw [← lowerBetween_nil, lowerBetween_append, lowerBetween_nil, List.append_nil]

/-- A text with a sigma in the middle. -/
theorem lowerAfter_sigma (before u v : List Char) :
    lowerAfter before (u ++ 'Σ' :: v) =
      lowerBetween before u ('Σ' :: v) ++ lowerAt (u.reverse ++ before) 'Σ' v ++
        lowerAfter ('Σ' :: (u.reverse ++ before)) v := by
  rw [lowerAfter_append, lowerAfter_cons, List.append_assoc]

theorem lowerAt_of_ne {c : Char} (h : c ≠ 'Σ') (b₁ a₁ b₂ a₂ : List Char) :
    lowerAt b₁ c a₁ = lowerAt b₂ c a₂ := by
  rw [lowerAt, lowerAt, if_neg h, if_neg h]

/-- The context of a sigma that is settled may grow. -/
theorem lowerAt_append {before after : List Char} {c : Char}
    (h : c = 'Σ' → SigmaSettled before after) (b a : List Char) :
    lowerAt (before ++ b) c (after ++ a) = lowerAt before c after := by
  by_cases hc : c = 'Σ'
  · subst hc
    rw [lowerAt, lowerAt, if_pos rfl, if_pos rfl]
    rcases h rfl with ⟨hb, hu⟩ | ha | ⟨hb, ha⟩
    · rw [nearestIsCased_append hb, hu, Bool.false_and, Bool.false_and]
    · rw [nearestIsCased_append (hasNearest_of_nearestIsCased ha), ha, Bool.not_true,
        Bool.and_false, Bool.and_false]
    · rw [nearestIsCased_append hb, nearestIsCased_append ha]
  · exact lowerAt_of_ne hc _ _ _ _

/-- A part whose sigmas are settled is lowered the same in every context. -/
theorem lowerBetween_of_settled {known cs : List Char} (h : SettledBehind known cs)
    (before after : List Char) : lowerBetween (known ++ before) cs after = lowerAfter known cs := by
  induction cs generalizing known with
  | nil => rfl
  | cons c cs ih =>
    obtain ⟨hc, hrest⟩ := settledBehind_cons.1 h
    rw [lowerBetween, lowerAfter_cons, lowerAt_append hc, ← List.cons_append, ih hrest]

theorem lowerAfter_infix {part cs : List Char} (h : Settled part) (hp : part <:+: cs) :
    lowerAfter [] part <:+: lowerAfter [] cs := by
  obtain ⟨u, v, rfl⟩ := hp
  rw [List.append_assoc, lowerAfter_append, lowerAfter_append, List.append_nil,
    ← List.nil_append u.reverse, lowerBetween_of_settled h]
  exact ⟨_, _, by rw [List.append_assoc]⟩

/-! ## Parts that are not settled -/

theorem lowerBetween_append_after {after : List Char} (h : HasNearest after)
    (before cs more : List Char) :
    lowerBetween before cs (after ++ more) = lowerBetween before cs after := by
  induction cs generalizing before with
  | nil => rfl
  | cons c cs ih =>
    rw [lowerBetween, lowerBetween, ih, ← List.append_assoc]
    simp only [lowerAt, nearestIsCased_append (h.append_left cs)]

theorem lowerAfter_append_before {before : List Char} (h : HasNearest before)
    (more cs : List Char) :
    lowerAfter (before ++ more) cs = lowerAfter before cs := by
  induction cs generalizing before with
  | nil => rfl
  | cons c cs ih =>
    have hc : HasNearest (c :: before) := h.append_left [c]
    rw [lowerAfter_cons, lowerAfter_cons, ← List.cons_append, ih hc]
    simp only [lowerAt, nearestIsCased_append h]

theorem lowerBetween_of_not_mem {cs : List Char} (h : 'Σ' ∉ cs) (b₁ a₁ b₂ a₂ : List Char) :
    lowerBetween b₁ cs a₁ = lowerBetween b₂ cs a₂ := by
  induction cs generalizing b₁ b₂ with
  | nil => rfl
  | cons c cs ih =>
    rw [List.mem_cons, not_or] at h
    rw [lowerBetween, lowerBetween, lowerAt_of_ne (Ne.symm h.1) b₁ _ b₂ (cs ++ a₂),
      ih h.2 (c :: b₁) (c :: b₂)]

theorem not_infix_of_count_lt {xs ys : List Char} {c : Char} (h : ys.count c < xs.count c) :
    ¬ xs <:+: ys :=
  fun hi => absurd (hi.sublist.count_le c) (by omega)

/-- A sigma that ends a word as far as it can be told ends none if a letter follows. -/
theorem not_infix_of_letter_behind {u v : List Char} (hu : nearestIsCased u.reverse = true)
    (hv : ¬ HasNearest v) :
    ¬ lowerAfter [] (u ++ 'Σ' :: v) <:+: lowerAfter [] ((u ++ 'Σ' :: v) ++ ['a']) := by
  have hbehind : nearestIsCased (v ++ ['a']) = true := by
    rw [nearestIsCased_append_of_not hv, nearestIsCased_a]
  have hpart : lowerAfter [] (u ++ 'Σ' :: v) =
      lowerBetween [] u ('Σ' :: v) ++ ['ς'] ++ lowerBetween [] v [] := by
    rw [lowerAfter_sigma, List.append_nil, lowerAt, if_pos rfl, hu,
      nearestIsCased_of_not_hasNearest hv, ← lowerBetween_nil, lowerBetween_of_not_mem (sigma_not_mem hv) _ [] [] []]
    rfl
  have htext : lowerAfter [] ((u ++ 'Σ' :: v) ++ ['a']) =
      lowerBetween [] u ('Σ' :: v) ++ ['σ'] ++ (lowerBetween [] v [] ++ ['a']) := by
    rw [List.append_assoc, List.cons_append, lowerAfter_sigma, List.append_nil, lowerAt,
      if_pos rfl, hu, hbehind, ← List.cons_append,
      lowerBetween_append_after (hasNearest_sigma v), lowerAfter_append,
      lowerBetween_of_not_mem (sigma_not_mem hv) _ _ [] []]
    rw [lowerAfter_cons, lowerAt, if_neg (by decide), if_neg (by decide), lowerChar_a]
    rfl
  apply not_infix_of_count_lt (c := 'ς')
  rw [hpart, htext]
  simp only [List.count_append]
  have h1 : List.count 'ς' ['ς'] = 1 := by decide
  have h2 : List.count 'ς' ['σ'] = 0 := by decide
  have h3 : List.count 'ς' ['a'] = 0 := by decide
  omega

/-- A sigma that is the first letter as far as it can be told ends a word if a letter stands in
front. -/
theorem not_infix_of_letter_before {u v : List Char} (hu : ¬ HasNearest u)
    (hv : nearestIsCased v = false) :
    ¬ lowerAfter [] (u ++ 'Σ' :: v) <:+: lowerAfter [] ('a' :: (u ++ 'Σ' :: v)) := by
  have hnot : ¬ HasNearest u.reverse := by
    rintro ⟨c, hc, hn⟩
    exact hu ⟨c, List.mem_reverse.1 hc, hn⟩
  have hbefore : nearestIsCased (u.reverse ++ ['a']) = true := by
    rw [nearestIsCased_append_of_not hnot, nearestIsCased_a]
  have hpart : lowerAfter [] (u ++ 'Σ' :: v) =
      lowerBetween [] u [] ++ ['σ'] ++ lowerAfter ('Σ' :: u.reverse) v := by
    rw [lowerAfter_sigma, List.append_nil, lowerAt, if_pos rfl,
      nearestIsCased_of_not_hasNearest hnot, lowerBetween_of_not_mem (sigma_not_mem hu) _ _ [] []]
    rfl
  have htext : lowerAfter [] ('a' :: (u ++ 'Σ' :: v)) =
      ['a'] ++ (lowerBetween [] u [] ++ ['ς'] ++ lowerAfter ('Σ' :: u.reverse) v) := by
    rw [lowerAfter_cons, lowerAfter_sigma, lowerAt, if_neg (by decide), if_neg (by decide),
      lowerAt, if_pos rfl, hbefore, hv, ← List.cons_append,
      lowerAfter_append_before (hasNearest_sigma _),
      lowerBetween_of_not_mem (sigma_not_mem hu) _ _ [] [], lowerChar_a]
    rfl
  apply not_infix_of_count_lt (c := 'σ')
  rw [hpart, htext]
  simp only [List.count_append]
  have h1 : List.count 'σ' ['σ'] = 1 := by decide
  have h2 : List.count 'σ' ['ς'] = 0 := by decide
  have h3 : List.count 'σ' ['a'] = 0 := by decide
  omega

/-- A part that is not settled stands in a text in which it is not found in small letters. -/
theorem exists_not_infix {part : List Char} (h : ¬ Settled part) :
    ∃ cs, part <:+: cs ∧ ¬ lowerAfter [] part <:+: lowerAfter [] cs := by
  unfold Settled SettledBehind at h
  push Not at h
  obtain ⟨u, v, rfl, hs⟩ := h
  rw [List.append_nil] at hs
  unfold SigmaSettled at hs
  push Not at hs
  obtain ⟨hbefore, hafter, hboth⟩ := hs
  -- a letter put at the open side turns the sigma into its other form
  by_cases hu : HasNearest u.reverse
  · exact ⟨_, ⟨[], ['a'], rfl⟩, not_infix_of_letter_behind (by simpa using hbefore hu) (hboth hu)⟩
  · have hu' : ¬ HasNearest u := by
      rintro ⟨c, hc, hn⟩
      exact hu ⟨c, List.mem_reverse.2 hc, hn⟩
    exact ⟨_, ⟨['a'], [], by simp⟩, not_infix_of_letter_before hu' (by simpa using hafter)⟩

/-! ## Letters of ASCII -/

theorem toLower_of_capital (i : Fin 26) :
    isCased (Char.ofNat (0x41 + i)).toLower = isCased (Char.ofNat (0x41 + i)) ∧
      isCaseIgnorable (Char.ofNat (0x41 + i)).toLower = isCaseIgnorable (Char.ofNat (0x41 + i)) ∧
      ∀ before after, lowerAt before (Char.ofNat (0x41 + i)).toLower after =
        lowerAt before (Char.ofNat (0x41 + i)) after := by
  have htable : isCased (Char.ofNat (0x41 + i)).toLower = isCased (Char.ofNat (0x41 + i)) ∧
      isCaseIgnorable (Char.ofNat (0x41 + i)).toLower = isCaseIgnorable (Char.ofNat (0x41 + i)) ∧
      (Char.ofNat (0x41 + i)).toLower ≠ 'Σ' ∧ Char.ofNat (0x41 + i) ≠ 'Σ' ∧
      lowerAt [] (Char.ofNat (0x41 + i)).toLower [] = lowerAt [] (Char.ofNat (0x41 + i)) [] := by
    revert i
    decide +kernel
  obtain ⟨hcased, hignorable, hsmall, hcapital, hlower⟩ := htable
  refine ⟨hcased, hignorable, fun before after => ?_⟩
  rw [lowerAt_of_ne hsmall _ _ [] [], hlower, lowerAt_of_ne hcapital]

/-- A capital letter of ASCII counts as its small letter everywhere. -/
theorem toLower_alike (c : Char) :
    isCased c.toLower = isCased c ∧ isCaseIgnorable c.toLower = isCaseIgnorable c ∧
      ∀ before after, lowerAt before c.toLower after = lowerAt before c after := by
  by_cases h : c.val ≥ 'A'.val ∧ c.val ≤ 'Z'.val
  · have hlow : 0x41 ≤ c.toNat := h.1
    have hhigh : c.toNat ≤ 0x5a := h.2
    have hc : c = Char.ofNat (0x41 + (⟨c.toNat - 0x41, by omega⟩ : Fin 26)) := by
      rw [show 0x41 + (c.toNat - 0x41) = c.toNat by omega, Char.ofNat_toNat]
    rw [hc]
    exact toLower_of_capital _
  · have hc : c.toLower = c := dif_neg h
    rw [hc]
    exact ⟨rfl, rfl, fun _ _ => rfl⟩

theorem nearestIsCased_map_toLower (cs : List Char) :
    nearestIsCased (cs.map Char.toLower) = nearestIsCased cs := by
  induction cs with
  | nil => rfl
  | cons c cs ih =>
    obtain ⟨hcased, hignorable, -⟩ := toLower_alike c
    simp only [nearestIsCased, List.map_cons, List.find?_cons, hignorable] at ih ⊢
    cases isCaseIgnorable c with
    | false => exact hcased
    | true => exact ih

theorem lowerAfter_map_toLower (before cs : List Char) :
    lowerAfter (before.map Char.toLower) (cs.map Char.toLower) = lowerAfter before cs := by
  induction cs generalizing before with
  | nil => rfl
  | cons c cs ih =>
    obtain ⟨-, -, hlower⟩ := toLower_alike c
    rw [List.map_cons, lowerAfter_cons, lowerAfter_cons, ← List.map_cons, ih, hlower]
    simp only [lowerAt, nearestIsCased_map_toLower]

theorem lowerAfter_of_map_toLower_eq {cs ds : List Char}
    (h : cs.map Char.toLower = ds.map Char.toLower) : lowerAfter [] cs = lowerAfter [] ds := by
  rw [← lowerAfter_map_toLower [] cs, ← lowerAfter_map_toLower [] ds, h]

/-! ## Letters on their own -/

/-- The two forms of the small sigma as one. -/
def oneSigma (c : Char) : Char := if c = 'ς' then 'σ' else c

/-- A character in small letters, whatever stands around it; the small sigma has one form. -/
def small (c : Char) : List Char := (lowerAt [] c []).map oneSigma

theorem map_oneSigma_lowerAt (before : List Char) (c : Char) (after : List Char) :
    (lowerAt before c after).map oneSigma = small c := by
  by_cases hc : c = 'Σ'
  · subst hc
    rw [small, lowerAt, lowerAt, if_pos rfl, if_pos rfl]
    split <;> split <;> rfl
  · rw [small, lowerAt_of_ne hc]

/-- But for the form of sigmas, a text is lowered character by character. -/
theorem map_oneSigma_lowerAfter (before cs : List Char) :
    (lowerAfter before cs).map oneSigma = cs.flatMap small := by
  induction cs generalizing before with
  | nil => rfl
  | cons c cs ih =>
    rw [lowerAfter_cons, List.map_append, map_oneSigma_lowerAt, ih, List.flatMap_cons]

end Cyclomatic.Text
