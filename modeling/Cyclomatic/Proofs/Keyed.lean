import Cyclomatic.Keyed
import Mathlib.Data.List.Nodup

/-!
# Keys in the order of their first use

Keys that are noted one after the other stand in the order of their first use, each once
(`foldl_note`). An update of a keyed list notes its key (`Keyed.keys_update_eq_note`). A list in which
each key stands once is known by its keys and what it says of each (`Keyed.eq_map_of_nodup`).

`descending_mergeSort`: sorting by a key that takes the larger one first puts the keys in descending order.
-/

set_option autoImplicit false

namespace Cyclomatic

/-! ## Notes -/

section

variable {α : Type} [DecidableEq α] {a : α} {known names : List α}

/-- A name at the end, unless it is there. -/
def note (known : List α) (a : α) : List α := if a ∈ known then known else known ++ [a]

theorem note_of_mem (h : a ∈ known) : note known a = known := if_pos h

theorem note_of_new (h : a ∉ known) : note known a = known ++ [a] := if_neg h

/-- **The names after some notes**: those that are new are put at the end, each where it is noted
first. -/
theorem foldl_note (known names : List α) :
    names.foldl note known = known ++ (names.removeAll known).eraseDups := by
  induction names generalizing known with
  | nil => simp [List.removeAll]
  | cons a names ih =>
    rw [List.foldl_cons, ih]
    by_cases hm : a ∈ known
    · rw [note_of_mem hm]
      simp [List.removeAll, hm]
    · -- later notes of the name change nothing, as those of names that were there before
      have hlater (rest : List α) : rest.removeAll (known ++ [a]) =
          (rest.removeAll known).filter (!· == a) := by
        rw [List.removeAll, List.removeAll, List.filter_filter]
        exact List.filter_congr fun b _ => by by_cases hb : b = a <;> simp [hb]
      rw [note_of_new hm, hlater]
      simp [List.removeAll, hm, List.eraseDups_cons]

theorem foldl_note_nil (names : List α) : names.foldl note [] = names.eraseDups := by
  rw [foldl_note]
  simp [List.removeAll]

theorem mem_foldl_note : a ∈ names.foldl note known ↔ a ∈ known ∨ a ∈ names := by
  rw [foldl_note, List.mem_append, List.mem_eraseDups, List.removeAll, List.mem_filter]
  by_cases hm : a ∈ known <;> simp [hm]

theorem nodup_note (h : known.Nodup) (a : α) : (note known a).Nodup := by
  by_cases hm : a ∈ known
  · rwa [note_of_mem hm]
  · rw [note_of_new hm]
    exact h.append (List.nodup_singleton a) (by simpa using hm)

theorem nodup_foldl_note (h : known.Nodup) (names : List α) : (names.foldl note known).Nodup := by
  induction names generalizing known with
  | nil => exact h
  | cons a names ih => exact ih (nodup_note h a)

theorem nodup_eraseDups (names : List α) : names.eraseDups.Nodup := by
  rw [← foldl_note_nil]
  exact nodup_foldl_note List.nodup_nil names

end

/-! ## Keyed lists -/

namespace Keyed

variable {κ α : Type} [DecidableEq κ] {key : κ} {entries : List (κ × α)}

theorem keys_update_eq_note (key : κ) (f : Option α → α) (entries : List (κ × α)) :
    (update key f entries).map (·.1) = note (entries.map (·.1)) key :=
  keys_update key f entries

theorem lookup_eq_none_iff : entries.lookup key = none ↔ key ∉ entries.map (·.1) := by
  rw [List.lookup_eq_none_iff, List.mem_map]
  constructor
  · rintro h ⟨entry, he, rfl⟩
    simpa using h entry he
  · intro h entry he
    exact bne_iff_ne.2 fun hk => h ⟨entry, he, hk.symm⟩

/-- Where each key stands once, its entry is what is looked up. -/
theorem lookup_eq_some_iff {a : α} (h : (entries.map (·.1)).Nodup) :
    entries.lookup key = some a ↔ (key, a) ∈ entries := by
  induction entries with
  | nil => simp
  | cons entry rest ih =>
    obtain ⟨k, b⟩ := entry
    obtain ⟨hnew, hrest⟩ := List.nodup_cons.1 h
    rw [List.lookup_cons]
    by_cases hk : key = k
    · subst hk
      have hno : (key, a) ∉ rest := fun hm => hnew (List.mem_map.2 ⟨_, hm, rfl⟩)
      simp [hno, eq_comm]
    · simp [hk, beq_false_of_ne hk, ih hrest]

/-- Such a list is made of its keys, each with what is looked up for it. -/
theorem eq_map_of_nodup {value : κ → α} (h : (entries.map (·.1)).Nodup)
    (hv : ∀ key ∈ entries.map (·.1), entries.lookup key = some (value key)) :
    entries = (entries.map (·.1)).map fun key => (key, value key) := by
  rw [List.map_map]
  refine (List.map_id entries).symm.trans (List.map_congr_left fun entry he => ?_)
  have hlookup : entries.lookup entry.1 = some entry.2 := (lookup_eq_some_iff h).2 he
  rw [hv entry.1 (List.mem_map_of_mem he)] at hlookup
  simp [Option.some.inj hlookup]

end Keyed

/-! ## Descending orders -/

section

variable {α : Type} {key : α → Int}

theorem decide_key_le_trans (a b c : α) (hab : decide (key b ≤ key a) = true)
    (hbc : decide (key c ≤ key b) = true) : decide (key c ≤ key a) = true := by
  simp only [decide_eq_true_eq] at hab hbc ⊢
  omega

theorem decide_key_le_total (a b : α) :
    (decide (key b ≤ key a) || decide (key a ≤ key b)) = true := by
  simp only [Bool.or_eq_true, decide_eq_true_eq]
  omega

theorem descending_mergeSort (key : α → Int) (items : List α) :
    (items.mergeSort fun a b => key b ≤ key a).Pairwise fun a b => key b ≤ key a := by
  have h := List.pairwise_mergeSort (@decide_key_le_trans _ key) decide_key_le_total items
  simpa using h

end

end Cyclomatic
