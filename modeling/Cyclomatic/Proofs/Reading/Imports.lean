import Cyclomatic.Reading.Imports
import Mathlib.Data.List.Nodup

/-!
# What imports say

If the local names of imports are distinct, the order of the imports says nothing about what a name
stands for (`resolve_of_reordered`). Real names need more: they are put for made-up paths alias after
alias, so no import under another name may be the path made up for another one. Then the order of the
aliases does not matter either (`realName_of_reordered`), and each import stands for its own real name;
otherwise there is an order in which one does not (`unchained_iff_faithful`).
-/

set_option autoImplicit false

namespace Cyclomatic.Reading

/-! ## Keyed lists -/

section

variable {α : Type} {key : α → String} {l others : List α}

theorem find?_key_eq_some (hn : (l.map key).Nodup) {k : String} {a : α} :
    l.find? (key · == k) = some a ↔ a ∈ l ∧ key a = k := by
  constructor
  · intro h
    exact ⟨List.mem_of_find?_eq_some h, by simpa using List.find?_some h⟩
  · rintro ⟨ha, rfl⟩
    cases h : l.find? (key · == key a) with
    | none => exact absurd (List.find?_eq_none.1 h a ha) (by simp)
    | some b =>
      have hb : key b = key a := by simpa using List.find?_some h
      rw [List.inj_on_of_nodup_map hn (List.mem_of_find?_eq_some h) ha hb]

theorem find?_key_of_perm (h : others.Perm l) (hn : (l.map key).Nodup) (k : String) :
    others.find? (key · == k) = l.find? (key · == k) := by
  have hn' : (others.map key).Nodup := (h.map key).nodup_iff.2 hn
  refine Option.ext fun a => ?_
  rw [find?_key_eq_some hn, find?_key_eq_some hn', h.mem_iff]

end

/-! ## Imports -/

namespace Imports

/-- The local names of the imports are distinct. -/
def Distinct (imports : Imports) : Prop := (imports.uses.map lastSegment).Nodup

/-- No import under another name is the path made up for another one. -/
def Unchained (imports : Imports) : Prop :=
  ∀ a ∈ imports.aliases, ∀ b ∈ imports.aliases, a.name = b.path → b.name = b.path

instance (imports : Imports) : Decidable imports.Distinct :=
  inferInstanceAs (Decidable (List.Nodup _))

instance (imports : Imports) : Decidable imports.Unchained :=
  inferInstanceAs (Decidable (∀ a ∈ imports.aliases, ∀ b ∈ imports.aliases,
    a.name = b.path → b.name = b.path))

/-- The name is no path made up for another one. -/
def IsReal (imports : Imports) (name : String) : Prop :=
  ∀ a ∈ imports.aliases, name = a.path → a.name = a.path

/-- The paths made up for aliases are imports. -/
def Traced (imports : Imports) : Prop := (imports.aliases.map (·.path)).Sublist imports.uses

/-- The same imports in another order. -/
structure Reordered (imports others : Imports) : Prop where
  base : others.base = imports.base
  uses : others.uses.Perm imports.uses
  aliases : others.aliases.Perm imports.aliases

variable {imports others : Imports}

theorem Traced.nodup_paths (h : imports.Traced) (hd : imports.Distinct) :
    (imports.aliases.map (·.path)).Nodup :=
  h.nodup (List.Nodup.of_map _ hd)

theorem resolve_of_reordered (h : imports.Reordered others) (hd : imports.Distinct) :
    others.resolve = imports.resolve := by
  funext t
  have hf : others.uses.find? (lastSegment · == t.lexeme) =
      imports.uses.find? (lastSegment · == t.lexeme) := find?_key_of_perm h.uses hd t.lexeme
  simp only [resolve, hf, inNamespace, h.base]

section

variable {aliases : List Alias} {name : String}

theorem foldl_alias_of_fixed (h : ∀ a ∈ aliases, name = a.path → a.name = a.path) :
    aliases.foldl (fun name a => if name = a.path then a.name else name) name = name := by
  induction aliases with
  | nil => rfl
  | cons a aliases ih =>
    have hstep : (if name = a.path then a.name else name) = name := by
      split
      · rename_i hp
        rw [h a (by simp) hp, hp]
      · rfl
    rw [List.foldl_cons, hstep]
    exact ih fun b hb => h b (List.mem_cons_of_mem a hb)

theorem foldl_alias_eq_find? (hu : ∀ a ∈ aliases, ∀ b ∈ aliases, a.name = b.path → b.name = b.path) :
    aliases.foldl (fun name a => if name = a.path then a.name else name) name =
      ((aliases.find? (·.path == name)).map (·.name)).getD name := by
  induction aliases with
  | nil => rfl
  | cons a aliases ih =>
    by_cases hp : name = a.path
    · -- later aliases leave the real name alone
      rw [List.foldl_cons, if_pos hp, List.find?_cons_of_pos (by simp [hp])]
      exact foldl_alias_of_fixed fun b hb => hu a (by simp) b (List.mem_cons_of_mem a hb)
    · rw [List.foldl_cons, if_neg hp, List.find?_cons_of_neg (by simpa using Ne.symm hp)]
      exact ih fun b hb c hc => hu b (List.mem_cons_of_mem a hb) c (List.mem_cons_of_mem a hc)

end

theorem IsReal.realName_eq {name : String} (h : imports.IsReal name) : imports.realName name = name :=
  foldl_alias_of_fixed h

theorem isReal_of_no_alias (h : imports.aliases = []) (name : String) : imports.IsReal name := by
  simp [IsReal, h]

theorem realName_of_no_alias (h : imports.aliases = []) (name : String) :
    imports.realName name = name :=
  (isReal_of_no_alias h name).realName_eq

/-- Where no import is chained to another, one alias at most gives a real name. -/
theorem realName_eq_find? (hu : imports.Unchained) (name : String) :
    imports.realName name =
      ((imports.aliases.find? (·.path == name)).map (·.name)).getD name :=
  foldl_alias_eq_find? hu

/-- Where no import is chained to another, real names stay what they are. -/
theorem isReal_realName (hu : imports.Unchained) (name : String) :
    imports.IsReal (imports.realName name) := by
  intro b hb heq
  rw [realName_eq_find? hu] at heq
  cases hf : imports.aliases.find? (·.path == name) with
  | none =>
    -- no alias is made for the name itself
    rw [hf] at heq
    have hne : b.path ≠ name := by simpa using List.find?_eq_none.1 hf b hb
    exact absurd heq.symm hne
  | some a =>
    rw [hf] at heq
    exact hu a (List.mem_of_find?_eq_some hf) b hb heq

theorem realName_path (hd : imports.Distinct) (ht : imports.Traced) (hu : imports.Unchained)
    {a : Alias} (ha : a ∈ imports.aliases) : imports.realName a.path = a.name := by
  have hfind : imports.aliases.find? (·.path == a.path) = some a :=
    (find?_key_eq_some (ht.nodup_paths hd)).2 ⟨ha, rfl⟩
  rw [realName_eq_find? hu, hfind]
  rfl

theorem realName_of_reordered (h : imports.Reordered others) (hd : imports.Distinct)
    (ht : imports.Traced) (hu : imports.Unchained) : others.realName = imports.realName := by
  have hu' : others.Unchained := fun a ha b hb =>
    hu a (h.aliases.mem_iff.1 ha) b (h.aliases.mem_iff.1 hb)
  funext name
  rw [realName_eq_find? hu, realName_eq_find? hu',
    find?_key_of_perm h.aliases (ht.nodup_paths hd)]

theorem startsWith_lastSegment (name : String) : startsWith (lastSegment name) '\\' = false := by
  rw [startsWith, lastSegment, String.toList_ofList, beq_eq_false_iff_ne]
  intro h
  have hm := List.mem_reverse.1 (List.mem_of_head? h)
  simpa using List.all_eq_true.1 List.all_takeWhile _ hm

theorem resolve_of_mem (hd : imports.Distinct) {use : String} (hm : use ∈ imports.uses) {t : Token}
    (hb : t.isBuiltInType = false) (hl : t.lexeme = lastSegment use) : imports.resolve t = use := by
  have huse : imports.uses.find? (lastSegment · == t.lexeme) = some use :=
    (find?_key_eq_some hd).2 ⟨hm, hl.symm⟩
  rw [resolve, hl, startsWith_lastSegment, hb, ← hl, huse]
  rfl

/-- Every import under another name stands for its own real name. -/
def Faithful (imports : Imports) : Prop :=
  ∀ a ∈ imports.aliases, ∀ t : Token, t.isBuiltInType = false → t.lexeme = lastSegment a.path →
    imports.realName (imports.resolve t) = a.name

theorem faithful_of_unchained (hd : imports.Distinct) (ht : imports.Traced)
    (hu : imports.Unchained) : imports.Faithful := by
  intro a ha t hb hl
  rw [resolve_of_mem hd (ht.subset (List.mem_map_of_mem ha)) hb hl, realName_path hd ht hu ha]

theorem Reordered.faithful (h : imports.Reordered others) (hd : imports.Distinct)
    (ht : imports.Traced) (hu : imports.Unchained) : others.Faithful := by
  intro a ha t hb hl
  rw [resolve_of_reordered h hd, realName_of_reordered h hd ht hu]
  exact faithful_of_unchained hd ht hu a (h.aliases.mem_iff.1 ha) t hb hl

/-- **Imports stand for their real names in every order just if none is chained to another.** Of two
chained imports, the first one stands for the real name of the second if they come last. -/
theorem unchained_iff_faithful (hd : imports.Distinct) (ht : imports.Traced) :
    imports.Unchained ↔ ∀ others, imports.Reordered others → others.Faithful := by
  refine ⟨fun hu others h => h.faithful hd ht hu, fun h a ha b hb hab => ?_⟩
  by_contra hne
  have hba : b ≠ a := by
    rintro rfl
    exact hne hab
  have hperm : (((imports.aliases.erase a).erase b) ++ [a, b]).Perm imports.aliases := by
    have hb' : b ∈ imports.aliases.erase a := (List.mem_erase_of_ne hba).2 hb
    exact List.perm_append_comm.trans
      (((List.perm_cons_erase hb').symm.cons a).trans (List.perm_cons_erase ha).symm)
  have hpaths := (hperm.map (·.path)).nodup_iff.2 (ht.nodup_paths hd)
  rw [List.map_append, List.nodup_append] at hpaths
  -- no alias but `a` is made for the path of `a`, so that nothing happens to it before
  have hbefore : ∀ c ∈ (imports.aliases.erase a).erase b, a.path = c.path → c.name = c.path :=
    fun c hc hp => absurd hp.symm (hpaths.2.2 c.path (List.mem_map_of_mem hc) a.path (by simp))
  have hresolve : ({ imports with aliases := (imports.aliases.erase a).erase b ++ [a, b] } :
      Imports).resolve ⟨.string, 1, lastSegment a.path⟩ = a.path :=
    resolve_of_mem hd (ht.subset (List.mem_map_of_mem ha)) rfl rfl
  have hreal := h { imports with aliases := (imports.aliases.erase a).erase b ++ [a, b] }
    ⟨rfl, .refl _, hperm⟩ a (by simp) ⟨.string, 1, lastSegment a.path⟩ rfl rfl
  rw [hresolve, realName, List.foldl_append, foldl_alias_of_fixed hbefore] at hreal
  simp only [List.foldl_cons, List.foldl_nil, if_true, hab] at hreal
  exact hne hreal

end Imports

end Cyclomatic.Reading
