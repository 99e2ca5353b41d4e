import Cyclomatic.Project.Criterion
import Cyclomatic.Proofs.Keyed

/-!
# Rankings

`Ranks key files ranked`: the files are in descending order of their keys, and those with equal keys in
the order that they had. `Criterion.value` says what the keys of each criterion are. Files are ranked
all or not at all (`rankInPlace_ranks`): ranking comes to such an order if all keys are known, and if
one is not, the files stay where they are.
-/

set_option autoImplicit false

namespace Cyclomatic

/-- The average complexity of the file's class has a value. -/
def SourceFile.Measurable (f : SourceFile) : Prop :=
  ∃ average, f.declared.averageComplexity = .ok average

theorem SourceFile.error_of_not_measurable {f : SourceFile} (h : ¬ f.Measurable) :
    f.declared.averageComplexity = .error .tooLarge := by
  rcases hf : f.declared.averageComplexity with ⟨-⟩ | average
  · rfl
  · exact absurd ⟨average, hf⟩ h

/-- `ranked` has the files in descending order of their keys; files with equal keys keep their order. -/
structure Ranks (key : SourceFile → Int) (files ranked : List SourceFile) : Prop where
  perm : ranked.Perm files
  descending : ranked.Pairwise fun f g => key g ≤ key f
  stable : ∀ k, ranked.filter (key · = k) = files.filter (key · = k)

/-- Sorting that takes the larger key first and leaves the rest to the order of the files. -/
theorem ranks_mergeSort (key : SourceFile → Int) (files : List SourceFile) :
    Ranks key files (files.mergeSort fun f g => key g ≤ key f) := by
  have hperm := List.mergeSort_perm files fun f g => key g ≤ key f
  refine ⟨hperm, descending_mergeSort key files, fun k => ?_⟩
  -- the files with the key `k` are in order as they are, so sorting leaves them in that order
  have hsorted : (files.filter (key · = k)).Pairwise fun f g => decide (key g ≤ key f) = true := by
    rw [List.pairwise_filter]
    refine List.pairwise_of_forall fun f g hf hg => ?_
    simp only [decide_eq_true_eq] at hf hg ⊢
    omega
  have hsub := (List.sublist_mergeSort decide_key_le_trans decide_key_le_total hsorted
    List.filter_sublist).filter (key · = k)
  simp only [List.filter_filter, Bool.and_self] at hsub
  exact (hsub.eq_of_length (hperm.filter _).length_eq.symm).symm

theorem mem_iff_of_filter_eq {key : SourceFile → Int} {a b : List SourceFile}
    (h : ∀ k, a.filter (key · = k) = b.filter (key · = k)) (f : SourceFile) : f ∈ a ↔ f ∈ b := by
  have hf := congrArg (f ∈ ·) (h (key f))
  simpa using hf

/-- Descending orders of the same files that differ at most among equal keys, and have these in the same
order, are the same. -/
theorem eq_of_descending {key : SourceFile → Int} {a b : List SourceFile}
    (ha : a.Pairwise fun f g => key g ≤ key f) (hb : b.Pairwise fun f g => key g ≤ key f)
    (h : ∀ k, a.filter (key · = k) = b.filter (key · = k)) : a = b := by
  induction a generalizing b with
  | nil =>
    cases b with
    | nil => rfl
    | cons g b => simpa using mem_iff_of_filter_eq h g
  | cons f a ih =>
    cases b with
    | nil => simpa using mem_iff_of_filter_eq h f
    | cons g b =>
      have hmem := mem_iff_of_filter_eq h
      rw [List.pairwise_cons] at ha hb
      have hgf : key g ≤ key f := by
        rcases List.mem_cons.1 ((hmem g).2 List.mem_cons_self) with rfl | hg
        · exact Int.le_refl _
        · exact ha.1 g hg
      have hfg : key f ≤ key g := by
        rcases List.mem_cons.1 ((hmem f).1 List.mem_cons_self) with rfl | hf
        · exact Int.le_refl _
        · exact hb.1 f hf
      have hkey : key g = key f := by omega
      have hhead := h (key f)
      simp only [List.filter_cons, hkey, decide_true, if_true, List.cons.injEq] at hhead
      obtain ⟨rfl, -⟩ := hhead
      have htail (k : Int) : a.filter (key · = k) = b.filter (key · = k) := by
        have hk := h k
        by_cases hfk : key f = k
        · simpa [hfk] using hk
        · simpa [hfk] using hk
      rw [ih ha.2 hb.2 htail]

/-- There is only one ranking by a key. -/
theorem Ranks.unique {key : SourceFile → Int} {files a b : List SourceFile} (ha : Ranks key files a)
    (hb : Ranks key files b) : a = b :=
  eq_of_descending ha.descending hb.descending fun k => (ha.stable k).trans (hb.stable k).symm

/-- `ranked` are the files after rankings by the criteria, one after the other. -/
inductive RankedInTurn (value : Criterion → SourceFile → Int) (files : List SourceFile) :
    List Criterion → List SourceFile → Prop
  | unranked : RankedInTurn value files [] files
  | next {criteria : List Criterion} {c : Criterion} {middle ranked : List SourceFile}
      (h : RankedInTurn value files criteria middle) (hr : Ranks (value c) middle ranked) :
      RankedInTurn value files (criteria ++ [c]) ranked

theorem RankedInTurn.perm {value : Criterion → SourceFile → Int} {files ranked : List SourceFile}
    {criteria : List Criterion} (h : RankedInTurn value files criteria ranked) :
    ranked.Perm files := by
  induction h with
  | unranked => exact .refl _
  | next _ hr ih => exact hr.perm.trans ih

namespace Criterion

variable {criterion : Criterion} {index : Index} {files ranked : List SourceFile}

/-- The keys of the files have values. -/
def Known (criterion : Criterion) (index : Index) (files : List SourceFile) : Prop :=
  ∀ f ∈ files, ∃ k, criterion.key index f = .ok k

/-- What a criterion ranks a file by: the average complexity of its class, if that has a value; how
often the class is used, or -1 for a class that the index does not know; how many dependencies it has;
the highest complexity of its methods; how many tokens the file has. -/
def value (criterion : Criterion) (index : Index) (f : SourceFile) : Int :=
  match criterion with
  | classComplexity =>
    match f.declared.averageComplexity with
    | .ok average => average.value
    | .error _ => 0
  | uses =>
    match index.lookup f.declared.name with
    | some n => n
    | none => -1
  | dependencies => f.declared.dependencies.length
  | methodComplexity => (f.declared.methods.map Method.complexity).max?.getD 0
  | tokenCount => (f.profile.map (·.2)).foldr (· + ·) 0

theorem tokenCount_eq_sum (f : SourceFile) :
    f.tokenCount = (f.profile.map (·.2)).foldr (· + ·) 0 := by
  rw [SourceFile.tokenCount]
  induction f.profile with
  | nil => rfl
  | cons entry rest ih => rw [Token.Profile.total, ih, List.map_cons, List.foldr_cons]

/-- The keys that are looked up are the values of the criterion. -/
theorem value_of_key {f : SourceFile} {k : Int} (h : criterion.key index f = .ok k) :
    criterion.value index f = k := by
  cases criterion with
  | classComplexity =>
    rw [key] at h
    rw [value]
    cases ha : f.declared.averageComplexity with
    | error e =>
      rw [ha] at h
      cases h
    | ok average =>
      rw [ha] at h
      exact Except.ok.inj h
  | uses =>
    rw [← Except.ok.inj h, value]
    cases index.lookup f.declared.name <;> rfl
  | dependencies => exact Except.ok.inj h
  | methodComplexity => exact Except.ok.inj h
  | tokenCount => rw [← Except.ok.inj h, value, tokenCount_eq_sum]

/-- Average complexities are the only keys that may have no value. -/
theorem known_of_measurable (criterion : Criterion) (h : ∀ f ∈ files, f.Measurable) :
    criterion.Known index files := by
  intro f hf
  cases criterion with
  | classComplexity =>
    obtain ⟨average, ha⟩ := h f hf
    exact ⟨average.value, by rw [key, ha]; rfl⟩
  | _ => exact ⟨_, rfl⟩

theorem Known.measurable (h : classComplexity.Known index files) : ∀ f ∈ files, f.Measurable := by
  intro f hf
  obtain ⟨k, hk⟩ := h f hf
  rw [key] at hk
  rcases ha : f.declared.averageComplexity with e | average
  · rw [ha] at hk
    cases hk
  · exact ⟨average, ha⟩

theorem keyed_eq_ok {f : SourceFile} {k : Int} (h : criterion.key index f = .ok k) :
    criterion.keyed index f = .ok (criterion.value index f, f) := by
  rw [keyed, h, value_of_key h]
  rfl

theorem mapM_keyed (h : criterion.Known index files) :
    files.mapM (criterion.keyed index) =
      .ok (files.map fun f => (criterion.value index f, f)) := by
  induction files with
  | nil => rfl
  | cons f files ih =>
    obtain ⟨k, hk⟩ := h f List.mem_cons_self
    rw [List.mapM_cons, keyed_eq_ok hk, ih fun g hg => h g (List.mem_cons_of_mem f hg)]
    rfl

theorem known_of_mapM {pairs : List (Int × SourceFile)}
    (h : files.mapM (criterion.keyed index) = .ok pairs) : criterion.Known index files := by
  induction files generalizing pairs with
  | nil => nofun
  | cons f files ih =>
    rw [List.mapM_cons] at h
    cases hk : criterion.key index f with
    | error e => simp [keyed, hk, Except.map, bind, Except.bind] at h
    | ok k =>
      rw [keyed_eq_ok hk] at h
      cases hm : files.mapM (criterion.keyed index) with
      | error e => simp [hm, bind, Except.bind] at h
      | ok others =>
        intro g hg
        rcases List.mem_cons.1 hg with rfl | hg
        · exact ⟨k, hk⟩
        · exact ih hm g hg

theorem Known.of_perm (h : criterion.Known index files) (hp : ranked.Perm files) :
    criterion.Known index ranked :=
  fun f hf => h f (hp.mem_iff.1 hf)

/-- Only average complexities may have no value. -/
theorem known_iff (criterion : Criterion) (index : Index) (files : List SourceFile) :
    criterion.Known index files ↔
      (criterion = .classComplexity → ∀ f ∈ files, f.Measurable) := by
  constructor
  · rintro h rfl
    exact h.measurable
  · intro h
    cases criterion with
    | classComplexity => exact known_of_measurable _ (h rfl)
    | _ => exact fun f _ => ⟨_, rfl⟩

/-! ## Ranking in place -/

theorem mapM_ofExcept {α : Type} (g : SourceFile → Except MetricError α)
    (files state : List SourceFile) :
    (files.mapM fun f => (ofExcept (g f) : EStateM MetricError (List SourceFile) α)) state =
      match files.mapM g with
      | .ok as => .ok as state
      | .error e => .error e state := by
  induction files with
  | nil => rfl
  | cons f files ih =>
    rw [List.mapM_cons, List.mapM_cons]
    cases hf : g f with
    | error e => rfl
    | ok a =>
      simp only [ofExcept, bind, EStateM.bind, pure, EStateM.pure, Except.bind] at ih ⊢
      rw [ih]
      cases files.mapM g <;> rfl

/-- Files are moved after all keys are looked up, so a ranking that fails moves none. -/
theorem rankInPlace_eq (criterion : Criterion) (index : Index) (files : List SourceFile) :
    criterion.rankInPlace index files =
      match files.mapM (criterion.keyed index) with
      | .ok pairs => .ok () ((pairs.mergeSort fun a b => b.1 ≤ a.1).map (·.2))
      | .error e => .error e files := by
  have hget : (get : EStateM MetricError (List SourceFile) _) files = .ok files files := rfl
  have hkeys := mapM_ofExcept (criterion.keyed index) files files
  simp only [rankInPlace, bind, EStateM.bind, hget, hkeys]
  cases files.mapM (criterion.keyed index) <;> rfl

theorem rankInPlace_of_known (h : criterion.Known index files) :
    criterion.rankInPlace index files =
      .ok () (files.mergeSort fun f g => criterion.value index g ≤ criterion.value index f) := by
  have hmap := @List.map_mergeSort _ _
    (fun f g => decide (criterion.value index g ≤ criterion.value index f))
    (fun a b : Int × SourceFile => decide (b.1 ≤ a.1))
    (fun f => (criterion.value index f, f)) files (fun _ _ _ _ => rfl)
  rw [rankInPlace_eq, mapM_keyed h]
  dsimp only
  rw [← hmap, List.map_map]
  exact congrArg (EStateM.Result.ok ()) (List.map_id _)

theorem exists_rankInPlace (h : criterion.Known index files) :
    ∃ ranked, criterion.rankInPlace index files = .ok () ranked ∧
      Ranks (criterion.value index) files ranked :=
  ⟨_, rankInPlace_of_known h, ranks_mergeSort _ _⟩

theorem rankInPlace_of_not_known (h : ¬ criterion.Known index files) :
    criterion.rankInPlace index files = .error .tooLarge files := by
  rw [rankInPlace_eq]
  cases hm : files.mapM (criterion.keyed index) with
  | ok pairs => exact absurd (known_of_mapM hm) h
  | error e => rfl

/-- A class that the index knows comes before all that it does not know. -/
theorem unknown_last (h : Ranks (uses.value index) files ranked) :
    ranked.Pairwise fun f g => index.lookup f.declared.name = none →
      ∀ n : Nat, index.lookup g.declared.name ≠ some (n : Int) := by
  refine h.descending.imp fun {f g} hfg hf n hg => ?_
  simp only [value, hf, hg] at hfg
  omega

/-- **Ranking is a stable descending sort, and it ranks all files or none.** If all keys have values,
the files come into descending order of what the criterion ranks them by, and files with equal keys
keep their order; ranking them once more changes nothing, and by uses the classes that the index does
not know come behind those whose uses it counts. If a key has no value, which only an average
complexity may be without, the files stay as they are. -/
theorem rankInPlace_ranks (criterion : Criterion) (index : Index) (files : List SourceFile) :
    (criterion.Known index files → ∃ ranked, criterion.rankInPlace index files = .ok () ranked ∧
      Ranks (criterion.value index) files ranked ∧
      criterion.rankInPlace index ranked = .ok () ranked ∧
      (criterion = .uses → ranked.Pairwise fun f g => index.lookup f.declared.name = none →
        ∀ n : Nat, index.lookup g.declared.name ≠ some (n : Int))) ∧
    (criterion.Known index files ↔ (criterion = .classComplexity → ∀ f ∈ files, f.Measurable)) ∧
    (criterion = .classComplexity → (∃ f ∈ files, ¬ f.Measurable) →
      criterion.rankInPlace index files = .error .tooLarge files) := by
  refine ⟨fun hk => ?_, known_iff criterion index files, ?_⟩
  · obtain ⟨ranked, hrank, hr⟩ := exists_rankInPlace hk
    obtain ⟨again, hagain, hr'⟩ := exists_rankInPlace (hk.of_perm hr.perm)
    -- what is ranked is a ranking of itself, and there is only one
    rw [Ranks.unique hr' ⟨.refl _, hr.descending, fun _ => rfl⟩] at hagain
    refine ⟨ranked, hrank, hr, hagain, ?_⟩
    rintro rfl
    exact unknown_last hr
  · rintro rfl ⟨f, hf, hm⟩
    exact rankInPlace_of_not_known fun hk => hm (hk.measurable f hf)

/-- A file that declares a class of this name and nothing in it. -/
def named (name : String) : SourceFile := ⟨name ++ ".php", { name }, 1, 0, []⟩

/-- A file whose average complexity is beyond the doubles. -/
def vast : SourceFile :=
  ⟨"v.php", { name := "V", methods := [⟨"f", [.choice .match_ 1 (Nat.pow 10 400) []], 0, none,
    .public_, false⟩] }, 1, 0, []⟩

theorem rankInPlace_ranks_of_vast :
    uses.Known [("B", 0)] [named "A", named "B"] ∧
      uses.rankInPlace [("B", 0)] [named "A", named "B"] = .ok () [named "B", named "A"] ∧
      ¬ vast.Measurable ∧
      classComplexity.rankInPlace [] [named "A", vast] = .error .tooLarge [named "A", vast] := by
  have hk : uses.Known [("B", 0)] [named "A", named "B"] := fun f _ => ⟨_, rfl⟩
  have hvast : ¬ vast.Measurable := by
    have h : vast.declared.averageComplexity.toOption.isSome = false := by decide +kernel
    rintro ⟨average, ha⟩
    simp [ha, Except.toOption] at h
  have hranks : Ranks (uses.value [("B", 0)]) [named "A", named "B"] [named "B", named "A"] := by
    have ha : uses.value [("B", 0)] (named "A") = -1 := rfl
    have hb : uses.value [("B", 0)] (named "B") = 0 := rfl
    refine ⟨.swap _ _ _, by simp [ha, hb], fun k => ?_⟩
    by_cases h : k = 0
    · simp [ha, hb, h]
    · simp [List.filter_cons, hb, Ne.symm h]
  obtain ⟨ranked, hr, hranked, -⟩ := (rankInPlace_ranks uses [("B", 0)] [named "A", named "B"]).1 hk
  obtain rfl := hranks.unique hranked
  refine ⟨hk, hr, hvast, ?_⟩
  exact (rankInPlace_ranks _ _ _).2.2 rfl ⟨vast, by simp, hvast⟩

end Criterion

namespace Project

variable {c : Criterion} {p : Project}

theorem exists_rankedBy (h : c.Known p.index p.files) :
    ∃ files, p.rankedBy (some c) = .ok { p with files } ∧ Ranks (c.value p.index) p.files files := by
  obtain ⟨files, hrank, hr⟩ := Criterion.exists_rankInPlace h
  exact ⟨files, by rw [rankedBy, hrank], hr⟩

/-- A ranking comes to an order by the criterion, or some average complexity has no value. -/
theorem rankedBy_ok_or_error (c : Criterion) (p : Project) :
    (∃ ranked, c.Known p.index p.files ∧ Ranks (c.value p.index) p.files ranked ∧
      p.rankedBy (some c) = .ok { p with files := ranked }) ∨
    (∃ f ∈ p.files, ¬ f.Measurable) ∧ p.rankedBy (some c) = .error .tooLarge := by
  by_cases hk : c.Known p.index p.files
  · obtain ⟨ranked, hrank, hr⟩ := exists_rankedBy hk
    exact .inl ⟨ranked, hk, hr, hrank⟩
  · have hf : ∃ f ∈ p.files, ¬ f.Measurable := by
      by_contra hn
      push Not at hn
      exact hk (Criterion.known_of_measurable c hn)
    exact .inr ⟨hf, by rw [rankedBy, Criterion.rankInPlace_of_not_known hk]⟩

end Project

end Cyclomatic
