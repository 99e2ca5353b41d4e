import Cyclomatic.Project.Search
import Cyclomatic.Proofs.Text.Lowercase

/-!
# What a search finds

A search compares names and queries in small letters. If the form of every capital sigma in the
query is told by the query itself (`Text.Settled`), it finds all files whose class has a name that
contains the query, and all that a longer query finds. If the form is not told, it can miss the very
text that was asked for: `AΣ` is not found in `AΣB` (`not_forall_mem_search`).
-/

set_option autoImplicit false

namespace Cyclomatic

theorem Text.hasPart_iff {part cs : List Char} : hasPart part cs = true ↔ part <:+: cs := by
  induction cs with
  | nil => simp [hasPart]
  | cons c cs ih =>
    rw [hasPart, Bool.or_eq_true, List.isPrefixOf_iff_prefix, ih, List.infix_cons_iff]

namespace SourceFile

/-- The query stands in the name of the file's class, letter for letter. -/
def Contains (query : String) (f : SourceFile) : Prop := query.toList <:+: f.declared.name.toList

instance (query : String) : DecidablePred (Contains query) :=
  fun f => inferInstanceAs (Decidable (query.toList <:+: f.declared.name.toList))

theorem matches_iff {query : String} {f : SourceFile} :
    f.matches query = true ↔
      Text.lowerAfter [] query.toList <:+: Text.lowerAfter [] f.declared.name.toList := by
  rw [SourceFile.matches, Text.hasPart_iff, Text.lower, Text.lower, String.toList_ofList,
    String.toList_ofList]

/-- The empty query needs no case of its own: it stands in every name. -/
theorem search_some (query : String) (files : List SourceFile) :
    search (some query) files = files.filter (·.matches query) := by
  by_cases hq : query = ""
  · subst hq
    refine (List.filter_eq_self.2 fun f _ => ?_).symm
    rw [matches_iff]
    exact List.nil_infix
  · unfold search
    split
    · contradiction
    · simp_all
    · simp_all

theorem search_sublist_search {query other : String}
    (h : Text.lowerAfter [] query.toList <:+: Text.lowerAfter [] other.toList)
    (files : List SourceFile) :
    (search (some other) files).Sublist (search (some query) files) := by
  rw [search_some, search_some]
  refine List.monotone_filter_right files fun f hf => ?_
  rw [matches_iff] at hf ⊢
  exact h.trans hf

/-- A file with a class of the given name. -/
def named (name : String) : SourceFile :=
  { path := "x.php", declared := { name }, lines := 1, hours := 0, profile := [] }

/-- **What a search finds.** It finds files in their order, and only those whose class has a name
with the query in it up to the case of letters; the case of ASCII letters in the query changes
nothing. All files whose class has a name that contains the query are found, and all that a longer
query finds, exactly if the query tells the form of its capital sigmas. -/
theorem search_finds (query : String) (files : List SourceFile) :
    (search (some query) files).Sublist files ∧
    (∀ f ∈ search (some query) files,
      query.toList.flatMap Text.small <:+: f.declared.name.toList.flatMap Text.small) ∧
    (∀ other : String, other.toList.map Char.toLower = query.toList.map Char.toLower →
      search (some other) files = search (some query) files) ∧
    (Text.Settled query.toList →
      (files.filter (Contains query)).Sublist (search (some query) files) ∧
      ∀ longer : String, query.toList <:+: longer.toList →
        (search (some longer) files).Sublist (search (some query) files)) ∧
    (¬ Text.Settled query.toList → ∃ f : SourceFile, f.Contains query ∧
      search (some f.declared.name) [f] = [f] ∧ search (some query) [f] = []) := by
  refine ⟨?_, fun f hf => ?_, fun other ho => ?_, fun hs => ⟨?_, fun longer hl => ?_⟩, fun hs => ?_⟩
  · rw [search_some]
    exact List.filter_sublist
  · rw [search_some, List.mem_filter, matches_iff] at hf
    have hmap := hf.2.map Text.oneSigma
    rwa [Text.map_oneSigma_lowerAfter, Text.map_oneSigma_lowerAfter] at hmap
  · rw [search_some, search_some]
    simp only [SourceFile.matches, Text.lower, Text.lowerAfter_of_map_toLower_eq ho]
  · rw [search_some]
    refine List.monotone_filter_right files fun f hf => ?_
    rw [matches_iff]
    exact Text.lowerAfter_infix hs (of_decide_eq_true hf)
  · exact search_sublist_search (Text.lowerAfter_infix hs hl) files
  · obtain ⟨name, hpart, hnot⟩ := Text.exists_not_infix hs
    have hname : (named (String.ofList name)).declared.name.toList = name := String.toList_ofList
    refine ⟨named (String.ofList name), by rwa [Contains, hname], ?_, ?_⟩
    · rw [search_some, List.filter_eq_self]
      intro f hf
      rw [List.mem_singleton.1 hf, matches_iff]
    · rw [search_some, List.filter_eq_nil_iff]
      intro f hf
      rw [List.mem_singleton.1 hf, matches_iff, hname]
      exact hnot

/-- A query with a sigma that ends a word and one that starts one. -/
theorem search_finds_of_words :
    Text.Settled "kΣ_ΣB".toList ∧
      [named "\\AkΣ_ΣBΣ"].Sublist
        (search (some "kΣ_ΣB") [named "\\AkΣ_ΣBΣ", named "\\KΣ_Σb", named "\\kΣΣB"]) := by
  have hs : Text.Settled "kΣ_ΣB".toList := by decide +kernel
  refine ⟨hs, ?_⟩
  have h := ((search_finds "kΣ_ΣB"
    [named "\\AkΣ_ΣBΣ", named "\\KΣ_Σb", named "\\kΣΣB"]).2.2.2.1 hs).1
  have hone : (named "\\AkΣ_ΣBΣ").Contains "kΣ_ΣB" := by decide +kernel
  have htwo : ¬ (named "\\KΣ_Σb").Contains "kΣ_ΣB" := by decide +kernel
  have hthree : ¬ (named "\\kΣΣB").Contains "kΣ_ΣB" := by decide +kernel
  simpa [List.filter_cons, hone, htwo, hthree] using h

/-- The sigma at the end of `AΣ` has another form than the one in `AΣB`. -/
theorem not_forall_mem_search :
    ¬ ∀ (query : String) (files : List SourceFile), query ≠ "" →
      ∀ f ∈ files, f.Contains query → f ∈ search (some query) files := by
  intro h
  have hmem := h "AΣ" [named "\\AΣB"] (by decide) _ List.mem_cons_self (by decide)
  rw [search_some, List.mem_filter] at hmem
  have hmissed : (named "\\AΣB").matches "AΣ" = false := by decide +kernel
  rw [hmissed] at hmem
  exact Bool.false_ne_true hmem.2

end SourceFile

end Cyclomatic
