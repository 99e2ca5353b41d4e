import Cyclomatic.Proofs.Listing
import Cyclomatic.Report
import Mathlib.Data.List.Forall2

/-!
# What reports list

A report on files whose average complexities have values lists all of them, in their order
(`exists_document`). A single file without such a value leaves no report (`document_error`).
-/

set_option autoImplicit false

namespace Cyclomatic.Report

variable {index : Index} {files : List SourceFile} {f : SourceFile}

/-! ## Entries -/

theorem mapM_eq_pure {α β : Type} {m : Type → Type} [Monad m] [LawfulMonad m] {f : α → m β}
    {items : List α} {results : List β} (h : List.Forall₂ (fun a b => f a = pure b) items results) :
    items.mapM f = pure results := by
  induction h with
  | nil => rfl
  | cons ha _ ih => simp [ha, ih]

theorem exists_fileEntry (h : f.Measurable) : ∃ entry, fileEntry index f = .ok entry := by
  obtain ⟨average, h⟩ := h
  exact ⟨_, by rw [fileEntry, h]; rfl⟩

theorem fileEntry_error (h : ¬ f.Measurable) : fileEntry index f = .error .tooLarge := by
  rw [fileEntry, SourceFile.error_of_not_measurable h]
  rfl

theorem exists_entries (h : ∀ f ∈ files, f.Measurable) :
    ∃ entries, files.mapM (fileEntry index) = .ok entries ∧
      List.Forall₂ (fun f entry => fileEntry index f = .ok entry) files entries := by
  obtain ⟨entries, hall⟩ : ∃ entries,
      List.Forall₂ (fun f entry => fileEntry index f = .ok entry) files entries := by
    induction files with
    | nil => exact ⟨[], .nil⟩
    | cons f files ih =>
      obtain ⟨entry, hentry⟩ := @exists_fileEntry index f (h f List.mem_cons_self)
      obtain ⟨entries, hall⟩ := ih fun g hg => h g (List.mem_cons_of_mem f hg)
      exact ⟨entry :: entries, .cons hentry hall⟩
  exact ⟨entries, mapM_eq_pure hall, hall⟩

theorem entries_error (h : ∃ f ∈ files, ¬ f.Measurable) :
    files.mapM (fileEntry index) = .error .tooLarge := by
  induction files with
  | nil => simp at h
  | cons f files ih =>
    rw [List.mapM_cons]
    by_cases hf : f.Measurable
    · obtain ⟨g, hg, hn⟩ := h
      obtain ⟨entry, hentry⟩ := @exists_fileEntry index f hf
      rcases List.mem_cons.1 hg with rfl | hg
      · exact absurd hf hn
      · rw [hentry, ih ⟨g, hg, hn⟩]
        rfl
    · rw [fileEntry_error hf]
      rfl

/-- The entry is about a file: it has the path of the file and the name of its class. -/
def Names (f : SourceFile) (entry : Json) : Prop :=
  ∃ members declared, entry = .object members ∧ members.lookup "path" = some (.text f.path) ∧
    members.lookup "class" = some (.object declared) ∧
    declared.lookup "name" = some (.text f.declared.name)

theorem names_of_fileEntry {entry : Json} (h : fileEntry index f = .ok entry) : Names f entry := by
  rw [fileEntry] at h
  cases ha : f.declared.averageComplexity with
  | error e =>
    rw [ha] at h
    cases h
  | ok average =>
    rw [ha] at h
    cases h
    exact ⟨_, _, rfl, rfl, rfl, rfl⟩

/-! ## Reports -/

/-- The report has an entry for each of these files, in this order, and no others; each entry is about
its own file. -/
def Lists (index : Index) (files : List SourceFile) (report : Json) : Prop :=
  ∃ members entries, report = .object members ∧ members.lookup "files" = some (.list entries) ∧
    List.Forall₂ (fun f entry => fileEntry index f = .ok entry ∧ Names f entry) files entries

/-- **A report lists its files.** -/
theorem exists_document (h : ∀ f ∈ files, f.Measurable) (time : String) :
    ∃ report, document time index files = .ok report ∧ Lists index files report := by
  obtain ⟨entries, hentries, hall⟩ := @exists_entries index files h
  rw [document, hentries]
  exact ⟨_, rfl, _, entries, rfl, rfl, hall.imp fun _ _ h => ⟨h, names_of_fileEntry h⟩⟩

theorem document_error (h : ∃ f ∈ files, ¬ f.Measurable) (time : String) :
    document time index files = .error .tooLarge := by
  rw [document, entries_error h]
  rfl

end Cyclomatic.Report
