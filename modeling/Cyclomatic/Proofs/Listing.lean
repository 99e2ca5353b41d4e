import Cyclomatic.Listing
import Cyclomatic.Proofs.Project.Ranking

/-!
# What listings show

A listing of files whose average complexities have values shows all that its view selects, numbered from
one without gaps, and tells how many they are (`files_shows`). Each file is headed by its number and
the name of its class (`heads_entry`). A single file without such a value cuts the listing short
(`fault?_files`).
-/

set_option autoImplicit false

namespace Cyclomatic

namespace Listing

variable {view : View} {index : Index} {selection : List SourceFile}

/-! ## Selections -/

theorem firstItems_sublist {α : Type} (n : Int) (items : List α) :
    (firstItems n items).Sublist items := by
  unfold firstItems
  split
  · exact List.take_sublist _ _
  · exact List.take_sublist _ _

theorem search_sublist (query? : Option String) (files : List SourceFile) :
    (SourceFile.search query? files).Sublist files := by
  unfold SourceFile.search
  split
  · exact List.Sublist.refl _
  · exact List.Sublist.refl _
  · exact List.filter_sublist

theorem selected?_sublist {files : List SourceFile} (h : selected? view files = some selection) :
    selection.Sublist files := by
  obtain ⟨n, -, rfl⟩ := Option.map_eq_some_iff.1 h
  exact (firstItems_sublist _ _).trans (search_sublist _ _)

/-! ## Entries -/

section

variable [Console.Terminal]

/-- A line in the style of titles. -/
def headline (text : String) : String :=
  Console.Terminal.render ("[underline yellow]" ++ Console.Terminal.escape text ++ "[/]")

/-- The text is about a file: it starts with the number of the file and the name of its class, and says
where the file is. -/
def Heads (rank : Nat) (f : SourceFile) (text : String) : Prop :=
  ∃ accessed rest, text = headline (toString rank ++ ". " ++ f.declared.name)
    ++ Console.Terminal.line accessed ++ Console.Terminal.line ("Ruta: " ++ f.path) ++ rest

theorem Heads.append {rank : Nat} {f : SourceFile} {text : String} (h : Heads rank f text)
    (more : String) : Heads rank f (text ++ more) := by
  obtain ⟨accessed, rest, rfl⟩ := h
  exact ⟨accessed, rest ++ more, String.append_assoc⟩

theorem lines_cons (text : String) (rest : List String) :
    lines (text :: rest) = Console.Terminal.line text ++ lines rest := by
  rw [lines, List.map_cons, String.join_cons]
  rfl

theorem heads_entryHead (view : View) (index : Index) (rank : Nat) (f : SourceFile) :
    Heads rank f (entryHead view index rank f) := by
  rw [entryHead, lines_cons, lines_cons, ← String.append_assoc, ← String.append_assoc]
  exact Heads.append ⟨_, _, rfl⟩ _

/-- An entry is about its file, even if it is cut short. -/
theorem heads_entry (view : View) (index : Index) (rank : Nat) (f : SourceFile) :
    Heads rank f (entry view index rank f).text := by
  have h := heads_entryHead view index rank f
  rw [entry]
  split
  case h_1 average _ => exact h.append _
  case h_2 => exact h

theorem entriesFrom_of_measurable {rank : Nat} {f : SourceFile} (h : f.Measurable) :
    entriesFrom view index rank (f :: selection) =
      { entriesFrom view index (rank + 1) selection with
        text := (entry view index rank f).text ++
          (entriesFrom view index (rank + 1) selection).text } := by
  obtain ⟨average, h⟩ := h
  rw [entriesFrom, entry, h]

theorem entriesFrom_of_not_measurable {rank : Nat} {f : SourceFile} (h : ¬ f.Measurable) :
    (entriesFrom view index rank (f :: selection)).fault? = some (.metric .tooLarge) := by
  rw [entriesFrom, entry, SourceFile.error_of_not_measurable h]

/-- Entries are numbered without gaps. -/
theorem entriesFrom_eq {rank : Nat} (h : ∀ f ∈ selection, f.Measurable) :
    entriesFrom view index rank selection =
      ⟨String.join ((selection.zipIdx rank).map fun (f, i) => (entry view index i f).text), none⟩ := by
  induction selection generalizing rank with
  | nil => rfl
  | cons f rest ih =>
    rw [entriesFrom_of_measurable (h f List.mem_cons_self),
      ih fun g hg => h g (List.mem_cons_of_mem f hg), List.zipIdx_cons, List.map_cons,
      String.join_cons]

theorem fault?_entriesFrom {rank : Nat} (h : ∃ f ∈ selection, ¬ f.Measurable) :
    (entriesFrom view index rank selection).fault? = some (.metric .tooLarge) := by
  induction selection generalizing rank with
  | nil => simp at h
  | cons f rest ih =>
    by_cases hf : f.Measurable
    · obtain ⟨g, hg, hn⟩ := h
      rcases List.mem_cons.1 hg with rfl | hg
      · exact absurd hf hn
      · rw [entriesFrom_of_measurable hf]
        exact ih ⟨g, hg, hn⟩
    · exact entriesFrom_of_not_measurable hf

/-! ## Listings -/

/-- What stands in front of the entries. -/
def heading : String := Console.line "" ++ Console.title "Archivos principales"

/-- The listing shows all of these files and no others, numbered from one, and tells how many they
are. Each entry is about its own file. -/
structure Listed.Shows (view : View) (index : Index) (shown : List SourceFile) (listed : Listed) :
    Prop where
  text : listed.text = heading ++
    if shown = [] then Console.danger "No hay archivos que mostrar"
    else String.join ((shown.zipIdx 1).map fun (f, rank) => (entry view index rank f).text)
  heads : ∀ f rank, (f, rank) ∈ shown.zipIdx 1 → Heads rank f (entry view index rank f).text
  fault : listed.fault? = none
  count : listed.count = shown.length

/-- **A listing shows what its view selects.** -/
theorem files_shows {all : List SourceFile} (hs : selected? view all = some selection)
    (h : ∀ f ∈ selection, f.Measurable) : (files view index all).Shows view index selection := by
  cases selection with
  | nil =>
    rw [files, hs]
    exact ⟨rfl, fun f rank _ => heads_entry view index rank f, rfl, rfl⟩
  | cons f rest =>
    rw [files, hs]
    dsimp only
    rw [entriesFrom_eq h]
    exact ⟨by rw [if_neg (List.cons_ne_nil f rest)]; rfl,
      fun f rank _ => heads_entry view index rank f, rfl, rfl⟩

theorem fault?_files {all : List SourceFile} (hs : selected? view all = some selection)
    (h : ∃ f ∈ selection, ¬ f.Measurable) :
    (files view index all).fault? = some (.metric .tooLarge) := by
  cases selection with
  | nil => simp at h
  | cons f rest =>
    rw [files, hs]
    exact fault?_entriesFrom h

/-! ## Profiles -/

/-- The text is the profile of a file: it starts with the number of the file, its path, and how many
tokens it has. -/
def HeadsProfile (rank : Nat) (f : SourceFile) (text : String) : Prop :=
  ∃ table, text =
    headline (toString rank ++ ". " ++ f.path ++ " (" ++ toString f.tokenCount ++ " tokens)") ++ table

theorem headsProfile_profile (rank : Nat) (f : SourceFile) :
    HeadsProfile rank f (profile rank f) := ⟨_, rfl⟩

/-- Profiles are numbered without gaps. -/
theorem profilesFrom_eq (rank : Nat) (files : List SourceFile) :
    profilesFrom rank files =
      String.join ((files.zipIdx rank).map fun (f, i) => profile i f) := by
  induction files generalizing rank with
  | nil => rfl
  | cons f rest ih =>
    rw [profilesFrom, ih, List.zipIdx_cons, List.map_cons, String.join_cons]

end

end Listing

end Cyclomatic
