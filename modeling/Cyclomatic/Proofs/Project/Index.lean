import Cyclomatic.Project
import Cyclomatic.Proofs.Keyed
import Mathlib.Algebra.BigOperators.Group.List.Basic
import Mathlib.Algebra.Ring.Int.Defs

/-!
# What the index counts

The index is made by updates, one for each class and one for each of its dependencies. Looked at
through `usages`, it is a sum: every class adds as many uses of a name as its dependencies hold that
name (`usages_ofClasses`). Its names are those that are mentioned, in the order in which they are
(`keys_ofClasses`). Together this is all that there is in it: `index_ofFiles`.
-/

set_option autoImplicit false

namespace Cyclomatic.Index

/-- How often a name is a dependency of a class, as a summand of the index. -/
def usesBy (name : String) (c : Class) : Int := c.dependencies.count name

variable (index : Index) (name other : String)

@[simp] theorem usages_nil : usages [] name = 0 := rfl

@[simp] theorem usages_mention : (index.mention other).usages name = index.usages name := by
  rw [usages, mention, Keyed.lookup_update]
  split
  · rename_i h
    subst h
    rfl
  · rfl

@[simp] theorem usages_use :
    (index.use other).usages name = index.usages name + if other = name then 1 else 0 := by
  rw [usages, use, Keyed.lookup_update]
  by_cases h : name = other
  · subst h
    simp [usages]
  · simp [usages, h, Ne.symm h]

theorem usages_foldl_use (names : List String) :
    (names.foldl (fun index name => index.use name) index).usages name =
      index.usages name + names.count name := by
  induction names generalizing index with
  | nil => simp
  | cons other names ih =>
    rw [List.foldl_cons, ih, usages_use, List.count_cons]
    by_cases h : other = name
    · simp [h]
      omega
    · simp [h]

theorem usages_addClass (c : Class) :
    (index.addClass c).usages name = index.usages name + usesBy name c := by
  rw [addClass, usages_foldl_use, usages_mention, usesBy]

theorem usages_foldl_addClass (classes : List Class) :
    (classes.foldl addClass index).usages name =
      index.usages name + (classes.map (usesBy name)).sum := by
  induction classes generalizing index with
  | nil => simp
  | cons c classes ih =>
    rw [List.foldl_cons, ih, usages_addClass, List.map_cons, List.sum_cons, Int.add_assoc]

/-- A name is counted once for each time that a class has it among its dependencies. -/
theorem usages_ofClasses (classes : List Class) :
    (ofClasses classes).usages name = (classes.map (usesBy name)).sum := by
  rw [ofClasses, usages_foldl_addClass, usages_nil, Int.zero_add]

theorem usesBy_of_nodup {c : Class} (h : c.dependencies.Nodup) :
    usesBy name c = if name ∈ c.dependencies then 1 else 0 := by
  rw [usesBy, h.count]
  split <;> rfl

/-- Where no class records a name twice, a name is counted once for each class that depends on
it. -/
theorem usages_ofClasses_of_nodup {classes : List Class}
    (h : ∀ c ∈ classes, c.dependencies.Nodup) :
    (ofClasses classes).usages name = classes.countP (name ∈ ·.dependencies) := by
  rw [usages_ofClasses]
  induction classes with
  | nil => rfl
  | cons c classes ih =>
    have hrest : (classes.map (usesBy name)).sum = classes.countP (name ∈ ·.dependencies) :=
      ih fun d hd => h d (by simp [hd])
    rw [List.map_cons, List.sum_cons, hrest, List.countP_cons, usesBy_of_nodup name (h c (by simp))]
    by_cases hm : name ∈ c.dependencies
    · simp [hm]
      omega
    · simp [hm]

/-- One more class is counted rightly just if it records no name twice. -/
theorem usages_ofClasses_cons_iff {c : Class} {classes : List Class}
    (h : ∀ d ∈ classes, d.dependencies.Nodup) :
    (∀ name, (ofClasses (c :: classes)).usages name =
      (c :: classes).countP (name ∈ ·.dependencies)) ↔ c.dependencies.Nodup := by
  constructor
  · intro hall
    rw [List.nodup_iff_count]
    intro name
    have hc := hall name
    have hrest := usages_ofClasses_of_nodup name h
    rw [usages_ofClasses] at hc hrest
    rw [List.map_cons, List.sum_cons, hrest, List.countP_cons, usesBy] at hc
    split at hc <;> omega
  · intro hc name
    exact usages_ofClasses_of_nodup name (List.forall_mem_cons.2 ⟨hc, h⟩)

/-! ## Entries -/

/-- The names that classes mention: each its own, and then those of its dependencies. -/
def mentioned (classes : List Class) : List String :=
  classes.flatMap fun c => c.name :: c.dependencies

/-- The dependencies of classes, one after the other. -/
def used (classes : List Class) : List String := classes.flatMap (·.dependencies)

theorem usages_eq_count (classes : List Class) :
    (ofClasses classes).usages name = (used classes).count name := by
  rw [usages_ofClasses, used, List.count_flatMap]
  induction classes with
  | nil => rfl
  | cons c classes ih => simp [ih, usesBy]

/-- The names in the index, in its order. -/
def keys (index : Index) : List String := index.map (·.1)

theorem keys_mention : (index.mention name).keys = note index.keys name :=
  Keyed.keys_update_eq_note _ _ _

theorem keys_use : (index.use name).keys = note index.keys name := Keyed.keys_update_eq_note _ _ _

/-- A class notes its name, and then those of its dependencies. -/
theorem keys_addClass (c : Class) :
    (index.addClass c).keys = (c.name :: c.dependencies).foldl note index.keys := by
  rw [addClass, List.foldl_cons, ← keys_mention]
  generalize index.mention c.name = index
  induction c.dependencies generalizing index with
  | nil => rfl
  | cons n names ih => rw [List.foldl_cons, ih, keys_use, List.foldl_cons]

/-- **The names of the index are those that are mentioned, in the order of their first mention.** -/
theorem keys_ofClasses (classes : List Class) :
    (ofClasses classes).keys = (mentioned classes).eraseDups := by
  have h (index : Index) :
      (classes.foldl addClass index).keys = (mentioned classes).foldl note index.keys := by
    induction classes generalizing index with
    | nil => rfl
    | cons c classes ih =>
      rw [List.foldl_cons, ih, keys_addClass, ← List.foldl_append]
      rfl
  rw [ofClasses, h]
  exact foldl_note_nil _

theorem nodup_keys_ofClasses (classes : List Class) : (ofClasses classes).keys.Nodup := by
  rw [keys_ofClasses]
  exact nodup_eraseDups _

theorem lookup_of_mem_keys (h : name ∈ index.keys) :
    index.lookup name = some (index.usages name) := by
  cases hl : index.lookup name with
  | none => exact absurd h (Keyed.lookup_eq_none_iff.1 hl)
  | some n => rw [usages, hl, Option.getD_some]

theorem ofClasses_eq_map (classes : List Class) : ofClasses classes =
    (mentioned classes).eraseDups.map fun name => (name, ((used classes).count name : Int)) := by
  have hvalue : ∀ name ∈ (ofClasses classes).keys,
      (ofClasses classes).lookup name = some ((used classes).count name : Int) := by
    intro name hn
    rw [lookup_of_mem_keys _ _ hn, usages_eq_count]
  rw [← keys_ofClasses]
  exact Keyed.eq_map_of_nodup (nodup_keys_ofClasses classes) hvalue

/-! ## The sum of all uses -/

/-- The uses of all names. -/
def total (index : Index) : Int := (index.map (·.2)).sum

/-- An update adds what it changes. -/
theorem total_update (f : Option Int → Int) : total (Keyed.update name f index) =
    total index + (f (index.lookup name) - index.usages name) := by
  unfold total usages
  induction index with
  | nil => simp [Keyed.update]
  | cons entry index ih =>
    obtain ⟨n, uses⟩ := entry
    by_cases h : n = name
    · subst h
      simp [Keyed.update]
      omega
    · have hn : (name == n) = false := beq_false_of_ne (Ne.symm h)
      simp only [Keyed.update, h, if_false, List.map_cons, List.sum_cons, ih, List.lookup_cons, hn]
      omega

theorem total_mention : (index.mention name).total = index.total := by
  rw [mention, total_update, usages]
  omega

theorem total_use : (index.use name).total = index.total + 1 := by
  rw [use, total_update, usages]
  omega

theorem total_addClass (c : Class) :
    (index.addClass c).total = index.total + c.dependencies.length := by
  have h (names : List String) (index : Index) :
      (names.foldl (fun index name => index.use name) index).total = index.total + names.length := by
    induction names generalizing index with
    | nil => simp
    | cons n names ih =>
      rw [List.foldl_cons, ih, total_use, List.length_cons]
      omega
  rw [addClass, h, total_mention]

/-- The uses of all names are as many as the dependencies of all classes. -/
theorem total_ofClasses (classes : List Class) :
    (ofClasses classes).total = (used classes).length := by
  have h (index : Index) :
      (classes.foldl addClass index).total = index.total + (used classes).length := by
    induction classes generalizing index with
    | nil => simp [used]
    | cons c classes ih =>
      rw [List.foldl_cons, ih, total_addClass, used, used, List.flatMap_cons, List.length_append]
      omega
  rw [ofClasses, h]
  exact Int.zero_add _

/-! ## What there is in an index -/

/-- The index mentions what the classes do, and counts their uses. -/
structure Counts (classes : List Class) (index : Index) : Prop where
  /-- The names are those that are mentioned, in the order of their first mention. -/
  keys : index.keys = (mentioned classes).eraseDups
  once : index.keys.Nodup
  /-- A name is counted as often as it occurs among the dependencies of all classes. -/
  lookup : ∀ name ∈ mentioned classes, index.lookup name = some ((used classes).count name : Int)
  unknown : ∀ name ∉ mentioned classes, index.lookup name = none
  usages : ∀ name, index.usages name = (used classes).count name
  unused : ∀ c ∈ classes, c.name ∉ used classes → index.lookup c.name = some 0
  total : index.total = (used classes).length

theorem ofClasses_counts (classes : List Class) : Counts classes (ofClasses classes) where
  keys := keys_ofClasses classes
  once := nodup_keys_ofClasses classes
  lookup name hn := by
    have hk : name ∈ (ofClasses classes).keys := by
      rwa [keys_ofClasses, List.mem_eraseDups]
    rw [lookup_of_mem_keys _ _ hk, usages_eq_count]
  unknown name hn := by
    refine Keyed.lookup_eq_none_iff.2 fun hk => hn ?_
    rwa [← List.mem_eraseDups, ← keys_ofClasses]
  usages name := usages_eq_count name classes
  unused c hc hu := by
    have hk : c.name ∈ (ofClasses classes).keys := by
      rw [keys_ofClasses, List.mem_eraseDups]
      exact List.mem_flatMap.2 ⟨c, hc, List.mem_cons_self⟩
    rw [lookup_of_mem_keys _ _ hk, usages_eq_count, List.count_eq_zero_of_not_mem hu]
    rfl
  total := total_ofClasses classes

/-- The order of the classes shows in the order of the entries only. -/
theorem ofClasses_perm {classes others : List Class} (h : others.Perm classes) :
    (ofClasses others).Perm (ofClasses classes) := by
  have hmentioned : (mentioned others).eraseDups.Perm (mentioned classes).eraseDups := by
    rw [List.perm_ext_iff_of_nodup (nodup_eraseDups _) (nodup_eraseDups _)]
    intro name
    rw [List.mem_eraseDups, List.mem_eraseDups]
    exact (h.flatMap_right _).mem_iff
  have hcount (name : String) : (used others).count name = (used classes).count name :=
    (h.flatMap_right _).count_eq name
  rw [ofClasses_eq_map, ofClasses_eq_map]
  simp only [hcount]
  exact hmentioned.map _

theorem lookup_ofClasses_of_perm {classes others : List Class} (h : others.Perm classes)
    (name : String) : (ofClasses others).lookup name = (ofClasses classes).lookup name := by
  refine Option.ext fun n => ?_
  rw [Keyed.lookup_eq_some_iff (nodup_keys_ofClasses _),
    Keyed.lookup_eq_some_iff (nodup_keys_ofClasses _)]
  exact (ofClasses_perm h).mem_iff

end Cyclomatic.Index

namespace Cyclomatic.Project

/-- **The index of a project counts exactly.** Its names are those of the declared classes and of their
dependencies, each once, in the order of their first mention; a name is counted as often as it occurs
among the dependencies of all files, so the counts add up to their number. In another order of the
files, the entries are the same in another order. -/
theorem index_ofFiles (files : List SourceFile) :
    Index.Counts (files.map (·.declared)) (ofFiles files).index ∧
      ∀ others : List SourceFile, others.Perm files →
        (ofFiles others).index.Perm (ofFiles files).index ∧
          ∀ name, (ofFiles others).index.lookup name = (ofFiles files).index.lookup name := by
  refine ⟨Index.ofClasses_counts _, fun others h => ⟨?_, fun name => ?_⟩⟩
  · exact Index.ofClasses_perm (h.map _)
  · exact Index.lookup_ofClasses_of_perm (h.map _) name

/-- A file that declares a class with dependencies. -/
def declaring (name : String) (dependencies : List String) : SourceFile :=
  ⟨name ++ ".php", { name, dependencies }, 1, 0, []⟩

/-- A class that is used before it is declared, declared twice, and uses itself. -/
def usedBefore : List SourceFile := [declaring "B" ["A"], declaring "A" ["A"], declaring "A" []]

theorem index_ofFiles_of_usedBefore :
    usedBefore.reverse.Perm usedBefore ∧ (ofFiles usedBefore).index = [("B", 0), ("A", 2)] ∧
      (ofFiles usedBefore.reverse).index.Perm [("B", 0), ("A", 2)] := by
  have hp : usedBefore.reverse.Perm usedBefore := List.reverse_perm _
  have hindex : (ofFiles usedBefore).index = [("B", 0), ("A", 2)] := by decide
  refine ⟨hp, hindex, ?_⟩
  rw [← hindex]
  exact ((index_ofFiles usedBefore).2 _ hp).1

end Cyclomatic.Project
