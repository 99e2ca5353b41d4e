import Cyclomatic.Proofs.Project.Index
import Cyclomatic.Proofs.Reading.Completion
import Cyclomatic.Proofs.Reading.Imports

/-!
# Real names of dependencies

The names that a class records are clean: none stands twice, and all start with a capital. Its
dependencies are their real names, and those need not be clean, since no offer checks them.
`dependencies_of_file` says when they are: if real names tell the recorded names apart, and imports
under another name start with a capital themselves; in particular if there is no such import. Else
a class may record the real name by another way, too (`not_forall_nodup_dependencies`).
-/

set_option autoImplicit false

namespace Cyclomatic.Reading

theorem isDependencyName_realName {imports : Imports} {name : String}
    (hn : Class.isDependencyName name = true)
    (ha : ∀ a ∈ imports.aliases, Class.isDependencyName a.name = true) :
    Class.isDependencyName (imports.realName name) = true := by
  rw [Imports.realName]
  generalize imports.aliases = aliases at ha
  induction aliases generalizing name with
  | nil => exact hn
  | cons a aliases ih =>
    have hstep : Class.isDependencyName (if name = a.path then a.name else name) = true := by
      split
      · exact ha a (by simp)
      · exact hn
    exact ih hstep fun b hb => ha b (List.mem_cons_of_mem a hb)

/-- **The dependencies of a class that is read** are the real names of a clean list. None stands
twice just if these names have different real names; then, and only then, the class is counted
rightly in the index of a project where that is so of all other classes. They start with a capital
if what is imported under another name does. -/
theorem dependencies_of_file {tokens : List Token} {c : Class} {rest : State}
    (h : file tokens = .ok (some c) rest) :
    ∃ names, Class.Clean names ∧ c.dependencies = names.map rest.imports.realName ∧
      (c.dependencies.Nodup ↔ ∀ a ∈ names, ∀ b ∈ names,
        rest.imports.realName a = rest.imports.realName b → a = b) ∧
      ((∀ a ∈ rest.imports.aliases, Class.isDependencyName a.name = true) →
        ∀ name ∈ c.dependencies, Class.isDependencyName name = true) ∧
      (rest.imports.aliases = [] → c.dependencies = names) ∧
      ∀ others : List Class, (∀ d ∈ others, d.dependencies.Nodup) →
        ((∀ name, (Index.ofClasses (c :: others)).usages name =
          (c :: others).countP (name ∈ ·.dependencies)) ↔ c.dependencies.Nodup) := by
  obtain ⟨isAbstract, tape, d, hd, rfl⟩ := fileFrom_eq_class h
  have hclean : Class.Clean (recorded rest.imports d) := (clean_classBody hd).foldl_offer _
  have hmap : (complete rest.imports d).dependencies =
      (recorded rest.imports d).map rest.imports.realName := by
    rw [complete_eq]
  refine ⟨recorded rest.imports d, hclean, hmap, ?_, fun ha name hn => ?_, fun ha => ?_,
    fun others ho => ?_⟩
  · rw [hmap, List.nodup_map_iff_inj_on hclean.nodup]
  · rw [hmap] at hn
    obtain ⟨other, ho, rfl⟩ := List.mem_map.1 hn
    exact isDependencyName_realName (hclean.capital other ho) ha
  · rw [hmap, funext (Imports.realName_of_no_alias ha)]
    exact List.map_id _
  · exact Index.usages_ofClasses_cons_iff ho

/-- `<?php namespace App; use App\Model as Base; class User { public T $m; }`. -/
def userOf (type : String) : List Token :=
  [⟨.phpTag, 1, "<?php"⟩, ⟨.identifier, 1, "namespace"⟩, ⟨.identifier, 1, "App"⟩,
    ⟨.semicolon, 1, ";"⟩, ⟨.identifier, 1, "use"⟩, ⟨.identifier, 1, "App\\Model"⟩,
    ⟨.identifier, 1, "as"⟩, ⟨.identifier, 1, "Base"⟩, ⟨.semicolon, 1, ";"⟩,
    ⟨.identifier, 1, "class"⟩, ⟨.identifier, 1, "User"⟩, ⟨.leftBrace, 1, "\x7b"⟩,
    ⟨.identifier, 1, "public"⟩, ⟨.identifier, 1, type⟩, ⟨.identifier, 1, "$m"⟩,
    ⟨.semicolon, 1, ";"⟩, ⟨.rightBrace, 1, "\x7d"⟩]

theorem dependencies_of_file_of_alias :
    ∃ c rest, file (userOf "Base") = .ok (some c) rest ∧ c.dependencies = ["App\\Model"] ∧
      ∃ names, Class.Clean names ∧ c.dependencies = names.map rest.imports.realName := by
  have h : (classRead? (file (userOf "Base"))).map (·.1.dependencies) = some ["App\\Model"] := by
    decide +kernel
  obtain ⟨⟨c, rest⟩, hr, hd⟩ := Option.map_eq_some_iff.1 h
  obtain ⟨names, hn, hm, -⟩ := dependencies_of_file (eq_of_classRead? hr)
  exact ⟨c, rest, eq_of_classRead? hr, hd, names, hn, hm⟩

/-- A class that names a type by its alias and by its own name depends on it twice. -/
theorem not_forall_nodup_dependencies :
    ¬ ∀ (tokens : List Token) (c : Class) (rest : State), file tokens = .ok (some c) rest →
      c.dependencies.Nodup := by
  intro hall
  have h : (classRead? (file (userOf "Model"))).map (·.1.dependencies) =
      some ["App\\Model", "App\\Model"] := by decide +kernel
  obtain ⟨⟨c, rest⟩, hr, hd⟩ := Option.map_eq_some_iff.1 h
  have hn : c.dependencies.Nodup := hall _ c rest (eq_of_classRead? hr)
  rw [hd] at hn
  exact absurd hn (by decide)

end Cyclomatic.Reading
