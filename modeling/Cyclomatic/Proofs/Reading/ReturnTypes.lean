import Cyclomatic.Proofs.Reading.ImportOrder
import Cyclomatic.Proofs.Reading.Origins

/-!
# Return types and dependencies

While a class is read, what its methods return is always among its dependencies
(`returned_subset_classBody`). Completing the class puts real names for the dependencies and for the
parent, but not for the return types: a return type that is the path made up for an alias stays that
path, and the dependency has the imported name in its place.

So a return type is a dependency just if it is a real name (`returned_of_file`), and the classes that
methods return are all known by their real names.
-/

set_option autoImplicit false

namespace Cyclomatic

/-- The names that the methods of a class return and that can be dependencies. -/
def Class.returned (c : Class) : List String :=
  (c.methods.filterMap Method.returnType?).filter isDependencyName

namespace Reading

/-! ## While a class is read -/

variable {imports : Imports} {c : Class} {name : String}

theorem mem_returned : name ∈ c.returned ↔
    (∃ f ∈ c.methods, f.returnType? = some name) ∧ Class.isDependencyName name = true := by
  rw [Class.returned, List.mem_filter, List.mem_filterMap]

theorem returned_subset_addTo (m : Member) (h : c.returned ⊆ c.dependencies) :
    (m.addTo c).returned ⊆ (m.addTo c).dependencies := by
  intro name hn
  obtain ⟨⟨f, hf, hr⟩, hcap⟩ := mem_returned.1 hn
  rw [methods_addTo, List.mem_append, Option.mem_toList] at hf
  rw [dependencies_addTo, Class.mem_foldl_offer]
  rcases hf with hold | hnew
  · exact .inl (h (mem_returned.2 ⟨⟨f, hold, hr⟩, hcap⟩))
  · have hoffered : name ∈ m.offered := by
      rw [Member.offered, Option.mem_def.1 hnew, Option.bind_some, hr]
      simp
    exact .inr ⟨hoffered, hcap⟩

theorem returned_subset_foldl_addTo (ms : List Member) (h : c.returned ⊆ c.dependencies) :
    (ms.foldl Member.addTo c).returned ⊆ (ms.foldl Member.addTo c).dependencies := by
  induction ms generalizing c with
  | nil => exact h
  | cons m ms ih => exact ih (returned_subset_addTo m h)

/-- **Before a class is completed, what its methods return is among its dependencies.** -/
theorem returned_subset_classBody {isAbstract : Bool} {tape rest : Tape}
    (h : classBody imports isAbstract tape = .ok c rest) : c.returned ⊆ c.dependencies := by
  obtain ⟨name, _, -, h⟩ := bind_eq_ok h
  obtain ⟨parent?, _, -, h⟩ := bind_eq_ok h
  obtain ⟨interfaces, _, -, h⟩ := bind_eq_ok h
  obtain ⟨outside, _, -, h⟩ := bind_eq_ok h
  obtain ⟨opening, _, -, h⟩ := bind_eq_ok h
  obtain ⟨members, _, -, h⟩ := bind_eq_ok h
  cases h
  exact returned_subset_foldl_addTo members (List.nil_subset _)

/-! ## Completing a class -/

theorem mem_returned_complete : name ∈ (complete imports c).returned ↔ name ∈ c.returned := by
  simp only [mem_returned, mem_methods_complete]

theorem realName_mem_dependencies (h : c.returned ⊆ c.dependencies)
    (hn : name ∈ (complete imports c).returned) :
    imports.realName name ∈ (complete imports c).dependencies := by
  have hrecorded : name ∈ recorded imports c :=
    Class.mem_foldl_offer.2 (.inl (h (mem_returned_complete.1 hn)))
  rw [complete_eq]
  exact List.mem_map_of_mem hrecorded

theorem isReal_of_mem_dependencies (hu : imports.Unchained)
    (hn : name ∈ (complete imports c).dependencies) : imports.IsReal name := by
  rw [complete_eq] at hn
  obtain ⟨other, -, rfl⟩ := List.mem_map.1 hn
  exact Imports.isReal_realName hu other

theorem isReal_of_parent? (hu : imports.Unchained) (hn : (complete imports c).parent? = some name) :
    imports.IsReal name := by
  rw [complete_eq] at hn
  obtain ⟨other, -, rfl⟩ := Option.map_eq_some_iff.1 hn
  exact Imports.isReal_realName hu other

/-- The imports that a file ends with have the path of each alias among them. -/
theorem traced_of_file {tokens : List Token} {state : State} {class? : Option Class}
    (h : file tokens = .ok class? state) : state.imports.Traced := by
  obtain ⟨ds, hds⟩ := exists_importsOf ⟨tokens, []⟩
  have himports : state.imports = declareAll ds {} := by
    rw [← hds, show fileFrom ⟨⟨tokens, []⟩, {}⟩ = .ok class? state from h]
    rfl
  rw [himports]
  exact traced_declareAll ds (List.Sublist.refl [])

/-- **The classes that methods return are dependencies under their real names.** A return type that is
a real name is one itself. Where no import is chained to another, the dependencies and the parent are
real names, so that no other return type is a dependency: the path made up for an alias is not, and
what is imported is in its place. -/
theorem returned_of_file {tokens : List Token} {state : State}
    (h : file tokens = .ok (some c) state) :
    (∀ name ∈ c.returned, state.imports.realName name ∈ c.dependencies) ∧
      (∀ name ∈ c.returned, state.imports.IsReal name → name ∈ c.dependencies) ∧
      (state.imports.aliases = [] →
        ∀ name ∈ c.returned, name ∈ c.dependencies ∧ state.imports.IsReal name) ∧
      (state.imports.Unchained →
        (∀ name ∈ c.dependencies, state.imports.IsReal name) ∧
        (∀ name, c.parent? = some name → state.imports.IsReal name) ∧
        (∀ name ∈ c.returned, name ∈ c.dependencies ↔ state.imports.IsReal name) ∧
        (state.imports.Distinct → ∀ a ∈ state.imports.aliases, a.path ∈ c.returned →
          a.name ∈ c.dependencies ∧ (a.path ∈ c.dependencies ↔ a.name = a.path))) := by
  obtain ⟨isAbstract, tape, d, hd, rfl⟩ := fileFrom_eq_class h
  have hreal : ∀ name ∈ (complete state.imports d).returned,
      state.imports.realName name ∈ (complete state.imports d).dependencies :=
    fun name hn => realName_mem_dependencies (returned_subset_classBody hd) hn
  have hown : ∀ name ∈ (complete state.imports d).returned, state.imports.IsReal name →
      name ∈ (complete state.imports d).dependencies := by
    intro name hn hr
    have hmem := hreal name hn
    rwa [hr.realName_eq] at hmem
  refine ⟨hreal, hown, fun ha name hn => ?_, fun hu => ?_⟩
  · have hr := Imports.isReal_of_no_alias ha name
    exact ⟨hown name hn hr, hr⟩
  have hiff : ∀ name ∈ (complete state.imports d).returned,
      name ∈ (complete state.imports d).dependencies ↔ state.imports.IsReal name :=
    fun name hn => ⟨isReal_of_mem_dependencies hu, hown name hn⟩
  refine ⟨fun name => isReal_of_mem_dependencies hu, fun name => isReal_of_parent? hu, hiff,
    fun hdistinct a ha hn => ?_⟩
  have hpath := Imports.realName_path hdistinct (traced_of_file h) hu ha
  refine ⟨hpath ▸ hreal a.path hn, (hiff a.path hn).trans ⟨fun hr => hr a ha rfl, fun heq => ?_⟩⟩
  -- the paths of aliases are distinct, so that no other alias makes the path up
  intro b hb hab
  rw [← List.inj_on_of_nodup_map ((traced_of_file h).nodup_paths hdistinct) ha hb hab]
  exact heq

/-- `<?php namespace N; use A\B as C; class K { function f(): T {} }`. -/
def returning (type : String) : List Token :=
  [⟨.phpTag, 1, "<?php"⟩, ⟨.identifier, 1, "namespace"⟩, ⟨.identifier, 1, "N"⟩,
    ⟨.semicolon, 1, ";"⟩, ⟨.identifier, 1, "use"⟩, ⟨.identifier, 1, "A\\B"⟩,
    ⟨.identifier, 1, "as"⟩, ⟨.identifier, 1, "C"⟩, ⟨.semicolon, 1, ";"⟩,
    ⟨.identifier, 1, "class"⟩, ⟨.identifier, 1, "K"⟩, ⟨.leftBrace, 1, "\x7b"⟩,
    ⟨.identifier, 1, "function"⟩, ⟨.identifier, 1, "f"⟩, ⟨.leftParen, 1, "("⟩,
    ⟨.rightParen, 1, ")"⟩, ⟨.colon, 1, ":"⟩, ⟨.identifier, 1, type⟩, ⟨.leftBrace, 1, "\x7b"⟩,
    ⟨.rightBrace, 1, "\x7d"⟩, ⟨.rightBrace, 1, "\x7d"⟩]

theorem returned_of_file_of_plain :
    ∃ c state, file (returning "T") = .ok (some c) state ∧ c.returned = ["N\\T"] ∧
      state.imports.Unchained ∧ state.imports.Distinct ∧
      ("N\\T" ∈ c.dependencies ↔ state.imports.IsReal "N\\T") := by
  have h : (classRead? (file (returning "T"))).map (fun r => (r.1.returned, r.2.imports)) =
      some (["N\\T"], { base := "N", uses := ["A\\C"], aliases := [⟨"A\\B", "A\\C"⟩] }) := by
    decide +kernel
  obtain ⟨⟨c, state⟩, hread, hpair⟩ := Option.map_eq_some_iff.1 h
  obtain ⟨hreturned, himports⟩ := Prod.mk.inj hpair
  have hu : state.imports.Unchained := by
    rw [himports]
    decide
  have hd : state.imports.Distinct := by
    rw [himports]
    decide
  obtain ⟨-, -, -, hall⟩ := returned_of_file (eq_of_classRead? hread)
  have hmem : "N\\T" ∈ c.returned := by simp [hreturned]
  exact ⟨c, state, eq_of_classRead? hread, hreturned, hu, hd, (hall hu).2.2.1 _ hmem⟩

/-- A method that returns a class by its alias returns a name that is no dependency. -/
theorem not_forall_returned_mem_dependencies :
    ¬ ∀ (tokens : List Token) (c : Class) (state : State), file tokens = .ok (some c) state →
      ∀ f ∈ c.methods, ∀ name, f.returnType? = some name → Class.isDependencyName name = true →
        name ∈ c.dependencies ∧ state.imports.IsReal name := by
  intro hall
  have h : (classRead? (file (returning "C"))).map
      (fun r => (r.1.returned, r.1.dependencies)) = some (["A\\C"], ["A\\B"]) := by
    decide +kernel
  obtain ⟨⟨c, state⟩, hread, hpair⟩ := Option.map_eq_some_iff.1 h
  obtain ⟨hreturned, hdependencies⟩ := Prod.mk.inj hpair
  have hmem : "A\\C" ∈ c.returned := by simp [hreturned]
  obtain ⟨⟨f, hf, hr⟩, hcap⟩ := mem_returned.1 hmem
  have hdependency := (hall _ c state (eq_of_classRead? hread) f hf _ hr hcap).1
  rw [hdependencies] at hdependency
  exact absurd hdependency (by decide)

end Reading

end Cyclomatic
