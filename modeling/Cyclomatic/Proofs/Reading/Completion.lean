import Cyclomatic.Proofs.Class.Growth
import Cyclomatic.Proofs.Reading.TopLevel

/-!
# What completes a class

Reading a class has two parts. `classBody` reads its own text: what its members offer is recorded
(`dependencies_foldl_addTo`). Then `complete` adds the imports and puts real names for the paths that
were made up for aliases. A file with a class ends right there, with the imports that complete it
(`fileFrom_eq_class`).
-/

set_option autoImplicit false

namespace Cyclomatic.Reading

/-! ## Members -/

/-- The names that a member offers its class, in order: its types, then what its method returns. -/
def Member.offered (m : Member) : List String :=
  m.types ++ (m.method?.bind Method.returnType?).toList

/-- A member adds what it offers and its method. -/
theorem addTo_eq (c : Class) (m : Member) :
    m.addTo c = { c with
      dependencies := m.offered.foldl Class.offer c.dependencies
      methods := c.methods ++ m.method?.toList } := by
  rw [Member.addTo, Class.foldl_addDependency, Member.offered, List.foldl_append]
  cases m.method? with
  | none => simp
  | some f => exact Class.addMethod_eq _ f

theorem dependencies_addTo (c : Class) (m : Member) :
    (m.addTo c).dependencies = m.offered.foldl Class.offer c.dependencies := by
  rw [addTo_eq]

theorem dependencies_foldl_addTo (ms : List Member) (c : Class) :
    (ms.foldl Member.addTo c).dependencies =
      (ms.flatMap Member.offered).foldl Class.offer c.dependencies := by
  induction ms generalizing c with
  | nil => rfl
  | cons m ms ih =>
    rw [List.foldl_cons, ih, dependencies_addTo, List.flatMap_cons, List.foldl_append]

/-! ## Classes -/

/-- Reads a class without completing it. -/
def classBody (imports : Imports) (isAbstract : Bool) : Read Class := do
  let name ← next
  let parent? ← parent imports
  let interfaces ← interfaces
  let outside ← depth
  let _ ← next
  let members ← members imports outside
  let declared : Class :=
    { name := imports.inNamespace name.lexeme, parent?, interfaces, isAbstract }
  pure (members.foldl Member.addTo declared)

theorem classDeclaration_eq (imports : Imports) (isAbstract : Bool) :
    classDeclaration imports isAbstract = complete imports <$> classBody imports isAbstract := by
  simp only [classDeclaration, classBody, map_bind, map_pure]

/-- The names that are recorded of a class, before real names are put. -/
def recorded (imports : Imports) (c : Class) : List String :=
  imports.uses.foldl Class.offer c.dependencies

/-- Real names are put for one name after the other. -/
theorem realNames_eq_map (imports : Imports) (names : List String) :
    imports.realNames names = names.map imports.realName := by
  have h (aliases : List Alias) : ∀ names : List String,
      aliases.foldl (fun names a => names.map fun name => if name = a.path then a.name else name)
        names = names.map fun name =>
          aliases.foldl (fun name a => if name = a.path then a.name else name) name := by
    induction aliases with
    | nil => simp
    | cons a aliases ih =>
      intro names
      rw [List.foldl_cons, ih, List.map_map]
      rfl
  exact h imports.aliases names

/-- What completing changes: the dependencies, the parent and the order of the methods. -/
theorem complete_eq (imports : Imports) (c : Class) :
    complete imports c =
      { c with
        dependencies := (recorded imports c).map imports.realName
        parent? := c.parent?.map imports.realName
        methods := c.methods.mergeSort fun a b => b.complexity ≤ a.complexity } := by
  rw [complete, Class.foldl_addDependency, ← realNames_eq_map]
  rfl

theorem clean_classBody {imports : Imports} {isAbstract : Bool} {tape rest : Tape} {c : Class}
    (h : classBody imports isAbstract tape = .ok c rest) : Class.Clean c.dependencies := by
  obtain ⟨name, _, -, h⟩ := bind_eq_ok h
  obtain ⟨parent?, _, -, h⟩ := bind_eq_ok h
  obtain ⟨interfaces, _, -, h⟩ := bind_eq_ok h
  obtain ⟨outside, _, -, h⟩ := bind_eq_ok h
  obtain ⟨opening, _, -, h⟩ := bind_eq_ok h
  obtain ⟨members, _, -, h⟩ := bind_eq_ok h
  cases h
  rw [dependencies_foldl_addTo]
  exact Class.clean_nil.foldl_offer _

/-! ## Files -/

theorem onTape_eq_ok {α : Type} {step : Read α} {state rest : State} {a : α}
    (h : onTape step state = .ok a rest) :
    step state.tape = .ok a rest.tape ∧ rest.imports = state.imports := by
  unfold onTape at h
  split at h
  · rename_i hs
    cases h
    exact ⟨hs, rfl⟩
  · cases h

/-- A class of a file: its own text is read with the imports that the file ends with, and then it is
completed with them. -/
def Completes (rest : State) (c : Class) : Prop :=
  ∃ isAbstract tape d, classBody rest.imports isAbstract tape = .ok d rest.tape ∧
    c = complete rest.imports d

theorem fileFrom_eq_class {state rest : State} {c : Class}
    (h : fileFrom state = .ok (some c) rest) : Completes rest c := by
  cases fileFrom_outcome state.tape with
  | fails ds fault tape hr => cases h.symm.trans (hr state.imports)
  | ends ds tape hr => cases h.symm.trans (hr state.imports)
  | starts ds isAbstract tape hr =>
    have hread := (hr state.imports).symm.trans h
    rw [map_eq_pure_bind] at hread
    obtain ⟨_, _, hd, hread⟩ := bind_eq_ok hread
    cases hread
    obtain ⟨hd, hi⟩ := onTape_eq_ok hd
    rw [classDeclaration_eq, map_eq_pure_bind] at hd
    obtain ⟨d, _, hb, hd⟩ := bind_eq_ok hd
    cases hd
    have hi : rest.imports = declareAll ds state.imports := hi
    rw [Completes, hi]
    exact ⟨isAbstract, tape, d, hb, rfl⟩

end Cyclomatic.Reading
