import Cyclomatic.Proofs.Class.Dependencies

/-!
# How classes grow

A class grows by dependencies and by methods, whose return types are dependencies. What one step
does is said by `grow_eq`. However the steps are mixed (`foldl_grow`), the dependencies are what
comes of the names that the steps offer, one after the other, and the methods are put one behind the
other. So dependencies that stand once stay so, and none that is there is taken away or moved
(`foldl_grow_nodup`).
-/

set_option autoImplicit false

namespace Cyclomatic.Class

theorem foldl_addDependency (names : List String) (c : Class) :
    names.foldl addDependency c =
      { c with dependencies := names.foldl offer c.dependencies } := by
  induction names generalizing c with
  | nil => rfl
  | cons name names ih => exact ih (c.addDependency name)

theorem addMethod_eq (c : Class) (m : Method) :
    c.addMethod m = { c with
      dependencies := m.returnType?.toList.foldl offer c.dependencies
      methods := c.methods ++ [m] } := by
  cases hr : m.returnType? <;> simp [addMethod, addDependency, hr]

/-! ## Steps -/

/-- A step in which a class grows. -/
inductive Growth where
  | dependency (name : String)
  | method (m : Method)
  deriving Repr

/-- The names that a step offers as dependencies. -/
def Growth.offered : Growth → List String
  | dependency name => [name]
  | method m => m.returnType?.toList

/-- The method that a step adds. -/
def Growth.method? : Growth → Option Method
  | dependency _ => none
  | method m => some m

/-- Lets a class grow by a step. -/
def grow (c : Class) : Growth → Class
  | .dependency name => c.addDependency name
  | .method m => c.addMethod m

theorem grow_eq (c : Class) (step : Growth) :
    c.grow step = { c with
      dependencies := step.offered.foldl offer c.dependencies
      methods := c.methods ++ step.method?.toList } := by
  cases step with
  | dependency name => simp [grow, addDependency, Growth.offered, Growth.method?]
  | method m => exact addMethod_eq c m

/-- Steps change the dependencies and the methods alone. -/
theorem foldl_grow (c : Class) (steps : List Growth) :
    steps.foldl grow c = { c with
      dependencies := (steps.flatMap Growth.offered).foldl offer c.dependencies
      methods := c.methods ++ steps.filterMap Growth.method? } := by
  induction steps generalizing c with
  | nil => simp
  | cons step steps ih =>
    rw [List.foldl_cons, ih, grow_eq, List.flatMap_cons, List.foldl_append]
    cases hm : step.method? <;> simp [hm]

/-- Dependencies that are there stay at their places. -/
theorem prefix_foldl_grow (c : Class) (steps : List Growth) :
    c.dependencies <+: (steps.foldl grow c).dependencies := by
  rw [foldl_grow, foldl_offer]
  exact List.prefix_append _ _

/-- **How a class grows.** Whatever the steps, the dependencies that stand once are followed by the
names that are offered, start with a capital and are not there, each at the place of its first
offer, and the methods by those that are added. No name stands twice, and all that is recorded after
some of the steps stays at its place. -/
theorem foldl_grow_nodup (c : Class) (hc : c.dependencies.Nodup) (steps : List Growth) :
    steps.foldl grow c = { c with
      dependencies := c.dependencies ++
        (((steps.flatMap Growth.offered).filter isDependencyName).removeAll
          c.dependencies).eraseDups
      methods := c.methods ++ steps.filterMap Growth.method? } ∧
    (steps.foldl grow c).dependencies.Nodup ∧
    ∀ n : Nat, ((steps.take n).foldl grow c).dependencies <+:
      (steps.foldl grow c).dependencies := by
  refine ⟨?_, ?_, fun n => ?_⟩
  · rw [foldl_grow, foldl_offer]
  · rw [foldl_grow]
    exact nodup_foldl_offer hc _
  · have hlater := prefix_foldl_grow ((steps.take n).foldl grow c) (steps.drop n)
    rwa [← List.foldl_append, List.take_append_drop] at hlater

/-- A class that depends on `A\B` already. -/
def dependentOnB : Class := { name := "K", dependencies := ["A\\B"] }

/-- Names that are empty, small, there already and offered twice, by methods too. -/
def mixedSteps : List Growth :=
  [.dependency "", .method { name := "f", returnType? := some "Ωm" }, .dependency "A\\B",
    .dependency "c", .method { name := "g" }, .dependency "C", .dependency "Ωm",
    .method { name := "h", returnType? := some "C" }]

theorem foldl_grow_nodup_of_mixedSteps :
    dependentOnB.dependencies.Nodup ∧
      (mixedSteps.foldl grow dependentOnB).dependencies = ["A\\B", "Ωm", "C"] ∧
      (mixedSteps.foldl grow dependentOnB).methods.map (·.name) = ["f", "g", "h"] := by
  have hc : dependentOnB.dependencies.Nodup := by decide
  have h := (foldl_grow_nodup dependentOnB hc mixedSteps).1
  refine ⟨hc, ?_, ?_⟩
  · rw [h]
    decide +kernel
  · rw [h]
    rfl

end Cyclomatic.Class
