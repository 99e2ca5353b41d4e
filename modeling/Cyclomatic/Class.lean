import Cyclomatic.Class.Method
import Cyclomatic.Metric
import Cyclomatic.Text.Uppercase

/-!
# Classes

A class or trait with the classes that it depends on, and its metrics. `addDependency` and
`addMethod` are the only ways in which a class grows: a dependency is recorded once, in the order
in which it is first offered, and only if its name starts with a capital.
-/

set_option autoImplicit false

namespace Cyclomatic

/-- A class or trait. -/
structure Class where
  /-- Its name, with the namespace in front. -/
  name : String := ""
  methods : List Method := []
  /-- The class that it extends. -/
  parent? : Option String := none
  interfaces : List String := []
  isAbstract : Bool := false
  /-- The full names of the classes that it depends on. -/
  dependencies : List String := []
  deriving Repr

namespace Class

/-! ## Growth -/

/-- Whether a name can be a dependency: names that start with a capital can. -/
def isDependencyName (name : String) : Bool := name.toList.head?.any Text.isUppercase

/-- Records a dependency at the end, unless it is there or its name is no dependency's. -/
def offer (dependencies : List String) (name : String) : List String :=
  if isDependencyName name && !dependencies.contains name then dependencies ++ [name]
  else dependencies

/-- Records a dependency. -/
def addDependency (c : Class) (name : String) : Class :=
  { c with dependencies := offer c.dependencies name }

/-- Adds a method; its return type becomes a dependency first. -/
def addMethod (c : Class) (m : Method) : Class :=
  let c := match m.returnType? with
    | some type => c.addDependency type
    | none => c
  { c with methods := c.methods ++ [m] }

/-! ## Metrics -/

/-- The complexity of the most complex method; zero without methods. -/
def highestComplexity (c : Class) : Int := (c.methods.map Method.complexity).max?.getD 0

/-- The methods that count for the average: all but constructors. -/
def measured (c : Class) : List Method := c.methods.filter (!·.isConstructor)

/-- The average complexity of the methods that count; zero if none does. -/
def averageComplexity (c : Class) : Except MetricError Double :=
  metric (Method.complexityOfAll c.measured) (max c.measured.length 1)

end Class

end Cyclomatic
