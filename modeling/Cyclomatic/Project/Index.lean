import Cyclomatic.Class
import Cyclomatic.Keyed

/-!
# The index of uses

For each class that a project declares or mentions, how many declared classes depend on it. Names
stand in the order in which they are first met.
-/

set_option autoImplicit false

namespace Cyclomatic

/-- Names of classes with the number of their uses. -/
abbrev Index := List (String × Int)

namespace Index

/-- Notes that a class is there; a new one has no uses. -/
def mention (name : String) (index : Index) : Index := Keyed.update name (·.getD 0) index

/-- Counts one more use of a class. -/
def use (name : String) (index : Index) : Index := Keyed.update name (·.getD 0 + 1) index

/-- Notes a class and counts the uses that it makes of others. -/
def addClass (index : Index) (c : Class) : Index :=
  c.dependencies.foldl (fun index name => index.use name) (index.mention c.name)

/-- The index of the uses that classes make of each other. -/
def ofClasses (classes : List Class) : Index := classes.foldl addClass []

/-- How often a class is used; never, if the index does not know it. -/
def usages (index : Index) (name : String) : Int := (index.lookup name).getD 0

end Index

end Cyclomatic
