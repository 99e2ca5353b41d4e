import Cyclomatic.Project.Index
import Cyclomatic.Token.Profile

/-!
# Projects

The result of a scan: the files that declare a class, the index of uses, and the files that were
skipped because they could not be read as source text.
-/

set_option autoImplicit false

namespace Cyclomatic

/-- A scanned file with the class that it declares. -/
structure SourceFile where
  path : String
  declared : Class
  /-- How many lines it has, up to the last token. -/
  lines : Int
  /-- How many hours ago it was read last. -/
  hours : Int
  /-- The tokens in it. -/
  profile : Token.Profile
  deriving Repr

/-- How many tokens the file has. -/
def SourceFile.tokenCount (f : SourceFile) : Int := f.profile.total

/-- A scanned project. -/
structure Project where
  /-- The files that declare a class. -/
  files : List SourceFile
  /-- How often each class is used. -/
  index : Index
  skipped : List String := []
  deriving Repr

namespace Project

/-- The project of the given files. -/
def ofFiles (files : List SourceFile) : Project :=
  { files, index := .ofClasses (files.map (·.declared)) }

/-- How often a class is used in the project. -/
def usages (p : Project) (name : String) : Int := p.index.usages name

/-- The sizes of a project. -/
structure Summary where
  /-- How many files declare a class. -/
  files : Nat
  skipped : Nat
  /-- How many classes the index knows. -/
  classes : Nat
  deriving DecidableEq, Repr

/-- The sizes of the project. -/
def summary (p : Project) : Summary := ⟨p.files.length, p.skipped.length, p.index.length⟩

end Project

end Cyclomatic
