import Cyclomatic.Project
import Cyclomatic.Text.Lowercase

/-!
# Search

Files are found by a part of their class's name; capital and small letters count as the same.
-/

set_option autoImplicit false

namespace Cyclomatic

/-- Whether `part` stands somewhere in `cs`. -/
def Text.hasPart (part : List Char) : List Char → Bool
  | [] => part.isEmpty
  | c :: rest => part.isPrefixOf (c :: rest) || hasPart part rest

/-- Whether a file's class has a name that contains the query. -/
def SourceFile.matches (query : String) (f : SourceFile) : Bool :=
  Text.hasPart (Text.lower query).toList (Text.lower f.declared.name).toList

/-- The files that a query finds; without a query, all. -/
def SourceFile.search (query? : Option String) (files : List SourceFile) : List SourceFile :=
  match query? with
  | none | some "" => files
  | some query => files.filter (·.matches query)

end Cyclomatic
