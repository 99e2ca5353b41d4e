import Cyclomatic.Token.Keyword

/-!
# Imports and full names

A file's namespace and its `use` statements decide what a type's name stands for. Built-in types and
names that start with a backslash stand for themselves, the last segment of an import stands for
the import, and every other name lies in the file's namespace.
-/

set_option autoImplicit false

namespace Cyclomatic.Reading

/-! ## Names -/

/-- The last segment of a name: what follows its last backslash. -/
def lastSegment (name : String) : String :=
  String.ofList (name.toList.reverse.takeWhile (· ≠ '\\')).reverse

/-- A name up to its last backslash, which is kept; empty if there is none. -/
def qualifier (name : String) : String :=
  String.ofList (name.toList.reverse.dropWhile (· ≠ '\\')).reverse

/-- Whether a name starts with a character. -/
def startsWith (name : String) (c : Char) : Bool := name.toList.head? == some c

/-! ## Imports -/

/-- A name imported under another one. -/
structure Alias where
  name : String
  /-- The name with its last segment replaced by the other one. -/
  path : String
  deriving DecidableEq, Repr

/-- What a file has declared about names so far. -/
structure Imports where
  base : String := ""
  /-- The imported names, each with its last segment replaced if it is imported under another. -/
  uses : List String := []
  /-- The names imported under another one. -/
  aliases : List Alias := []
  deriving DecidableEq, Repr

namespace Imports

/-- Imports a name. -/
def use (imports : Imports) (name : String) : Imports :=
  { imports with uses := imports.uses ++ [name] }

/-- Imports a name under another one. -/
def useAs (imports : Imports) (name other : String) : Imports :=
  let path := qualifier name ++ other
  { imports with
    uses := imports.uses ++ [path]
    aliases := imports.aliases ++ [⟨name, path⟩] }

/-- The name in the file's namespace. -/
def inNamespace (imports : Imports) (name : String) : String := imports.base ++ "\\" ++ name

/-- What a token stands for as the name of a type. -/
def resolve (imports : Imports) (t : Token) : String :=
  if t.isBuiltInType || startsWith t.lexeme '\\' then t.lexeme
  else
    match imports.uses.find? (lastSegment · == t.lexeme) with
    | some use => use
    | none => imports.inNamespace t.lexeme

/-- The type that a token names, if it names one that is not part of the language. -/
def type? (imports : Imports) (t : Token) : Option String :=
  if t.isIdentifier && !startsWith t.lexeme '$' && !t.isBuiltInType && t.keyword?.isNone then
    some (imports.resolve t)
  else none

/-! ## Real names -/

/-- Puts the imported name for each path made up for an alias, alias after alias. -/
def realNames (imports : Imports) (names : List String) : List String :=
  imports.aliases.foldl
    (fun names a => names.map fun name => if name = a.path then a.name else name) names

/-- The imported name, if the name is a path made up for an alias. -/
def realName (imports : Imports) (name : String) : String :=
  imports.aliases.foldl (fun name a => if name = a.path then a.name else name) name

end Imports

end Cyclomatic.Reading
