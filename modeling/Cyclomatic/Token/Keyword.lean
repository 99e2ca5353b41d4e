import Cyclomatic.Token

/-!
# Keywords

The identifiers with a meaning of their own. Keywords are case sensitive, and `true` and `false`
count as the type `bool`. Built-in types are listed apart: some of them are no keywords, and they
are never dependencies of a class.
-/

set_option autoImplicit false

namespace Cyclomatic

/-- Who may use a method. -/
inductive Visibility where
  | public_ | private_ | protected_
  deriving DecidableEq, Repr

/-- The word for a visibility. -/
def Visibility.word : Visibility → String
  | .public_ => "public"
  | .private_ => "private"
  | .protected_ => "protected"

/-- The visibility that a word stands for. -/
def Visibility.ofWord? (word : String) : Option Visibility :=
  [Visibility.public_, .private_, .protected_].find? (·.word == word)

/-- The keywords; each constructor is the keyword's spelling and an underscore. -/
inductive Keyword where
  | if_ | elseif_ | for_ | foreach_ | match_ | switch_ | while_ | case_ | namespace_ | class_
  | function_ | throw_ | catch_ | extends_ | abstract_ | use_ | as_ | public_ | private_
  | protected_ | const_ | static_ | iterable_ | string_ | array_ | int_ | float_ | bool_ | self_
  | void_ | readonly_ | mixed_ | implements_ | trait_
  deriving DecidableEq, Repr

namespace Keyword

/-- Every keyword. -/
def all : List Keyword :=
  [.if_, .elseif_, .for_, .foreach_, .match_, .switch_, .while_, .case_, .namespace_, .class_,
   .function_, .throw_, .catch_, .extends_, .abstract_, .use_, .as_, .public_, .private_,
   .protected_, .const_, .static_, .iterable_, .string_, .array_, .int_, .float_, .bool_, .self_,
   .void_, .readonly_, .mixed_, .implements_, .trait_]

/-- How a keyword is written. -/
def spelling : Keyword → String
  | .if_ => "if"
  | .elseif_ => "elseif"
  | .for_ => "for"
  | .foreach_ => "foreach"
  | .match_ => "match"
  | .switch_ => "switch"
  | .while_ => "while"
  | .case_ => "case"
  | .namespace_ => "namespace"
  | .class_ => "class"
  | .function_ => "function"
  | .throw_ => "throw"
  | .catch_ => "catch"
  | .extends_ => "extends"
  | .abstract_ => "abstract"
  | .use_ => "use"
  | .as_ => "as"
  | .public_ => "public"
  | .private_ => "private"
  | .protected_ => "protected"
  | .const_ => "const"
  | .static_ => "static"
  | .iterable_ => "iterable"
  | .string_ => "string"
  | .array_ => "array"
  | .int_ => "int"
  | .float_ => "float"
  | .bool_ => "bool"
  | .self_ => "self"
  | .void_ => "void"
  | .readonly_ => "readonly"
  | .mixed_ => "mixed"
  | .implements_ => "implements"
  | .trait_ => "trait"

/-- The keyword that a word is; the two truth values count as `bool`. -/
def ofWord? (word : String) : Option Keyword :=
  if word = "true" || word = "false" then some .bool_ else all.find? (·.spelling == word)

/-- The visibility that a keyword declares. -/
def visibility? : Keyword → Option Visibility
  | .public_ => some .public_
  | .private_ => some .private_
  | .protected_ => some .protected_
  | _ => none

end Keyword

namespace Token

/-- The keyword that a token is; only an identifier is one. -/
def keyword? (t : Token) : Option Keyword :=
  if t.isIdentifier then Keyword.ofWord? t.lexeme else none

/-- The names of the types that are part of the language. -/
def builtInTypes : List String :=
  ["string", "array", "int", "float", "bool", "self", "void", "readonly", "iterable", "static",
    "mixed", "true", "false", "null", "callable", "object", "never", "parent"]

/-- Whether the token names a type that is part of the language. -/
def isBuiltInType (t : Token) : Bool := t.isIdentifier && builtInTypes.contains t.lexeme

end Token

end Cyclomatic
