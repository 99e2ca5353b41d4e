/-!
# Paths

A path is a root and the parts below it; it is absolute if its root is not empty. `Path.ofString`
leaves out empty parts and single points, so that `./a//b/` and `a/b` are the same path. Two points
stay, since what they mean depends on links.
-/

set_option autoImplicit false

namespace Cyclomatic

/-- A path of a file or directory. -/
structure Path where
  /-- Empty for a relative path, else one slash or two. -/
  root : String := ""
  /-- The names on the way, from the root on. -/
  parts : List String := []
  deriving DecidableEq, Repr

namespace Path

/-- The pieces of a text between slashes. -/
def pieces (s : String) : List String := (s.splitOn "/")

/-- The root of a path: exactly two slashes are a root of their own. -/
def rootOf : List Char → String
  | '/' :: '/' :: '/' :: _ => "/"
  | '/' :: '/' :: _ => "//"
  | '/' :: _ => "/"
  | _ => ""

/-- Reads a path. -/
def ofString (s : String) : Path :=
  { root := rootOf s.toList
    parts := (pieces s).filter fun part => part != "" && part != "." }

/-- The text of a path; the empty path is the point. -/
def text (p : Path) : String :=
  if p.root.isEmpty && p.parts.isEmpty then "."
  else p.root ++ "/".intercalate p.parts

/-- The path of the directory that holds the file. -/
def parent (p : Path) : Path := { p with parts := p.parts.dropLast }

/-- A name below a directory, as the two are written. -/
def join (directory name : String) : String :=
  if directory.isEmpty || directory.endsWith "/" then directory ++ name
  else directory ++ "/" ++ name

/-- Takes out the parts that two points take back; at the root they take back nothing. -/
def collapse : (done : List String) → List String → List String
  | done, [] => done.reverse
  | done, ".." :: rest => collapse done.tail rest
  | done, part :: rest => collapse (part :: done) rest

/-- The path from the root on, for a path that starts in the directory `here`; points are taken
out. -/
def absolute (here : String) (s : String) : Path :=
  let p := ofString (if s.toList.head? == some '/' then s else here ++ "/" ++ s)
  { p with parts := collapse [] p.parts }

end Path

end Cyclomatic
