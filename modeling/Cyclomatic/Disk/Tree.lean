import Cyclomatic.Disk.Fault
import Cyclomatic.Path

/-!
# Directory trees

What a walk through a directory sees, and the order in which it sees it: the files of a directory
in the order of their names, then its subdirectories in the order of theirs, each with all that is
below it. Links to directories are not entered.
-/

set_option autoImplicit false

namespace Cyclomatic.Disk

/-- An entry of a directory. -/
inductive Entry where
  /-- A file, or a link that leads to no directory. -/
  | file
  /-- A link to a directory. -/
  | linkedDirectory
  | directory (entries : List (String × Entry))
  /-- A directory whose entries cannot be listed. -/
  | closed (cause : Cause)
  deriving Repr

/-- What a walk meets. -/
inductive Visit where
  /-- A file with its name, and the directory that it lies in. -/
  | file (directory name : String)
  /-- A directory whose entries cannot be listed. -/
  | closed (fault : Fault)
  deriving DecidableEq, Repr

/-- The order of names: by code points. -/
def nameLe (a b : String) : Bool := decide (a ≤ b)

/-- The names of the files in a directory, in order. -/
def fileNames (entries : List (String × Entry)) : List String :=
  (entries.filterMap fun (name, entry) =>
    match entry with
    | .file => some name
    | _ => none).mergeSort nameLe

/-- Puts what was met below each name into the order of the names. -/
def inOrder (below : List (String × List Visit)) : List Visit :=
  (below.mergeSort fun a b => nameLe a.1 b.1).flatMap (·.2)

mutual

/-- What a walk meets at an entry that lies at `path`; files are met in their directory. -/
def Entry.visits (path : String) : Entry → List Visit
  | .file => []
  | .linkedDirectory => []
  | .closed cause => [.closed ⟨cause, path⟩]
  | .directory entries =>
    (fileNames entries).map (.file path) ++ inOrder (visitsBelow path entries)

/-- What a walk meets below each of the entries of the directory at `path`. -/
def visitsBelow (path : String) : List (String × Entry) → List (String × List Visit)
  | [] => []
  | (name, entry) :: rest =>
    (name, entry.visits (Path.join path name)) :: visitsBelow path rest

end

end Cyclomatic.Disk
