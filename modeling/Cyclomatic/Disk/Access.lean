import Cyclomatic.Disk.Tree
import Cyclomatic.Double

/-!
# Access to a disk

What the program asks of a disk. `makeDirectories` makes a directory with all that are missing
above it.
-/

set_option autoImplicit false

namespace Cyclomatic.Disk

/-- A file as it is read. -/
structure Stored where
  bytes : List UInt8
  /-- When it was read last before, in seconds. -/
  accessed : Double
  deriving DecidableEq, Repr

/-- What a disk can be asked for. Paths are texts, and messages show them as they are given. -/
structure Access (m : Type → Type) where
  directory? : String → m (Option Entry)
  isDirectory : String → m (Except Fault Bool)
  /-- The file at a path. -/
  read : String → m (Except Fault Stored)
  makeDirectory : String → m (Except Fault Unit)
  /-- Puts a text in place of what the file at a path holds; the file is made if it is missing. -/
  write : String → String → m (Except Fault Unit)
  /-- Puts a text behind what the file at a path holds; the file is made if it is missing. -/
  append : String → String → m (Except Fault Unit)
  /-- The time, in seconds. -/
  now : m Double

/-- The access to a disk whose answers are carried over from one monad to another. -/
def Access.carried {m n : Type → Type} (access : Access m) (carry : {α : Type} → m α → n α) :
    Access n where
  directory? path := carry (access.directory? path)
  isDirectory path := carry (access.isDirectory path)
  read path := carry (access.read path)
  makeDirectory path := carry (access.makeDirectory path)
  write path text := carry (access.write path text)
  append path text := carry (access.append path text)
  now := carry access.now

variable {m : Type → Type} [Monad m]

/-- A refused directory will do if it is there. -/
def toleratePresent (access : Access m) (fault : Fault) : m (Except Fault Unit) := do
  match ← access.isDirectory fault.path with
  | .ok true => pure (.ok ())
  | .ok false => pure (.error fault)
  | .error fault => pure (.error fault)

/-- Makes the directory with the given names, the last one first, and all those above it. -/
def makeDirectoriesFrom (access : Access m) (root : String) :
    List String → m (Except Fault Unit)
  | [] => do
    match ← access.makeDirectory (Path.text ⟨root, []⟩) with
    | .ok _ => pure (.ok ())
    | .error fault => toleratePresent access fault
  | name :: above => do
    let path := Path.text ⟨root, (name :: above).reverse⟩
    match ← access.makeDirectory path with
    | .ok _ => pure (.ok ())
    | .error fault =>
      if fault.cause = .missing then
        match ← makeDirectoriesFrom access root above with
        | .error fault => pure (.error fault)
        | .ok _ =>
          match ← access.makeDirectory path with
          | .ok _ => pure (.ok ())
          | .error fault => toleratePresent access fault
      else toleratePresent access fault

/-- Makes a directory and all that are missing above it. -/
def makeDirectories (access : Access m) (p : Path) : m (Except Fault Unit) :=
  makeDirectoriesFrom access p.root p.parts.reverse

end Cyclomatic.Disk
