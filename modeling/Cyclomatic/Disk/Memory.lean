import Cyclomatic.Disk.Access
import Cyclomatic.Keyed

/-!
# Disks in memory

A disk that is a value: the tree of files, directories and links below its root, and the directory
where relative paths start. `locate` follows a path through it, link by link, and allows forty
links on the way. Names and paths have a greatest length, in bytes. Reading a file leaves the tree
as it is; that it has been read is noted beside the tree.
-/

set_option autoImplicit false

namespace Cyclomatic.Disk

/-- What has a name on a disk. -/
inductive Node where
  | file (stored : Stored)
  | directory (entries : List (String × Node))
  /-- A link to a path. -/
  | link (target : String)
  deriving Repr

/-- A disk in memory. -/
structure Memory where
  entries : List (String × Node) := []
  /-- The names on the way from the root to the working directory. -/
  home : List String := []
  /-- The time, in seconds. -/
  now : Double
  /-- The files that have been read, each by its directory and its name. -/
  opened : List (List String × String) := []
  deriving Repr

namespace Memory

/-! ## Locations -/

/-- The entries of the directory that the names lead to; none if there is no such directory. -/
def entriesAt? (entries : List (String × Node)) : List String → Option (List (String × Node))
  | [] => some entries
  | name :: rest =>
    match entries.lookup name with
    | some (.directory below) => entriesAt? below rest
    | _ => none

/-- Puts a node under a name, in the directory that is reached by the names. -/
def putAt (entries : List (String × Node)) (name : String) (node : Node) :
    List String → List (String × Node)
  | [] => Keyed.put name node entries
  | above :: rest =>
    match entries.lookup above with
    | some (.directory below) =>
      Keyed.put above (.directory (putAt below name node rest)) entries
    | _ => entries

/-- Where a path leads. -/
inductive Place where
  /-- To the directory that is reached by the names. -/
  | directory (names : List String)
  /-- To a file in a directory. -/
  | file (directory : List String) (name : String) (stored : Stored)
  /-- To a link, which is not followed. -/
  | link (directory : List String) (name : String)
  /-- To a name that is free in a directory. -/
  | free (directory : List String) (name : String)
  deriving Repr

/-- What a path is followed for. -/
inductive Purpose where
  /-- To see what is there. -/
  | look
  /-- To write a file, which is made if it is missing; a slash after its name is refused. -/
  | write
  /-- To make what is not there; a link at the end is not followed. -/
  | make
  deriving DecidableEq, Repr

/-- How many links may stand on a way. -/
def linkLimit : Nat := 40

/-- How many bytes a name may have. -/
def nameLimit : Nat := 255

/-- How many bytes a path may have. -/
def pathLimit : Nat := 4095

/-- The path of the working directory. -/
def here (disk : Memory) : String := "/" ++ "/".intercalate disk.home

/-- Where a path starts, and its parts. A relative path starts in the given directory; the empty
text is no path. -/
def origin? (directory : List String) (path : String) : Option (List String × List String) :=
  match path.toList with
  | [] => none
  | '/' :: _ => some ([], Path.pieces path)
  | _ => some (directory, Path.pieces path)

/-- Why a name is not even looked up that stands before the given parts. -/
def refusal? (purpose : Purpose) (name : String) (rest : List String) : Option Cause :=
  if purpose = .write ∧ rest ≠ [] ∧ rest.all (· == "") then some .isDirectory
  else if nameLimit < name.utf8ByteSize then some .nameTooLong
  else none

/-- Follows the parts of a path from a directory, below the root with the given entries. -/
def locateFrom (root : List (String × Node)) (purpose : Purpose) (links : Nat)
    (directory : List String) (parts : List String) : Except Cause Place :=
  match parts with
  | [] => .ok (.directory directory)
  | part :: rest =>
    if part = "" ∨ part = "." then locateFrom root purpose links directory rest
    else if part = ".." then locateFrom root purpose links directory.dropLast rest
    else
      match entriesAt? root directory, refusal? purpose part rest with
      | none, _ => .error .notDirectory
      | some _, some cause => .error cause
      | some entries, none =>
        match entries.lookup part with
        | none =>
          if rest.all (· == "") then .ok (.free directory part) else .error .missing
        | some (.file stored) =>
          if rest.isEmpty then .ok (.file directory part stored) else .error .notDirectory
        | some (.directory _) => locateFrom root purpose links (directory ++ [part]) rest
        | some (.link target) =>
          if rest.isEmpty && purpose == .make then .ok (.link directory part)
          else
            match links, origin? directory target with
            | 0, _ => .error .tooManyLinks
            | _ + 1, none => .error .missing
            | links + 1, some (start, way) => locateFrom root purpose links start (way ++ rest)
  termination_by (links, parts.length)

/-- Follows a path from the working directory. -/
def locate (disk : Memory) (path : String) (purpose : Purpose) : Except Cause Place :=
  if path.contains '\x00' then .error .nullCharacter
  else if pathLimit < path.utf8ByteSize then .error .nameTooLong
  else
    match origin? disk.home path with
    | none => .error .missing
    | some (start, way) => locateFrom disk.entries purpose linkLimit start way

/-! ## Trees -/

/-- Whether a link in a directory leads to a directory. -/
def leadsToDirectory (root : List (String × Node)) (directory : List String) (target : String) :
    Bool :=
  match origin? directory target with
  | none => false
  | some (start, way) =>
    match locateFrom root .look (linkLimit - 1) start way with
    | .ok (.directory _) => true
    | _ => false

mutual

/-- A node of a directory as a walk sees it. -/
def entryOf (root : List (String × Node)) (directory : List String) (name : String) : Node → Entry
  | .file _ => .file
  | .directory entries => .directory (entriesOf root (directory ++ [name]) entries)
  | .link target => if leadsToDirectory root directory target then .linkedDirectory else .file

/-- The nodes of a directory as a walk sees them. -/
def entriesOf (root : List (String × Node)) (directory : List String) :
    List (String × Node) → List (String × Entry)
  | [] => []
  | (name, node) :: rest =>
    (name, entryOf root directory name node) :: entriesOf root directory rest

end

/-- The directory at a path. -/
def directory? (disk : Memory) (path : String) : Option Entry :=
  match disk.locate path .look with
  | .ok (.directory names) =>
    (entriesAt? disk.entries names).map fun entries =>
      .directory (entriesOf disk.entries names entries)
  | _ => none

/-- Whether there is a directory at a path. -/
def isDirectory (disk : Memory) (path : String) : Except Fault Bool :=
  match disk.locate path .look with
  | .ok (.directory _) => .ok true
  | .ok _ => .ok false
  | .error cause => if cause.isAbsence then .ok false else .error ⟨cause, path⟩

/-! ## Reading and writing -/

/-- The file at a path. -/
def read (disk : Memory) (path : String) : Except Fault Stored :=
  match disk.locate path .look with
  | .ok (.file directory name stored) =>
    let accessed := if disk.opened.contains (directory, name) then disk.now else stored.accessed
    .ok { stored with accessed }
  | .ok (.directory _) => .error ⟨.isDirectory, path⟩
  | .ok _ => .error ⟨.missing, path⟩
  | .error cause => .error ⟨cause, path⟩

/-- The disk with a node under a name in a directory. -/
def put (disk : Memory) (directory : List String) (name : String) (node : Node) : Memory :=
  { disk with entries := putAt disk.entries name node directory }

/-- The disk after the file at a path has been read. -/
def afterRead (disk : Memory) (path : String) : Memory :=
  match disk.locate path .look with
  | .ok (.file directory name _) => { disk with opened := (directory, name) :: disk.opened }
  | _ => disk

/-- Changes what the file at a path holds, or makes the file. -/
def change (disk : Memory) (path : String) (f : List UInt8 → List UInt8) :
    Except Fault Memory :=
  match disk.locate path .write with
  | .ok (.file directory name stored) =>
    .ok (disk.put directory name (.file { stored with bytes := f stored.bytes }))
  | .ok (.free directory name) =>
    .ok (disk.put directory name (.file { bytes := f [], accessed := disk.now }))
  | .ok (.directory _) => .error ⟨.isDirectory, path⟩
  | .ok (.link _ _) => .error ⟨.missing, path⟩
  | .error cause => .error ⟨cause, path⟩

/-- Makes a node at a path where nothing is. -/
def make (disk : Memory) (path : String) (node : Node) : Except Fault Memory :=
  match disk.locate path .make with
  | .ok (.free directory name) => .ok (disk.put directory name node)
  | .ok _ => .error ⟨.present, path⟩
  | .error cause => .error ⟨cause, path⟩

/-- The bytes of a text. -/
def bytesOf (s : String) : List UInt8 := s.toUTF8.toList

/-- Does a change to the disk, unless it is refused. -/
def attempt (action : Memory → Except Fault Memory) : StateM Memory (Except Fault Unit) :=
  modifyGet fun disk =>
    match action disk with
    | .ok changed => (.ok (), changed)
    | .error fault => (.error fault, disk)

/-- The access to a disk in memory. -/
def access : Access (StateM Memory) where
  directory? path := do return (← get).directory? path
  isDirectory path := do return (← get).isDirectory path
  read path := modifyGet fun disk => (disk.read path, disk.afterRead path)
  makeDirectory path := attempt (·.make path (.directory []))
  write path text := attempt (·.change path fun _ => bytesOf text)
  append path text := attempt (·.change path (· ++ bytesOf text))
  now := do return (← get).now

end Memory

end Cyclomatic.Disk
