import Cyclomatic.Disk.Access
import Cyclomatic.Project.Scan
import Cyclomatic.Text.Utf8

/-!
# The sources on a disk

Reads every file below a directory whose name has the wanted ending. A file that cannot be read, or
is no UTF-8, is left out and logged; it does not stop the reading.
-/

set_option autoImplicit false

namespace Cyclomatic.Disk

/-- The hours from `accessed` to `now`, rounded down; never negative. -/
def hoursSince (accessed now : Double) : Int := max ((now - accessed).floorDiv 3600) 0

/-- A stored file as a source. -/
def Stored.source (stored : Stored) (path : String) (now : Double) :
    Except Text.Utf8Fault Source := do
  let chars ← Text.decodeUtf8 stored.bytes
  pure
    { path
      content := String.ofList (Text.unifyBreaks chars)
      hours := hoursSince stored.accessed now }

/-- A record of the reading. -/
def readingRecord (level : Log.Level) (message : String) : Log.Record := ⟨level, .disk, message⟩

/-- The record of a root that is no directory. -/
def rootRecord (root : String) : Log.Record :=
  readingRecord .error ("Directorio de entrada no existe: " ++ root)

/-- The record of a directory whose entries cannot be listed. -/
def closedRecord (fault : Fault) : Log.Record :=
  readingRecord .error ("No se pudo recorrer el directorio " ++ fault.path ++ ": " ++ fault.message)

/-- The record of a file that cannot be read. -/
def fileRecord (path reason : String) : Log.Record :=
  readingRecord .error ("No se pudo leer el archivo " ++ path ++ ": " ++ reason)

/-- The record of how many files were read. -/
def countRecord (root ending : String) (count : Nat) : Log.Record :=
  readingRecord .info
    ("Archivos " ++ ending ++ " encontrados en " ++ root ++ ": " ++ toString count)

variable {m : Type → Type} [Monad m]

/-- Reads the file at a path; a failure is logged. -/
def readFile (access : Access m) (emit : Log.Record → m Unit) (now : Double) (path : String) :
    m (Option Source) := do
  match ← access.read path with
  | .error fault =>
    emit (fileRecord path fault.message)
    pure none
  | .ok stored =>
    match stored.source path now with
    | .error fault =>
      emit (fileRecord path fault.message)
      pure none
    | .ok source => pure (some source)

/-- Reads what a walk meets. -/
def readVisit (access : Access m) (emit : Log.Record → m Unit) (ending : String) (now : Double) :
    Visit → m (Option Source)
  | .closed fault => do
    emit (closedRecord fault)
    pure none
  | .file directory name =>
    if name.endsWith ending then readFile access emit now (Path.join directory name)
    else pure none

/-- Reads the files below `root` whose names have the ending. -/
def readSources (access : Access m) (emit : Log.Record → m Unit) (root ending : String) :
    m (Except Project.ReadFault (List Source)) := do
  match ← access.directory? root with
  | none =>
    emit (rootRecord root)
    pure (.error (.notDirectory root))
  | some entry =>
    let now ← access.now
    let sources ← (entry.visits root).filterMapM (readVisit access emit ending now)
    emit (countRecord root ending sources.length)
    pure (.ok sources)

end Cyclomatic.Disk
