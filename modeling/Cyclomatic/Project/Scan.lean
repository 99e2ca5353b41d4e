import Cyclomatic.Log.Measure
import Cyclomatic.Project
import Cyclomatic.Reading.File
import Cyclomatic.Token.Scan

/-!
# Scanning

A scan reads the sources of a project and classifies each: it declares a class, or none, or it is
skipped for a fault. One reader serves for all sources (`Project.takeIn`); `Project.scan` watches the
phases of a whole scan. `Project.ofSources` is the project that sources make up when each is read on
its own, and `Project.records` what is told about them.
-/

set_option autoImplicit false

namespace Cyclomatic

/-- A file of a project, not scanned yet. -/
structure Source where
  path : String
  /-- What it holds. -/
  content : String
  /-- How many hours ago it was read last. -/
  hours : Int := 0
  deriving DecidableEq, Repr

namespace Source

/-! ## One source -/

/-- Why a source is skipped. -/
inductive Fault where
  /-- Its text has no tokens. -/
  | text (fault : Token.Fault)
  /-- Its tokens form no class. -/
  | tokens (fault : Reading.Fault)
  deriving DecidableEq, Repr

/-- The words for a fault. -/
def Fault.message : Fault → String
  | text fault => fault.message
  | tokens fault => fault.message

/-- What the scan of a source finds. -/
inductive Finding where
  /-- The file and its class. -/
  | file (f : SourceFile)
  | classless
  /-- A fault, for which the source is skipped. -/
  | faulty (fault : Fault)
  deriving Repr

/-- The line of the last token; zero without tokens. -/
def lastLine (tokens : List Token) : Int := (tokens.getLast?.map (·.line)).getD 0

/-- What is found in a source with the given tokens, of which `read` is the class or the fault. -/
def findingOf (source : Source) (tokens : List Token) :
    Except Reading.Fault (Option Class) → Finding
  | .error fault => .faulty (.tokens fault)
  | .ok none => .classless
  | .ok (some declared) =>
    .file
      { path := source.path
        declared
        lines := lastLine tokens
        hours := source.hours
        profile := .ofTokens tokens }

/-- Scans a source. -/
def finding (source : Source) : Finding :=
  match Token.ofText source.content with
  | .error fault => .faulty (.text fault)
  | .ok tokens => source.findingOf tokens (Class.ofTokens tokens)

/-- Scans a source with a reader that has served for other sources, and tells how it is left. A
text without tokens does not come to the reader. -/
def findingAfter (source : Source) (reader : Reading.State) : Finding × Reading.State :=
  match Token.ofText source.content with
  | .error fault => (.faulty (.text fault), reader)
  | .ok tokens =>
    match Reading.nextFile tokens reader with
    | .ok class? reader => (source.findingOf tokens (.ok class?), reader)
    | .error fault reader => (source.findingOf tokens (.error fault), reader)

/-- The file, if a class is found in it. -/
def file? (source : Source) : Option SourceFile :=
  match source.finding with
  | .file f => some f
  | _ => none

/-- Whether the source is skipped. -/
def isSkipped (source : Source) : Bool :=
  match source.finding with
  | .faulty _ => true
  | _ => false

/-- What is told about a source in which no class is found. -/
def Finding.record? (path : String) : Finding → Option Log.Record
  | .file _ => none
  | .classless => some ⟨.debug, .scanning, "[SKIP] Sin clase: " ++ path⟩
  | .faulty fault => some ⟨.warning, .scanning, "[SKIP] " ++ path ++ ": " ++ fault.message⟩

/-- What is told about a source; nothing, if it declares a class. -/
def record? (source : Source) : Option Log.Record := source.finding.record? source.path

end Source

namespace Project

/-! ## A project -/

/-- The project that sources make up. -/
def ofSources (sources : List Source) : Project :=
  let files := sources.filterMap Source.file?
  { ofFiles files with skipped := (sources.filter Source.isSkipped).map (·.path) }

/-- What is told about the sources. -/
def records (sources : List Source) : List Log.Record := sources.filterMap Source.record?

/-- The sources taken in so far, and the reader that is used for one after the other. -/
structure Intake where
  /-- How the last source left the reader. -/
  reader : Reading.State := {}
  /-- The files that declare a class. -/
  files : List SourceFile := []
  skipped : List String := []

namespace Intake

/-- Adds what is found in the source at a path. -/
def add (intake : Intake) (path : String) : Source.Finding → Intake
  | .file f => { intake with files := intake.files ++ [f] }
  | .classless => intake
  | .faulty _ => { intake with skipped := intake.skipped ++ [path] }

/-- The project that is taken in. -/
def project (intake : Intake) : Project :=
  { ofFiles intake.files with skipped := intake.skipped }

end Intake

/-- Why a project cannot be scanned. -/
inductive ReadFault where
  | notDirectory (root : String)
  deriving DecidableEq, Repr

/-- The words for a fault. -/
def ReadFault.message : ReadFault → String
  | .notDirectory root => "No se puede leer el directorio: " ++ root

/-- How a fault is told. -/
def ReadFault.failure (fault : ReadFault) : Log.Failure := ⟨"SourceReadError", fault.message⟩

/-- The name of scans in events. -/
def scanName : String := "index_codebase"

/-- A record of the progress of a scan. -/
def progress (message : String) : Log.Record := ⟨.info, .scanning, message⟩

/-- The operation of scanning under `root`; a failure to read is told by `failure`. -/
def scanOperation {ε : Type} (failure : ε → Log.Failure) (root : String) : Log.Operation Project ε :=
  { name := scanName
    target := root
    summary := fun p =>
      [("files", .int p.summary.files), ("skipped", .int p.summary.skipped),
        ("classes", .int p.summary.classes)]
    failure }

section

variable {m : Type → Type} [Monad m] {ε : Type}

/-- Takes in a source with the reader that all sources share, and tells about it. -/
def takeIn (tools : Log.Instruments m) (intake : Intake) (source : Source) : m Intake := do
  let (finding, reader) := source.findingAfter intake.reader
  (finding.record? source.path).forM tools.emit
  pure ({ intake with reader }.add source.path finding)

/-- Classifies the sources one after the other. -/
def parsePhase (tools : Log.Instruments m) (sources : List Source) : m Intake :=
  sources.foldlM (takeIn tools) {}

/-- The phases of a scan: reading, parsing, and building the index. -/
def scanPhases (tools : Log.Instruments m) (root : String)
    (read : m (Except ε (List Source))) : m (Except ε Project) := do
  tools.emit (progress ("Iniciando escaneo. Raíz: " ++ root))
  match ← Log.timed tools "read_sources" read with
  | .error fault => pure (.error fault)
  | .ok sources =>
    tools.emit (progress ("Filtrados y leídos " ++ toString sources.length ++ " archivos"))
    let intake ← Log.timed tools "parse_sources" (parsePhase tools sources)
    tools.emit (progress ("Escaneados y parseados " ++ toString intake.files.length ++ " archivos"))
    let p ← Log.timed tools "build_index" (pure intake.project)
    tools.emit (progress ("Indexadas " ++ toString p.index.length ++ " clases"))
    pure (.ok p)

/-- Scans the project under `root`, whose sources `read` reads; it may fail in any way. -/
def scanWith (tools : Log.Instruments m) (failure : ε → Log.Failure) (root : String)
    (read : m (Except ε (List Source))) : m (Except (Log.Interruption ε) Project) :=
  Log.observed tools (scanOperation failure root) (scanPhases tools root read)

/-- Scans the project under `root`, whose sources `read` reads from a directory. -/
def scan (tools : Log.Instruments m) (root : String) (read : m (Except ReadFault (List Source))) :
    m (Except (Log.Interruption ReadFault) Project) :=
  scanWith tools ReadFault.failure root read

end

end Project

end Cyclomatic
