import Cyclomatic.Disk.Sources
import Cyclomatic.Json.Render
import Cyclomatic.Menu
import Cyclomatic.Report
import Cyclomatic.Settings

/-!
# Sessions

A session is one run of the program: it scans a project, exports a report if one is wanted, and
then prints the token profiles, a report or a listing, or opens the menu. It asks its `Host` for
all that lies outside: the disk, the clock and the terminal.

`start` runs a session up to its end or to the first question of the menu, and `converse` gives
answers to the menu. A failure ends a session with a code of its own.
-/

set_option autoImplicit false

namespace Cyclomatic.Session

/-- What a session runs on. -/
structure Host (m : Type → Type) where
  access : Disk.Access m
  here : String
  /-- The time, in seconds. -/
  clock : m Double
  /-- The memory in use, in bytes, if it can be told. -/
  memory : m (Option Int)
  /-- A new name for an operation. -/
  newOperation : m String
  /-- The time as the terminal shows it in front of records. -/
  time : m String
  /-- The date and the time as log files show them. -/
  moment : m String
  /-- The place in the program that a record comes from, as log files show it: the name of a
  function and the number of a line. -/
  place : Log.Record → String := fun _ => Log.unknownPlace
  /-- The time as reports show it. -/
  date : m String
  print : String → m Unit
  /-- Prints a text as an error. -/
  complain : String → m Unit

/-! ## Failures -/

/-- An error that no code stands for. -/
inductive Breakdown where
  /-- A metric has no value. -/
  | metric (e : MetricError)
  | countMissing
  /-- A path to write to is none. -/
  | pathless (fault : Disk.Fault)
  deriving DecidableEq, Repr

/-- The words for a breakdown. -/
def Breakdown.message : Breakdown → String
  | metric e => e.message
  | countMissing => Listing.Fault.countMissing.message
  | pathless fault => fault.message

/-- What a listing that is cut short means for a session. -/
def Breakdown.ofListing : Listing.Fault → Breakdown
  | .metric e => metric e
  | .countMissing => countMissing

/-- Why a session fails. -/
inductive Failure where
  | unreadable (message : String)
  /-- The scan has gone wrong. -/
  | scan (message : String)
  | disk (message : String)
  | interrupted
  | broken (b : Breakdown)
  deriving DecidableEq, Repr

/-- How a session ends. -/
inductive Ending where
  | exit (code : Nat)
  /-- With an error that no code stands for. -/
  | broken (b : Breakdown)
  deriving DecidableEq, Repr

/-- The code of a session in which nothing failed. -/
def success : Ending := .exit 0

/-- How a failure ends a session, and what is printed as an error before. -/
def Failure.ending : Failure → Ending × String
  | unreadable message => (.exit 1, "❌ Error: " ++ message ++ "\n")
  | scan message => (.exit 2, "❌ Error de escaneo: " ++ message ++ "\n")
  | disk message => (.exit 3, "❌ Error de escritura: " ++ message ++ "\n")
  | interrupted => (.exit 130, "\n⚠️  Operación cancelada por el usuario.\n")
  | broken b => (.broken b, "")

/-- What a refused file means for a session. -/
def Failure.ofFault (fault : Disk.Fault) : Failure :=
  if fault.cause = .nullCharacter then broken (.pathless fault) else disk fault.message

/-- How a refused log file ends a session, and what is printed as an error before. -/
def logEnding (fault : Disk.Fault) : Ending × String :=
  if fault.cause = .nullCharacter then (.broken (.pathless fault), "")
  else (.exit 3, "❌ No se pudo abrir el archivo de logs: " ++ fault.message ++ "\n")

section

variable {m : Type → Type} [Monad m] [Console.Terminal]

/-- Ends a session with a complaint. -/
def stop (host : Host m) (ending : Ending × String) : m Ending := do
  host.complain ending.2
  pure ending.1

/-- Ends a session with a failure. -/
def conclude (host : Host m) (failure : Failure) : m Ending := stop host failure.ending

/-! ## The log -/

/-- The least level that is shown on the terminal. -/
def threshold (settings : Settings) : Log.Level := if settings.verbose then .debug else .warning

/-- Shows a record on the terminal if its level is reached, and appends it to the log file. -/
def emit (host : Host m) (settings : Settings) (logFile? : Option String) (r : Log.Record) :
    m Unit := do
  if r.level.reaches (threshold settings) then host.complain (r.line (← host.time))
  match logFile? with
  | none => pure ()
  | some path =>
    let _ ← host.access.append path (r.entry (← host.moment) (host.place r))
    pure ()

/-- The path of the log file, if one is wanted. -/
def logPath? (host : Host m) (settings : Settings) : Option String :=
  settings.logFile.path?.map fun s => (Path.absolute host.here s).text

/-- The record of the log file. -/
def logFileRecord (file : String) : Log.Record := ⟨.debug, .root, "Logs persistentes en: " ++ file⟩

/-- Opens the log file, if one is wanted. -/
def openLog (host : Host m) (settings : Settings) : m (Except Disk.Fault Unit) := do
  match logPath? host settings with
  | none => pure (.ok ())
  | some path =>
    match ← host.access.append path "" with
    | .error fault => pure (.error fault)
    | .ok _ =>
      emit host settings (some path) (logFileRecord (settings.logFile.path?.getD ""))
      pure (.ok ())

/-- The instruments of a session. -/
def tools (host : Host m) (settings : Settings) : Log.Instruments m where
  clock := host.clock
  memory := host.memory
  newOperation := host.newOperation
  emit := emit host settings (logPath? host settings)
  onLines := settings.prettyLogs

/-! ## The work -/

/-- Scans the project. -/
def scan (host : Host m) (settings : Settings) : m (Except Failure Project) := do
  let tools := tools host settings
  let read := Disk.readSources host.access tools.emit settings.root settings.extension
  match ← Project.scan tools settings.root read with
  | .ok p => pure (.ok p)
  | .error (.work fault) => pure (.error (.unreadable fault.message))
  | .error (.memory e) => pure (.error (.broken (.metric e)))

/-- The record of an export. -/
def exportRecord (p : Path) : Log.Record :=
  ⟨.info, .disk, "📄 Reporte JSON exportado: " ++ p.text⟩

/-- Writes a text to a file, for which directories are made. -/
def writeFile (host : Host m) (p : Path) (text : String) : m (Except Disk.Fault Unit) := do
  match ← Disk.makeDirectories host.access p.parent with
  | .error fault => pure (.error fault)
  | .ok _ => host.access.write p.text text

/-- The text of the report on files. -/
def reportText (date : String) (index : Index) (files : List SourceFile) :
    Except MetricError String :=
  (Report.document date index files).map (Json.indented 2)

/-- Writes the report on all files of a project to a file. -/
def exportTo (host : Host m) (settings : Settings) (p : Project) (output : String) :
    m (Except Failure Unit) := do
  match reportText (← host.date) p.index p.files with
  | .error e => pure (.error (.broken (.metric e)))
  | .ok text =>
    let path := Path.ofString output
    match ← writeFile host path text with
    | .error fault => pure (.error (.ofFault fault))
    | .ok _ =>
      (tools host settings).emit (exportRecord path)
      pure (.ok ())

/-- Writes the report, if one is wanted. -/
def exportWanted (host : Host m) (settings : Settings) (p : Project) :
    m (Except Failure Unit) :=
  match settings.output.path? with
  | none => pure (.ok ())
  | some output => exportTo host settings p output

/-- Ranks the files of a project. -/
def rank (host : Host m) (settings : Settings) (criterion? : Option Criterion) (p : Project) :
    m (Except Failure Project) := do
  match p.rankedBy criterion? with
  | .error e => pure (.error (.broken (.metric e)))
  | .ok p =>
    (tools host settings).emit (Criterion.record criterion? p.files.length)
    pure (.ok p)

/-- How many files are shown, unless the number is missing. -/
def count? (settings : Settings) : Option Int := settings.topFiles?.map (·.value)

/-- The view of a listing. -/
def view (settings : Settings) : View := { topFiles? := count? settings }

/-- Prints a listing. -/
def printListing (host : Host m) (printed : Listing.Printed) : m (Except Failure Unit) := do
  host.print printed.text
  match printed.fault? with
  | some fault => pure (.error (.broken (.ofListing fault)))
  | none => pure (.ok ())

/-- Prints the token profiles. -/
def showProfiles (host : Host m) (settings : Settings) (p : Project) :
    m (Except Failure Unit) := do
  match ← rank host settings (some .tokenCount) p with
  | .error failure => pure (.error failure)
  | .ok p => printListing host (Listing.profiles (count? settings) p.files)

/-- Prints a report on the files that rank first. -/
def showReport (host : Host m) (settings : Settings) (p : Project) :
    m (Except Failure Unit) := do
  match count? settings with
  | none => pure (.error (.broken .countMissing))
  | some n =>
    match reportText (← host.date) p.index (Listing.firstItems n p.files) with
    | .error e => pure (.error (.broken (.metric e)))
    | .ok text =>
      host.print (text ++ "\n")
      pure (.ok ())

/-- Prints a listing of the files. -/
def showListing (host : Host m) (settings : Settings) (p : Project) :
    m (Except Failure Unit) :=
  printListing host (Listing.files (view settings) p.index p.files).toPrinted

/-- Prints a report or a listing of the ranked files. -/
def showRanked (host : Host m) (settings : Settings) (p : Project) :
    m (Except Failure Unit) := do
  match ← rank host settings settings.criterion? p with
  | .error failure => pure (.error failure)
  | .ok p => if settings.json then showReport host settings p else showListing host settings p

/-- Shows a project in the way that is wanted. If the menu is wanted, it is left to the caller. -/
def render (host : Host m) (settings : Settings) (p : Project) :
    m (Except Failure (Option Menu.State)) := do
  if settings.tokens then return (← showProfiles host settings p).map fun _ => none
  else if settings.interactive then
    let criterion? := settings.criterion?
    return .ok (some { project := p, view := view settings, criterion? })
  else return (← showRanked host settings p).map fun _ => none

/-- Scans, exports and shows what has been scanned. -/
def work (host : Host m) (settings : Settings) : m (Except Failure (Option Menu.State)) := do
  match ← scan host settings with
  | .error failure => pure (.error failure)
  | .ok p =>
    match ← exportWanted host settings p with
    | .error failure => pure (.error failure)
    | .ok _ => render host settings p

/-! ## The menu -/

/-- Prints and logs what a turn of the menu says. -/
def follow (host : Host m) (settings : Settings) (turn : Menu.Turn) : m Menu.Stand := do
  host.print turn.output
  turn.log.forM (tools host settings).emit
  pure turn.stand

/-- How a session ends whose menu is left; none while it still asks. -/
def ending? : Menu.Stand → Option Ending
  | .asking _ _ => none
  | .left _ => some success
  | .failed fault _ => some (.broken (.ofListing fault))

/-- Gives an answer to the menu. -/
def answer (host : Host m) (settings : Settings) (a : Console.Answer) :
    Menu.Stand → m Menu.Stand
  | .asking prompt state => follow host settings (Menu.step state prompt a)
  | stand => pure stand

/-- Gives answers to the menu. If it still asks after them, the session fails. -/
def converse (host : Host m) (settings : Settings) (last : Failure) (stand : Menu.Stand) :
    List Console.Answer → m Ending
  | [] =>
    match ending? stand with
    | some ending => pure ending
    | none => conclude host last
  | a :: rest => do converse host settings last (← answer host settings a stand) rest

/-! ## Sessions -/

/-- Where a session stands after its start. -/
inductive Stage where
  | over (ending : Ending)
  | menu (stand : Menu.Stand)
  deriving Repr

/-- Does some work in a session: opens the log before it, and ends with its failure. -/
def startWith (host : Host m) (settings : Settings)
    (work : m (Except Failure (Option Menu.State))) : m Stage := do
  match ← openLog host settings with
  | .error fault => return .over (← stop host (logEnding fault))
  | .ok _ =>
    match ← work with
    | .error failure => return .over (← conclude host failure)
    | .ok none => pure (.over success)
    | .ok (some state) => return .menu (← follow host settings (Menu.start state))

/-- Starts a session. -/
def start (host : Host m) (settings : Settings) : m Stage :=
  startWith host settings (work host settings)

end

end Cyclomatic.Session
