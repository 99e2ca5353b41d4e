import Cyclomatic.Calendar
import Cyclomatic.CommandLine
import Cyclomatic.Session

/-!
# The program

Runs a session on the real disk, clock and terminal.
-/

set_option autoImplicit false

namespace Cyclomatic.Main

/-! ## The disk -/

/-- What an error of the system says about a path. -/
def causeOf : IO.Error → Disk.Cause
  | .noFileOrDirectory _ _ _ => .missing
  | .alreadyExists _ _ _ => .present
  | .inappropriateType _ code details =>
    if code = 20 then .notDirectory
    else if code = 21 then .isDirectory
    else .other code.toNat details
  | .invalidArgument _ code details =>
    if code = 36 then .nameTooLong
    else if code = 40 then .tooManyLinks
    else .other code.toNat details
  | .permissionDenied _ code details => .other code.toNat details
  | .resourceExhausted _ code details => .other code.toNat details
  | e => .other 5 (toString e)

/-- Does something with a path; an error of the system becomes a fault. -/
def guarded {α : Type} (path : String) (action : IO α) : IO (Except Disk.Fault α) := do
  try
    return .ok (← action)
  catch e =>
    return .error ⟨causeOf e, path⟩

/-- A point in time, in seconds. -/
def secondsOf (time : IO.FS.SystemTime) : Double :=
  (Double.quotient? (time.sec * 1000000000 + time.nsec.toNat) 1000000000).getD 0

/-- Whether a path leads to a directory. -/
def isDirectory (path : String) : IO Bool := do ((← IO.currentDir) / path).isDir

/-- Whether a path is a link. -/
def isLink (path : String) : IO Bool := do
  return (← ((← IO.currentDir) / path).symlinkMetadata).type == .symlink

/-- The directory at a path, with all that is below it. -/
partial def directoryAt (path : String) : IO Disk.Entry := do
  match ← guarded path ((← IO.currentDir) / path).readDir with
  | .error fault => return .closed fault.cause
  | .ok found =>
    let entries ← found.toList.mapM fun e => do
      let below := Path.join path e.fileName
      if !(← isDirectory below) then return (e.fileName, .file)
      else if ← isLink below then return (e.fileName, .linkedDirectory)
      else return (e.fileName, ← directoryAt below)
    return .directory entries

/-- Whether a path leads to a directory, as far as the system tells. -/
def directoryKnown (path : String) : IO (Except Disk.Fault Bool) := do
  match ← guarded path ((← IO.currentDir) / path).metadata with
  | .ok data => return .ok (data.type == .dir)
  | .error fault => return if fault.cause.isAbsence then .ok false else .error fault

/-- Reads a file. -/
def readFile (path : String) : IO Disk.Stored := do
  let file := (← IO.currentDir) / path
  let accessed := secondsOf (← file.metadata).accessed
  return { bytes := (← IO.FS.readBinFile file).toList, accessed }

/-- Appends a text to a file. -/
def appendTo (path text : String) : IO Unit := do
  IO.FS.withFile path .append fun handle => handle.putStr text

/-- The time, which a file made just now shows; where none can be made, the time since the start. -/
def clock : IO Double := do
  try
    let (_, file) ← IO.FS.createTempFile
    let time := (← file.metadata).modified
    IO.FS.removeFile file
    return secondsOf time
  catch _ => return (Double.quotient? (← IO.monoMsNow) 1000).getD 0

/-- The access to the real disk. -/
def access : Disk.Access IO where
  directory? path := do
    if path.isEmpty then return none
    else if ← isDirectory path then return some (← directoryAt path)
    else return none
  isDirectory := directoryKnown
  read path := guarded path (readFile path)
  makeDirectory path := guarded path (IO.FS.createDir path)
  write path text := guarded path (IO.FS.writeFile path text)
  append path text := guarded path (appendTo path text)
  now := clock

/-! ## The host -/

/-- The whole seconds of the clock. -/
def seconds : IO Nat := do return ((← clock).floorDiv 1).toNat

/-- The whole milliseconds of the clock. -/
def milliseconds : IO Nat := do
  return (Int.fdiv ((← clock).value * 1000) (Double.one : Int)).toNat

/-- The memory in use, in bytes. -/
def memory : IO (Option Int) := do
  try
    let sizes := (← IO.FS.readFile "/proc/self/statm").splitOn " "
    return (sizes[1]?.bind String.toInt?).map (· * 4096)
  catch _ => return none

/-- A new name of eight hexadecimal digits. -/
def newOperation : IO String := do
  let bytes := (← IO.getRandomBytes 4).toList
  return String.ofList (bytes.flatMap fun b => Text.hexDigits 2 b.toNat)

/-- The real host, in a working directory. -/
def host (here : String) : Session.Host IO where
  access := access
  here := here
  clock := clock
  memory := memory
  newOperation := newOperation
  time := do return Calendar.timeText (← seconds)
  moment := do return Calendar.moment (← milliseconds)
  date := do return Calendar.stamp (← seconds)
  print := IO.print
  complain := IO.eprint

/-! ## The run -/

/-- Reads an answer from the terminal. -/
def readAnswer : IO Console.Answer := do
  try
    let line ← (← IO.getStdin).getLine
    return if line.isEmpty then .ended else .text line
  catch _ => return .unreadable

/-- Reads answers until the menu is left. -/
partial def converse (host : Session.Host IO) (settings : Settings) (stand : Menu.Stand) :
    IO Session.Ending := do
  match Session.ending? stand with
  | some ending => return ending
  | none => converse host settings (← Session.answer host settings (← readAnswer) stand)

/-- Runs a session and gives its code. -/
def run (settings : Settings) : IO UInt32 := do
  let host := host (toString (← IO.currentDir))
  let ending ←
    match ← Session.start host settings with
    | .over ending => pure ending
    | .menu stand => converse host settings stand
  match ending with
  | .exit code => return code.toUInt32
  | .broken b =>
    IO.eprintln b.message
    return 1

/-- Ends a run that has no settings. -/
def leave (stop : CommandLine.Stop) : IO UInt32 := do
  match stop.exit with
  | .error b =>
    IO.eprintln b.message
    return 1
  | .ok e =>
    IO.print e.output
    IO.eprint e.errors
    match e.status with
    | .code n => return n.toUInt32
    | .text s =>
      IO.eprintln s
      return 1

/-- The environment of the program. -/
def environment : IO Settings.Environment := do
  return {
    topFiles? := ← IO.getEnv "TCPL_TOP_FILES"
    extension? := ← IO.getEnv "TCPL_EXTENSION"
    logFile? := ← IO.getEnv "TCPL_LOG_FILE"
    logFormat? := ← IO.getEnv "LOG_FORMAT" }

end Cyclomatic.Main

/-- Scans the project that the arguments name. -/
def main (arguments : List String) : IO UInt32 := do
  match Cyclomatic.CommandLine.settings (← Cyclomatic.Main.environment) arguments with
  | .ok settings => Cyclomatic.Main.run settings
  | .error stop => Cyclomatic.Main.leave stop
