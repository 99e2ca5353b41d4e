import Cyclomatic.Project.Criterion
import Cyclomatic.Settings.Amount

/-!
# Settings

What a run of the program is told: where and what to scan, what to show and where to log. The
settings start from defaults that environment variables can change; a variable with an empty text
changes nothing. A setting can also be asked for and left without a value.
-/

set_option autoImplicit false

namespace Cyclomatic

/-- Where something is to be written. -/
inductive Destination where
  /-- It is not asked for. -/
  | nowhere
  /-- It is asked for without a path. -/
  | unnamed
  | file (path : String)
  deriving DecidableEq, Repr

namespace Destination

/-- The destination that a path stands for, if there is one. -/
def ofPath? (path? : Option String) : Destination := (path?.map file).getD nowhere

/-- The path to write to; an empty one does not count. -/
def path? : Destination → Option String
  | file path => if path.isEmpty then none else some path
  | _ => none

end Destination

/-- The settings of a run. -/
structure Settings where
  root : String := "."
  /-- How the names of the files to scan end. -/
  extension : String := ".php"
  /-- How many files to show; none, if the number is left out. -/
  topFiles? : Option Amount := some ⟨10, by decide⟩
  /-- What to rank the files by; none, if the criterion is left out. -/
  criterion? : Option Criterion := some .classComplexity
  /-- Whether to open the menu. -/
  interactive : Bool := true
  /-- Whether to print a report instead of a listing. -/
  json : Bool := false
  /-- Where to write a report, too. -/
  output : Destination := .nowhere
  /-- Whether to print the token profiles instead of a listing. -/
  tokens : Bool := false
  /-- Whether to show all log records. -/
  verbose : Bool := false
  /-- Where log records are appended to. -/
  logFile : Destination := .nowhere
  /-- Whether events are logged on several lines. -/
  prettyLogs : Bool := false
  deriving DecidableEq, Repr

namespace Settings

/-- An extension with a point in front. -/
def dotted (extension : String) : String :=
  if extension.toList.head? == some '.' then extension else "." ++ extension

/-- The environment variables that the program looks at. -/
structure Environment where
  /-- `TCPL_TOP_FILES`: how many files to show. -/
  topFiles? : Option String := none
  /-- `TCPL_EXTENSION`: how the names of the files to scan end. -/
  extension? : Option String := none
  /-- `TCPL_LOG_FILE`: a file that log records are appended to. -/
  logFile? : Option String := none
  /-- `LOG_FORMAT`: `PRETTY` if events are to be logged on several lines. -/
  logFormat? : Option String := none
  deriving DecidableEq, Repr

/-- The environment in which variables have the values that `value?` gives. -/
def Environment.ofVariables (value? : String → Option String) : Environment :=
  { topFiles? := value? "TCPL_TOP_FILES"
    extension? := value? "TCPL_EXTENSION"
    logFile? := value? "TCPL_LOG_FILE"
    logFormat? := value? "LOG_FORMAT" }

/-- A value that is not empty. -/
def nonempty? (value? : Option String) : Option String := value?.filter (!·.isEmpty)

/-- The default settings in an environment. -/
def ofEnvironment (env : Environment) : Except Amount.Fault Settings := do
  let defaults : Settings := {}
  let topFiles? ←
    match nonempty? env.topFiles? with
    | some raw => some <$> Amount.parse raw
    | none => pure defaults.topFiles?
  pure
    { defaults with
      topFiles?
      extension := ((nonempty? env.extension?).map dotted).getD defaults.extension
      logFile := .ofPath? (nonempty? env.logFile?)
      prettyLogs := env.logFormat? == some "PRETTY" }

end Settings

end Cyclomatic
