import Cyclomatic.Project.Criterion

/-!
# Switches

The switches of the command line and how they are spelled.
-/

set_option autoImplicit false

namespace Cyclomatic.CommandLine

/-- The switches of the command line. -/
inductive Switch where
  | help | top | sort | extension | noInteractive | json | output | tokens | logFile | verbose
  | version
  deriving DecidableEq, Repr

namespace Switch

/-- Every switch, in the order in which the help shows them. -/
def all : List Switch :=
  [help, top, sort, extension, noInteractive, json, output, tokens, logFile, verbose, version]

/-- How a switch is spelled. -/
def spellings : Switch → List String
  | help => ["-h", "--help"]
  | top => ["--top", "-n"]
  | sort => ["--sort"]
  | extension => ["--extension", "-e"]
  | noInteractive => ["--no-interactive"]
  | json => ["--json"]
  | output => ["--output", "-o"]
  | tokens => ["--tokens"]
  | logFile => ["--log-file"]
  | verbose => ["--verbose", "-v"]
  | version => ["--version"]

/-- The criteria that the command line offers, as the help shows them. -/
def criteria : String := "\x7b" ++ ",".intercalate (Criterion.all.map (·.option)) ++ "\x7d"

/-- What stands for the value of a switch that takes one. -/
def valueName? : Switch → Option String
  | top => some "TOP"
  | sort => some criteria
  | extension => some "EXTENSION"
  | output => some "OUTPUT"
  | logFile => some "LOG_FILE"
  | _ => none

/-- Whether a switch takes a value. -/
def takesValue (s : Switch) : Bool := s.valueName?.isSome

/-- The name of a switch in messages. -/
def label (s : Switch) : String := "/".intercalate s.spellings

/-- Every spelling with its switch. -/
def table : List (String × Switch) := all.flatMap fun s => s.spellings.map (·, s)

/-- The switch that a text spells out. -/
def ofSpelling? (spelling : String) : Option Switch := table.lookup spelling

end Switch

end Cyclomatic.CommandLine
