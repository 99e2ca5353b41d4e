/-!
# Log records

What the program tells about its work: a record has a level, the channel that it goes through and a
message. `Record.line` is the line that the terminal shows for it, and `Record.entry` the one that a
log file holds.
-/

set_option autoImplicit false

namespace Cyclomatic

/-- How much a record matters, the least first. -/
inductive Log.Level where
  | debug | info | warning | error
  deriving DecidableEq, Repr

/-- The parts of the program that tell about their work. -/
inductive Log.Channel where
  /-- The log itself. -/
  | root
  /-- The events of long operations. -/
  | events
  | metrics
  /-- Reading from disk and writing to it. -/
  | disk
  /-- The scan of a project. -/
  | scanning
  /-- The interactive menu. -/
  | menu
  deriving DecidableEq, Repr

/-- A record of the log. -/
structure Log.Record where
  level : Log.Level
  channel : Log.Channel
  message : String
  deriving DecidableEq, Repr

namespace Log

/-- The word for a level. -/
def Level.word : Level → String
  | .debug => "DEBUG"
  | .info => "INFO"
  | .warning => "WARNING"
  | .error => "ERROR"

/-- The place of a level in their order. -/
def Level.rank : Level → Nat
  | .debug => 0
  | .info => 1
  | .warning => 2
  | .error => 3

/-- Whether a level reaches a threshold. -/
def Level.reaches (level threshold : Level) : Bool := threshold.rank ≤ level.rank

/-- The name under which a channel's records are shown. -/
def Channel.name : Channel → String
  | .root => "root"
  | .events => "tcpl_scanner"
  | .metrics => "metrics"
  | .disk => "tcpl_scanner.modules.indexing.infrastructure.adapters"
  | .scanning => "scanner.app"
  | .menu => "tcpl_scanner.modules.interface.presentation.menu"

/-- Fills a text up to `width` characters. -/
def padRight (width : Nat) (s : String) : String :=
  s ++ String.ofList (List.replicate (width - s.length) ' ')

/-- The line of a record on the terminal: when it was made, its level, its channel and its
message. -/
def Record.line (r : Record) (time : String) : String :=
  time ++ " | " ++ padRight 8 r.level.word ++ " | " ++ r.channel.name ++ " | " ++ r.message ++ "\n"

/-- What stands for the place that a record comes from where nothing tells it. -/
def unknownPlace : String := "unknown:0"

/-- What stands in front of the message of a record in a log file: the moment it was made, its
level, its channel, and the place in the program that it comes from. -/
def Record.heading (r : Record) (moment : String) (place : String := unknownPlace) : String :=
  moment ++ " | " ++ r.level.word ++ " | " ++ r.channel.name ++ " | " ++ place ++ " | "

/-- The line of a record in a log file. -/
def Record.entry (r : Record) (moment place : String) : String :=
  r.heading moment place ++ r.message ++ "\n"

end Log

end Cyclomatic
