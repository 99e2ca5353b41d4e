import Cyclomatic.Json.Render
import Cyclomatic.Log

/-!
# Events

An event is a record whose message is a document: when it happened, its level, its name, the
operation it belongs to, and data of its own.
-/

set_option autoImplicit false

namespace Cyclomatic.Log

/-- An event of an operation. -/
structure Event where
  name : String
  /-- The operation that it belongs to. -/
  operation : String
  /-- The level that the document names; any word may stand here. -/
  level : String := Level.info.word
  /-- The data of the event. -/
  data : List (String × Json)

/-- The document of an event that happened at `time`. -/
def Event.document (e : Event) (time : Double) : Json :=
  .object [("timestamp", .double time), ("level", .text e.level), ("event", .text e.name),
    ("correlation_id", .text e.operation), ("data", .object e.data)]

/-- The record of an event. It is an error if the document's level is the word for errors, and
information otherwise. A document on several lines is set in by four a level. -/
def Event.record (e : Event) (time : Double) (onLines : Bool) : Record :=
  { level := if e.level = Level.error.word then .error else .info
    channel := .events
    message :=
      if onLines then (e.document time).indented 4 else (e.document time).compact }

end Cyclomatic.Log
