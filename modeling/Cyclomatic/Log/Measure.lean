import Cyclomatic.Keyed
import Cyclomatic.Log.Event
import Cyclomatic.Metric

/-!
# Measured work

`Instruments` are what a run is watched with: a clock, a gauge of memory and the log. `timed` logs
how long a phase takes. `observed` puts an operation between two events: its start, and either its
completion or its failure. Both leave the result of the work as it is; only a gauge that shows more
memory than a double can hold breaks an operation off.
-/

set_option autoImplicit false

namespace Cyclomatic.Log

/-- How a failure is told: its kind and its words. -/
structure Failure where
  kind : String
  message : String
  deriving DecidableEq, Repr

/-- What a run is watched with. -/
structure Instruments (m : Type → Type) where
  /-- The time, in seconds. -/
  clock : m Double
  /-- The memory in use, in bytes, if it can be told. -/
  memory : m (Option Int)
  /-- A new name for an operation. -/
  newOperation : m String
  emit : Record → m Unit
  /-- Whether events are written on several lines. -/
  onLines : Bool

/-- Bytes as mebibytes, to two places; zero if they cannot be told. -/
def mebibytes (bytes? : Option Int) : Except MetricError Double :=
  match bytes? with
  | some bytes => (metric bytes 1024).map fun kibibytes => (kibibytes.divide 1024).round 2
  | none => .ok 0

/-- The record of how long a phase took. -/
def durationRecord (phase : String) (duration : Double) : Record :=
  ⟨.info, .metrics, "[METRIC] " ++ phase ++ " duration=" ++ duration.fixed 4 ++ "s"⟩

section

variable {m : Type → Type} [Monad m] {α ε : Type}

/-- Logs an event. -/
def event (tools : Instruments m) (e : Event) : m Unit := do
  let now ← tools.clock
  tools.emit (e.record now tools.onLines)

/-- Does the work of a phase and logs how long it took, whether or not it failed. -/
def timed (tools : Instruments m) (phase : String) (work : m α) : m α := do
  let start ← tools.clock
  let a ← work
  let finish ← tools.clock
  tools.emit (durationRecord phase (finish - start))
  pure a

/-- An operation on a target. -/
structure Operation (α ε : Type) where
  /-- The name of the operation, with which the names of its events start. -/
  name : String
  /-- What it works on. -/
  target : String
  /-- What its completion tells about the result; it wins over what all completions tell. -/
  summary : α → List (String × Json)
  /-- How its failure is told. -/
  failure : ε → Failure

/-- Why an observed operation has no result. -/
inductive Interruption (ε : Type) where
  | memory (e : MetricError)
  | work (e : ε)
  deriving DecidableEq, Repr

/-- What is known of an operation from its start. -/
structure Beginning where
  /-- The name of this run of the operation. -/
  operation : String
  start : Double
  /-- The memory in use then. -/
  memory : Double

/-- Notes the start of an operation. -/
def noteStart (tools : Instruments m) (op : Operation α ε) : m (Except MetricError Beginning) := do
  let start ← tools.clock
  match mebibytes (← tools.memory) with
  | .error e => pure (.error e)
  | .ok memory =>
    let operation ← tools.newOperation
    event tools
      { name := op.name ++ ".started", operation
        data := [("target", .text op.target), ("start_ram_mb", .double memory)] }
    pure (.ok ⟨operation, start, memory⟩)

/-- Notes the failure of an operation; the clock is read before the gauge. -/
def noteFailure (tools : Instruments m) (op : Operation α ε) (b : Beginning) (e : ε) :
    m (Interruption ε) := do
  let finish ← tools.clock
  match mebibytes (← tools.memory) with
  | .error e => pure (.memory e)
  | .ok memory =>
    let failure := op.failure e
    event tools
      { name := op.name ++ ".failed", operation := b.operation, level := Level.error.word
        data := [("duration_sec", .double ((finish - b.start).round 3)),
          ("crash_ram_mb", .double memory), ("target", .text op.target),
          ("error_type", .text failure.kind), ("error_msg", .text failure.message)] }
    pure (.work e)

/-- Notes the completion of an operation; the gauge is read before the clock. -/
def noteCompletion (tools : Instruments m) (op : Operation α ε) (b : Beginning) (a : α) :
    m (Except (Interruption ε) α) := do
  match mebibytes (← tools.memory) with
  | .error e => pure (.error (.memory e))
  | .ok memory =>
    let finish ← tools.clock
    event tools
      { name := op.name ++ ".completed", operation := b.operation
        data := Keyed.merge
          [("duration_sec", .double ((finish - b.start).round 3)), ("end_ram_mb", .double memory),
            ("ram_delta_mb", .double ((memory - b.memory).round 2)), ("target", .text op.target),
            ("status", .text "success")]
          (op.summary a) }
    pure (.ok a)

/-- Does the work of an operation between the events of its start and of its end. -/
def observed (tools : Instruments m) (op : Operation α ε) (work : m (Except ε α)) :
    m (Except (Interruption ε) α) := do
  match ← noteStart tools op with
  | .error e => pure (.error (.memory e))
  | .ok b =>
    match ← work with
    | .error e => return .error (← noteFailure tools op b e)
    | .ok a => noteCompletion tools op b a

end

end Cyclomatic.Log
