import Cyclomatic.Log.Measure
import Cyclomatic.Proofs.Json.Text
import Cyclomatic.Proofs.Metric

/-!
# What watched work leaves in the log

The log is read off the state that a run is in. `Adds` says what work answers, where it ends, and
which records it adds; runs compose (`Adds.bind`), so the records of a phase (`Recording.timed`) and
of an operation (`Recording.observed`) are those of the work itself with a record behind them, or
between two.

An operation breaks off without its last event if the memory in use cannot be shown. A gauge that
counts bytes in a machine word never shows so much (`exists_mebibytes`).
-/

set_option autoImplicit false

namespace Cyclomatic.Log

variable {σ α β ε : Type}

section

variable (log : σ → List Record)

/-- From `s` the work comes to `a` and `t`, and `records` are what it adds to the log. -/
structure Adds (work : StateM σ α) (s : σ) (a : α) (records : List Record) (t : σ) : Prop where
  run : work.run s = (a, t)
  log : log t = log s ++ records

/-- The work may add records to the log, but takes none from it. -/
def OnlyAdds (work : StateM σ α) : Prop := ∀ s, ∃ records, log (work.run s).2 = log s ++ records

/-- Instruments with this log: a record that is emitted comes to its end, and nothing else changes
it. The gauge counts bytes in 64 binary digits. -/
structure Recording (tools : Instruments (StateM σ)) : Prop where
  clock : ∀ s, log (tools.clock.run s).2 = log s
  memory : ∀ s, log (tools.memory.run s).2 = log s
  newOperation : ∀ s, log (tools.newOperation.run s).2 = log s
  emit : ∀ r s, log ((tools.emit r).run s).2 = log s ++ [r]
  gauge : ∀ s, ∀ bytes ∈ (tools.memory.run s).1, bytes.natAbs < 2 ^ 64

end

variable {log : σ → List Record}

namespace Adds

theorem pure (a : α) (s : σ) : Adds log (Pure.pure a) s a [] s := ⟨rfl, (List.append_nil _).symm⟩

theorem silent {work : StateM σ α} {s : σ} (h : log (work.run s).2 = log s) :
    Adds log work s (work.run s).1 [] (work.run s).2 :=
  ⟨rfl, by rw [h, List.append_nil]⟩

theorem bind {work : StateM σ α} {next : α → StateM σ β} {s t u : σ} {a : α} {b : β}
    {records more : List Record} (h : Adds log work s a records t)
    (hn : Adds log (next a) t b more u) : Adds log (work >>= next) s b (records ++ more) u where
  run := by
    rw [StateT.run_bind, h.run]
    exact hn.run
  log := by rw [hn.log, h.log, List.append_assoc]

end Adds

theorem OnlyAdds.adds {work : StateM σ α} (h : OnlyAdds log work) (s : σ) :
    ∃ records, Adds log work s (work.run s).1 records (work.run s).2 := by
  obtain ⟨records, hl⟩ := h s
  exact ⟨records, rfl, hl⟩

/-! ## The gauge -/

theorem exists_mebibytes {bytes? : Option Int} (h : ∀ bytes ∈ bytes?, bytes.natAbs < 2 ^ 64) :
    ∃ memory, mebibytes bytes? = .ok memory := by
  cases bytes? with
  | none => exact ⟨0, rfl⟩
  | some bytes =>
    have hlt : bytes.natAbs < 2 ^ 64 := h bytes rfl
    have hle : |((bytes : ℚ) / 1024)| ≤ (2 ^ 64 : Nat) := by
      have habs : |(bytes : ℚ)| ≤ (2 ^ 64 : Nat) := by
        rw [← Int.cast_abs, ← Nat.cast_natAbs]
        exact_mod_cast hlt.le
      rw [abs_div]
      exact (div_le_self (abs_nonneg _) (by norm_num)).trans habs
    have hmetric := metric_roundsTo bytes (by omega : 0 < 1024)
    obtain ⟨kibibytes, hk⟩ := hmetric.exists_of_le (n := 64) (by omega) hle
    exact ⟨_, by rw [mebibytes, hk]; rfl⟩

/-! ## Phases and operations -/

/-- The record tells how long the phase took. -/
def Measures (phase : String) (r : Record) : Prop :=
  ∃ duration : Double,
    r = ⟨.info, .metrics, "[METRIC] " ++ phase ++ " duration=" ++ duration.fixed 4 ++ "s"⟩

/-- The document tells the event, with a time. -/
def Event.Tells (e : Event) (document : Json) : Prop :=
  ∃ time : Double, document = .object
    [("timestamp", .double time), ("level", .text e.level), ("event", .text e.name),
      ("correlation_id", .text e.operation), ("data", .object e.data)]

/-- The record tells the event: its message is a JSON text of a document that does, on several lines
or on one. -/
structure Event.Told (e : Event) (onLines : Bool) (r : Record) : Prop where
  level : r.level = if e.level = "ERROR" then .error else .info
  channel : r.channel = .events
  message : ∃ document, e.Tells document ∧ document.IsText r.message.toList ∧
    r.message = if onLines then document.indented 4 else document.compact

theorem Event.told_record (e : Event) (time : Double) (onLines : Bool) :
    e.Told onLines (e.record time onLines) where
  level := rfl
  channel := rfl
  message := by
    refine ⟨e.document time, ⟨time, rfl⟩, ?_, rfl⟩
    rw [record]
    cases onLines with
    | true => exact Json.isText_indented 4 (e.document time)
    | false => exact Json.isText_compact (e.document time)

theorem Measures.channel {phase : String} {r : Record} (h : Measures phase r) :
    r.channel = .metrics := by
  obtain ⟨duration, rfl⟩ := h
  rfl

/-- The records of an operation, around those that its work has told. Both events belong to the same
run of it. -/
inductive Observed (op : Operation α ε) (onLines : Bool) (told : List Record) :
    Except ε α → Except (Interruption ε) α → List Record → Prop
  | completed {a : α} {operation : String} {before after change duration : Double}
      {started ended : Record}
      (hs : Event.Told ⟨op.name ++ ".started", operation, Level.info.word,
        [("target", .text op.target), ("start_ram_mb", .double before)]⟩ onLines started)
      (he : Event.Told ⟨op.name ++ ".completed", operation, Level.info.word,
        Keyed.merge
          [("duration_sec", .double duration), ("end_ram_mb", .double after),
            ("ram_delta_mb", .double change), ("target", .text op.target),
            ("status", .text "success")]
          (op.summary a)⟩ onLines ended) :
      Observed op onLines told (.ok a) (.ok a) (started :: told ++ [ended])
  | failed {e : ε} {operation : String} {before after duration : Double} {started ended : Record}
      (hs : Event.Told ⟨op.name ++ ".started", operation, Level.info.word,
        [("target", .text op.target), ("start_ram_mb", .double before)]⟩ onLines started)
      (he : Event.Told ⟨op.name ++ ".failed", operation, Level.error.word,
        [("duration_sec", .double duration), ("crash_ram_mb", .double after),
          ("target", .text op.target), ("error_type", .text (op.failure e).kind),
          ("error_msg", .text (op.failure e).message)]⟩ onLines ended) :
      Observed op onLines told (.error e) (.error (.work e)) (started :: told ++ [ended])

namespace Recording

variable {tools : Instruments (StateM σ)}

theorem now (h : Recording log tools) (s : σ) : ∃ now t, Adds log tools.clock s now [] t :=
  ⟨_, _, .silent (h.clock s)⟩

theorem name (h : Recording log tools) (s : σ) :
    ∃ operation t, Adds log tools.newOperation s operation [] t :=
  ⟨_, _, .silent (h.newOperation s)⟩

theorem shown (h : Recording log tools) (s : σ) :
    ∃ bytes? memory t, Adds log tools.memory s bytes? [] t ∧ mebibytes bytes? = .ok memory := by
  obtain ⟨memory, hm⟩ := exists_mebibytes (h.gauge s)
  exact ⟨_, memory, _, .silent (h.memory s), hm⟩

theorem emitted (h : Recording log tools) (r : Record) (s : σ) :
    ∃ t, Adds log (tools.emit r) s () [r] t :=
  ⟨_, rfl, h.emit r s⟩

theorem forM_emitted (h : Recording log tools) (records : List Record) (s : σ) :
    ∃ t, Adds log (records.forM tools.emit) s () records t := by
  induction records generalizing s with
  | nil => exact ⟨s, .pure () s⟩
  | cons r records ih =>
    obtain ⟨t, hr⟩ := h.emitted r s
    obtain ⟨u, hrs⟩ := ih t
    exact ⟨u, hr.bind hrs⟩

theorem event (h : Recording log tools) (e : Event) (s : σ) :
    ∃ r t, Adds log (Log.event tools e) s () [r] t ∧ e.Told tools.onLines r := by
  obtain ⟨now, t, hnow⟩ := h.now s
  obtain ⟨u, hr⟩ := h.emitted (e.record now tools.onLines) t
  exact ⟨_, u, hnow.bind hr, e.told_record now tools.onLines⟩

/-- A phase leaves what its work does, and then how long it took. -/
theorem timed (h : Recording log tools) (phase : String) (work : StateM σ α) (s : σ) :
    ∃ s', ∀ {a : α} {records : List Record} {t : σ}, Adds log work s' a records t →
      ∃ r u, Adds log (Log.timed tools phase work) s a (records ++ [r]) u ∧ Measures phase r := by
  obtain ⟨start, s', hstart⟩ := h.now s
  refine ⟨s', fun {a records t} hwork => ?_⟩
  obtain ⟨finish, t', hfinish⟩ := h.now t
  obtain ⟨u, hr⟩ := h.emitted (durationRecord phase (finish - start)) t'
  refine ⟨_, u, ?_, finish - start, rfl⟩
  unfold Log.timed
  exact hstart.bind (hwork.bind (hfinish.bind (hr.bind (.pure a u))))

theorem noteStart (h : Recording log tools) (op : Operation α ε) (s : σ) :
    ∃ b r t, Adds log (Log.noteStart tools op) s (.ok b) [r] t ∧
      Event.Told ⟨op.name ++ ".started", b.operation, Level.info.word,
        [("target", .text op.target), ("start_ram_mb", .double b.memory)]⟩ tools.onLines r := by
  obtain ⟨start, s₁, hstart⟩ := h.now s
  obtain ⟨bytes?, memory, s₂, hbytes, hm⟩ := h.shown s₁
  obtain ⟨operation, s₃, hname⟩ := h.name s₂
  obtain ⟨r, t, hr, htold⟩ := h.event ⟨op.name ++ ".started", operation, Level.info.word,
    [("target", .text op.target), ("start_ram_mb", .double memory)]⟩ s₃
  refine ⟨⟨operation, start, memory⟩, r, t, ?_, htold⟩
  unfold Log.noteStart
  refine hstart.bind (hbytes.bind ?_)
  rw [hm]
  exact hname.bind (hr.bind (.pure _ t))

theorem noteFailure (h : Recording log tools) (op : Operation α ε) (b : Beginning) (e : ε) (s : σ) :
    ∃ duration memory r t, Adds log (Log.noteFailure tools op b e) s (.work e) [r] t ∧
      Event.Told ⟨op.name ++ ".failed", b.operation, Level.error.word,
        [("duration_sec", .double duration), ("crash_ram_mb", .double memory),
          ("target", .text op.target), ("error_type", .text (op.failure e).kind),
          ("error_msg", .text (op.failure e).message)]⟩ tools.onLines r := by
  obtain ⟨finish, s₁, hfinish⟩ := h.now s
  obtain ⟨bytes?, memory, s₂, hbytes, hm⟩ := h.shown s₁
  obtain ⟨r, t, hr, htold⟩ := h.event ⟨op.name ++ ".failed", b.operation, Level.error.word,
    [("duration_sec", .double ((finish - b.start).round 3)), ("crash_ram_mb", .double memory),
      ("target", .text op.target), ("error_type", .text (op.failure e).kind),
      ("error_msg", .text (op.failure e).message)]⟩ s₂
  refine ⟨_, memory, r, t, ?_, htold⟩
  unfold Log.noteFailure
  refine hfinish.bind (hbytes.bind ?_)
  rw [hm]
  exact hr.bind (.pure _ t)

theorem noteCompletion (h : Recording log tools) (op : Operation α ε) (b : Beginning) (a : α)
    (s : σ) :
    ∃ duration memory change r t, Adds log (Log.noteCompletion tools op b a) s (.ok a) [r] t ∧
      Event.Told ⟨op.name ++ ".completed", b.operation, Level.info.word,
        Keyed.merge
          [("duration_sec", .double duration), ("end_ram_mb", .double memory),
            ("ram_delta_mb", .double change), ("target", .text op.target),
            ("status", .text "success")]
          (op.summary a)⟩ tools.onLines r := by
  obtain ⟨bytes?, memory, s₁, hbytes, hm⟩ := h.shown s
  obtain ⟨finish, s₂, hfinish⟩ := h.now s₁
  obtain ⟨r, t, hr, htold⟩ := h.event ⟨op.name ++ ".completed", b.operation, Level.info.word,
    Keyed.merge
      [("duration_sec", .double ((finish - b.start).round 3)), ("end_ram_mb", .double memory),
        ("ram_delta_mb", .double ((memory - b.memory).round 2)), ("target", .text op.target),
        ("status", .text "success")]
      (op.summary a)⟩ s₂
  refine ⟨_, memory, _, r, t, ?_, htold⟩
  unfold Log.noteCompletion
  refine hbytes.bind ?_
  rw [hm]
  exact hfinish.bind (hr.bind (.pure _ t))

/-- An operation leaves what its work does, between the event of its start and one of its end. -/
theorem observed (h : Recording log tools) (op : Operation α ε) (work : StateM σ (Except ε α))
    (s : σ) :
    ∃ s', ∀ {outcome : Except ε α} {told : List Record} {t : σ}, Adds log work s' outcome told t →
      ∃ result records u, Adds log (Log.observed tools op work) s result records u ∧
        Observed op tools.onLines told outcome result records := by
  obtain ⟨b, started, s', hstart, hs⟩ := h.noteStart op s
  refine ⟨s', fun {outcome told t} hwork => ?_⟩
  unfold Log.observed
  cases outcome with
  | error e =>
    obtain ⟨duration, memory, ended, u, hend, he⟩ := h.noteFailure op b e t
    exact ⟨_, _, u, hstart.bind (hwork.bind (hend.bind (.pure _ u))), .failed hs he⟩
  | ok a =>
    obtain ⟨duration, memory, change, ended, u, hend, he⟩ := h.noteCompletion op b a t
    exact ⟨_, _, u, hstart.bind (hwork.bind hend), .completed hs he⟩

end Recording

end Cyclomatic.Log
