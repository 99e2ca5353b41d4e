import Cyclomatic.Proofs.Log.Trace
import Cyclomatic.Proofs.Project.Intake

/-!
# The trace of a scan

`Project.Traced` is the whole of what a scan tells, for each of its two ends. The records of the
phases come in their order, since runs compose; what is told of the sources is told source by source
(`records_eq_flatten`), since taking them in tells of each (`foldlM_takeIn`).
-/

set_option autoImplicit false

namespace Cyclomatic

open Log (Record Interruption Recording Adds OnlyAdds Measures Failure)

namespace Source

/-- What is told of a source: nothing if it declares a class, a debug record if its tokens form
none, and a warning if it fails. -/
inductive Told (source : Source) : List Record → Prop
  | declares {f : SourceFile} (h : source.Declares f) : Told source []
  | classless {tokens : List Token} (ht : Token.ofText source.content = .ok tokens)
      (hc : Class.ofTokens tokens = .ok none) :
      Told source [⟨.debug, .scanning, "[SKIP] Sin clase: " ++ source.path⟩]
  | fails {fault : Fault} (h : source.Fails fault) :
      Told source [⟨.warning, .scanning, "[SKIP] " ++ source.path ++ ": " ++ fault.message⟩]

variable {source : Source}

theorem exists_of_classless (h : source.finding = .classless) :
    ∃ tokens, Token.ofText source.content = .ok tokens ∧ Class.ofTokens tokens = .ok none := by
  unfold finding at h
  split at h
  · cases h
  · rename_i tokens ht
    refine ⟨tokens, ht, ?_⟩
    rcases hc : Class.ofTokens tokens with fault | - | declared
    · simp [hc, findingOf] at h
    · rfl
    · simp [hc, findingOf] at h

theorem told_record? (source : Source) : source.Told source.record?.toList := by
  cases hf : source.finding with
  | file f =>
    rw [record?, hf]
    exact .declares (finding_eq_file.1 hf)
  | classless =>
    obtain ⟨tokens, ht, hc⟩ := exists_of_classless hf
    rw [record?, hf]
    exact .classless ht hc
  | faulty fault =>
    rw [record?, hf]
    exact .fails (finding_eq_faulty.1 hf)

end Source

namespace Project

/-! ## The events of a scan -/

section

variable (onLines : Bool) (root operation : String)

/-- The record is the event of a scan's start. -/
def Started (r : Record) : Prop :=
  ∃ memory : Double, Log.Event.Told ⟨"index_codebase.started", operation, "INFO",
    [("target", .text root), ("start_ram_mb", .double memory)]⟩ onLines r

/-- The record is the event of a scan's completion with the given numbers of files, of skipped files
and of classes. -/
def Completed (files skipped classes : Nat) (r : Record) : Prop :=
  ∃ duration memory change : Double, Log.Event.Told ⟨"index_codebase.completed", operation, "INFO",
    [("duration_sec", .double duration), ("end_ram_mb", .double memory),
      ("ram_delta_mb", .double change), ("target", .text root), ("status", .text "success"),
      ("files", .int files), ("skipped", .int skipped), ("classes", .int classes)]⟩ onLines r

/-- The record is the event of a scan's failure. -/
def Failed (failure : Failure) (r : Record) : Prop :=
  ∃ duration memory : Double, Log.Event.Told ⟨"index_codebase.failed", operation, "ERROR",
    [("duration_sec", .double duration), ("crash_ram_mb", .double memory), ("target", .text root),
      ("error_type", .text failure.kind), ("error_msg", .text failure.message)]⟩ onLines r

end

/-- What a scan tells and comes to, if reading tells `own` and comes to the first outcome. -/
inductive Traced {ε : Type} (onLines : Bool) (failure : ε → Failure) (root : String)
    (own : List Record) :
    Except ε (List Source) → Except (Interruption ε) Project → List Record → Prop
  | completed {sources : List Source} {p : Project} {operation : String}
      {started read parsed built ended : Record} {told : List (List Record)}
      (hp : p = ofSources sources) (hs : Started onLines root operation started)
      (hr : Measures "read_sources" read) (ht : List.Forall₂ Source.Told sources told)
      (hm : Measures "parse_sources" parsed) (hb : Measures "build_index" built)
      (he : Completed onLines root operation p.files.length p.skipped.length p.index.length ended) :
      Traced onLines failure root own (.ok sources) (.ok p)
        ([started, ⟨.info, .scanning, "Iniciando escaneo. Raíz: " ++ root⟩] ++ own ++
          [read, ⟨.info, .scanning,
            "Filtrados y leídos " ++ toString sources.length ++ " archivos"⟩] ++
          told.flatten ++
          [parsed, ⟨.info, .scanning,
              "Escaneados y parseados " ++ toString p.files.length ++ " archivos"⟩,
            built, ⟨.info, .scanning, "Indexadas " ++ toString p.index.length ++ " clases"⟩, ended])
  | failed {e : ε} {operation : String} {started read ended : Record}
      (hs : Started onLines root operation started) (hr : Measures "read_sources" read)
      (he : Failed onLines root operation (failure e) ended) :
      Traced onLines failure root own (.error e) (.error (.work e))
        ([started, ⟨.info, .scanning, "Iniciando escaneo. Raíz: " ++ root⟩] ++ own ++ [read, ended])

/-! ## The phases -/

theorem records_eq_flatten (sources : List Source) :
    records sources = (sources.map fun source => source.record?.toList).flatten := by
  induction sources with
  | nil => rfl
  | cons source sources ih =>
    rw [records] at ih ⊢
    cases h : source.record? with
    | none => simp [h, ih]
    | some r => simp [h, ih]

theorem exists_told (sources : List Source) :
    ∃ told, List.Forall₂ Source.Told sources told ∧ records sources = told.flatten := by
  refine ⟨_, ?_, records_eq_flatten sources⟩
  rw [List.forall₂_map_right_iff, List.forall₂_same]
  exact fun source _ => source.told_record?

section

variable {σ ε : Type} {log : σ → List Record} {tools : Log.Instruments (StateM σ)}

theorem parsePhase_adds (h : Recording log tools) (sources : List Source) (s : σ) :
    ∃ intake t, Adds log (parsePhase tools sources) s intake (records sources) t ∧
      intake.project = ofSources sources := by
  obtain ⟨t, ht⟩ := h.forM_emitted (records sources) s
  have hrun : (Intake.project <$> parsePhase tools sources).run s = (ofSources sources, t) := by
    rw [parsePhase, foldlM_takeIn, StateT.run_bind, ht.run]
    rfl
  rw [StateT.run_map] at hrun
  obtain ⟨hproject, hstate⟩ := Prod.mk.inj hrun
  exact ⟨_, t, ⟨Prod.ext rfl hstate, ht.log⟩, hproject⟩

/-- What the phases of a scan tell and come to, if reading tells `own` and comes to the first
outcome. -/
inductive Phased (root : String) (own : List Record) :
    Except ε (List Source) → Except ε Project → List Record → Prop
  | read {sources : List Source} {read parsed built : Record} (hr : Measures "read_sources" read)
      (hm : Measures "parse_sources" parsed) (hb : Measures "build_index" built) :
      Phased root own (.ok sources) (.ok (ofSources sources))
        ([progress ("Iniciando escaneo. Raíz: " ++ root)] ++ own ++
          [read, progress ("Filtrados y leídos " ++ toString sources.length ++ " archivos")] ++
          records sources ++
          [parsed, progress ("Escaneados y parseados " ++
              toString (ofSources sources).files.length ++ " archivos"),
            built, progress ("Indexadas " ++
              toString (ofSources sources).index.length ++ " clases")])
  | unread {e : ε} {read : Record} (hr : Measures "read_sources" read) :
      Phased root own (.error e) (.error e)
        ([progress ("Iniciando escaneo. Raíz: " ++ root)] ++ own ++ [read])

theorem scanPhases_adds (h : Recording log tools) (root : String)
    (read : StateM σ (Except ε (List Source))) (s : σ) :
    ∃ s', ∀ {outcome : Except ε (List Source)} {own : List Record} {t : σ},
      Adds log read s' outcome own t →
      ∃ result records u, Adds log (scanPhases tools root read) s result records u ∧
        Phased root own outcome result records := by
  obtain ⟨s₁, hstart⟩ := h.emitted (progress ("Iniciando escaneo. Raíz: " ++ root)) s
  -- where reading starts is settled before what it does, so `s'` stands in front of it
  obtain ⟨s', hs'⟩ := h.timed "read_sources" read s₁
  refine ⟨s', fun {outcome own t} hread => ?_⟩
  obtain ⟨metric, s₂, htimed, hr⟩ := hs' hread
  unfold scanPhases
  cases outcome with
  | error e =>
    refine ⟨_, _, s₂, hstart.bind (htimed.bind (.pure _ s₂)), ?_⟩
    rw [List.append_nil, ← List.append_assoc]
    exact .unread hr
  | ok sources =>
    obtain ⟨s₃, hcount⟩ := h.emitted
      (progress ("Filtrados y leídos " ++ toString sources.length ++ " archivos")) s₂
    obtain ⟨s₄, hs₄⟩ := h.timed "parse_sources" (parsePhase tools sources) s₃
    obtain ⟨intake, s₅, hparse, hp⟩ := parsePhase_adds h sources s₄
    obtain ⟨parsed, s₆, hparsed, hm⟩ := hs₄ hparse
    obtain ⟨s₇, hfiles⟩ := h.emitted
      (progress ("Escaneados y parseados " ++ toString intake.files.length ++ " archivos")) s₆
    obtain ⟨s₈, hs₈⟩ := h.timed "build_index" (pure intake.project) s₇
    obtain ⟨built, s₉, hbuilt, hb⟩ := hs₈ (.pure intake.project s₈)
    obtain ⟨u, hclasses⟩ := h.emitted
      (progress ("Indexadas " ++ toString intake.project.index.length ++ " clases")) s₉
    refine ⟨_, _, u, hstart.bind (htimed.bind (hcount.bind (hparsed.bind (hfiles.bind
      (hbuilt.bind (hclasses.bind (.pure _ u))))))), ?_⟩
    have hlength : intake.files.length = (ofSources sources).files.length := by rw [← hp]; rfl
    rw [hp, hlength]
    have hphased : Phased (ε := ε) root own (.ok sources) (.ok (ofSources sources)) _ :=
      .read hr hm hb
    simpa using hphased

/-! ## The whole scan -/

theorem Traced.of_observed {onLines : Bool} {failure : ε → Failure} {root : String}
    {own told all : List Record} {outcome : Except ε (List Source)} {phased : Except ε Project}
    {result : Except (Interruption ε) Project} (hp : Phased root own outcome phased told)
    (ho : Log.Observed (scanOperation failure root) onLines told phased result all) :
    Traced onLines failure root own outcome result all := by
  cases hp with
  | @unread e _ hr =>
    cases ho with
    | failed hs he =>
      have hfailed : Traced onLines failure root own (.error e) _ _ :=
        .failed ⟨_, hs⟩ hr ⟨_, _, he⟩
      simpa [progress] using hfailed
  | @read sources _ _ _ hr hm hb =>
    cases ho with
    | completed hs he =>
      obtain ⟨told, ht, hrecords⟩ := exists_told sources
      have hcompleted : Traced onLines failure root own (.ok sources) _ _ :=
        .completed rfl ⟨_, hs⟩ hr ht hm hb ⟨_, _, _, he⟩
      rw [hrecords]
      simpa [progress] using hcompleted

theorem channel_of_told {sources : List Source} {told : List (List Record)}
    (h : List.Forall₂ Source.Told sources told) : ∀ r ∈ told.flatten, r.channel = .scanning := by
  induction h with
  | nil => simp
  | cons hs _ ih =>
    intro r hr
    rw [List.flatten_cons, List.mem_append] at hr
    rcases hr with hr | hr
    · cases hs <;> simp_all
    · exact ih r hr

/-- Apart from the reader's own there are two events, the start and the end, and the end is a
failure exactly if reading has failed. -/
theorem Traced.events {onLines : Bool} {failure : ε → Failure} {root : String}
    {own records : List Record} {outcome : Except ε (List Source)}
    {result : Except (Interruption ε) Project}
    (h : Traced onLines failure root own outcome result records) :
    ∃ started ended, records.filter (·.channel = .events) =
        started :: own.filter (·.channel = .events) ++ [ended] ∧
      (ended.level = .error ↔ ∃ e, outcome = .error e) := by
  cases h with
  | @failed e operation started read ended hs hr he =>
    obtain ⟨memory, hs⟩ := hs
    obtain ⟨duration, memory', he⟩ := he
    refine ⟨started, ended, ?_, iff_of_true he.level ⟨e, rfl⟩⟩
    simp [hs.channel, hr.channel, he.channel]
  | @completed sources p operation started read parsed built ended told _ hs hr ht hm hb he =>
    obtain ⟨memory, hs⟩ := hs
    obtain ⟨duration, memory', change, he⟩ := he
    have htold : told.flatten.filter (·.channel = .events) = [] := by
      rw [List.filter_eq_nil_iff]
      intro r hr
      simp [channel_of_told ht r hr]
    have hlevel : ended.level = .info := he.level
    refine ⟨started, ended, ?_, iff_of_false (by simp [hlevel]) (by simp)⟩
    simp only [List.filter_append, htold]
    simp [hs.channel, hr.channel, hm.channel, hb.channel, he.channel]

/-- **Every scan leaves a complete trace.** Whatever the reader does and comes to, the log grows by
the records of `Traced`: up to the completion, with the project that the sources make up, or up to
the failure, with the error that the reader came to. -/
theorem scanWith_traced (h : Recording log tools) {read : StateM σ (Except ε (List Source))}
    (hread : OnlyAdds log read) (failure : ε → Failure) (root : String) (s : σ) :
    ∃ t own records,
      log (read.run t).2 = log t ++ own ∧
      log ((scanWith tools failure root read).run s).2 = log s ++ records ∧
      Traced tools.onLines failure root own (read.run t).1
        ((scanWith tools failure root read).run s).1 records ∧
      ∃ started ended, records.filter (·.channel = .events) =
          started :: own.filter (·.channel = .events) ++ [ended] ∧
        (ended.level = .error ↔ ∃ e, (read.run t).1 = .error e) := by
  obtain ⟨s', hs'⟩ := h.observed (scanOperation failure root) (scanPhases tools root read) s
  obtain ⟨t, ht⟩ := scanPhases_adds h root read s'
  obtain ⟨own, hown⟩ := hread.adds t
  obtain ⟨phased, told, u, hphases, hphased⟩ := ht hown
  obtain ⟨result, records, v, hscan, hobserved⟩ := hs' hphases
  have htraced := Traced.of_observed hphased hobserved
  have hrun : (scanWith tools failure root read).run s = (result, v) := hscan.run
  rw [hrun]
  exact ⟨t, own, records, hown.log, hscan.log, htraced, htraced.events⟩

end

/-- A source without a class. -/
def bare : Source := ⟨"c.php", "<?php echo 1;", 0⟩

/-- A record of a reader's own. -/
def remark : Record := ⟨.info, .disk, "Leídos"⟩

/-- A reader that tells something and comes to the given outcome. -/
def remarking (outcome : Except ReadFault (List Source)) :
    StateM (List Record) (Except ReadFault (List Source)) := do
  collecting.emit remark
  pure outcome

theorem recording_collecting : Recording id collecting where
  clock _ := rfl
  memory _ := rfl
  newOperation _ := rfl
  emit _ _ := rfl
  gauge _ _ h := by cases h

theorem onlyAdds_remarking (outcome : Except ReadFault (List Source)) :
    OnlyAdds id (remarking outcome) := fun _ => ⟨[remark], rfl⟩

/-- One source that declares a class, one that fails and one without a class; and no directory. -/
theorem scanWith_traced_of_remarking :
    Recording id collecting ∧ (∀ outcome, OnlyAdds id (remarking outcome)) ∧
      ∀ outcome ∈ [.ok [whole, unfinished, bare], .error (.notDirectory "src")],
        ∃ result records, (scanWith collecting ReadFault.failure "src" (remarking outcome)).run [] =
            (result, records) ∧
          Traced false ReadFault.failure "src" [remark] outcome result records := by
  refine ⟨recording_collecting, onlyAdds_remarking, fun outcome _ => ?_⟩
  obtain ⟨t, own, records, hown, hlog, htraced, -⟩ := scanWith_traced recording_collecting
    (onlyAdds_remarking outcome) ReadFault.failure "src" []
  obtain rfl : [remark] = own := List.append_cancel_left hown
  exact ⟨_, records, Prod.ext rfl hlog, htraced⟩

end Project

end Cyclomatic
