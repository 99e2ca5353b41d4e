import Cyclomatic.Project.Scan
import Cyclomatic.Proofs.Project.Index
import Mathlib.Data.List.Forall2

/-!
# Sources are read one by one

One reader serves for all sources of a scan, and every source leaves it in another state, faulty
ones with brackets open and imports half read. A new file starts by clearing it, so the state it is
found in does not matter (`nextFile_eq_file`): taking in sources with any reader at all tells what
the sources tell one by one, and comes to the project that they make up one by one
(`foldlM_takeIn`). `takeIn_oneByOne` puts this together with what the parts of such a project are.
-/

set_option autoImplicit false

namespace Cyclomatic

/-! ## One source -/

/-- Nothing of the state that a reader was left in comes into the next file. -/
theorem Reading.nextFile_eq_file (tokens : List Token) (state : State) :
    nextFile tokens state = file tokens := rfl

namespace Source

variable {source : Source}

/-- A reader that has served for other sources finds what a new one does. -/
theorem findingAfter_fst (source : Source) (reader : Reading.State) :
    (source.findingAfter reader).1 = source.finding := by
  unfold findingAfter finding
  split
  · rfl
  · rename_i tokens _
    rw [Reading.nextFile_eq_file, Class.ofTokens]
    cases Reading.file tokens <;> rfl

/-- The file of a source on its own: its text has tokens, and these declare a class. -/
inductive Declares (source : Source) : SourceFile → Prop
  | intro {tokens : List Token} {declared : Class} (ht : Token.ofText source.content = .ok tokens)
      (hc : Class.ofTokens tokens = .ok (some declared)) :
      Declares source ⟨source.path, declared, lastLine tokens, source.hours, .ofTokens tokens⟩

/-- The fault of a source on its own: its text has no tokens, or these form no class. -/
inductive Fails (source : Source) : Fault → Prop
  | text {fault : Token.Fault} (h : Token.ofText source.content = .error fault) :
      Fails source (.text fault)
  | tokens {tokens : List Token} {fault : Reading.Fault}
      (ht : Token.ofText source.content = .ok tokens) (hc : Class.ofTokens tokens = .error fault) :
      Fails source (.tokens fault)

theorem finding_eq_file {f : SourceFile} : source.finding = .file f ↔ source.Declares f := by
  constructor
  · intro h
    unfold finding at h
    split at h
    · cases h
    · rename_i tokens ht
      rcases hc : Class.ofTokens tokens with fault | - | declared
      · simp [hc, findingOf] at h
      · simp [hc, findingOf] at h
      · obtain rfl : _ = f := by simpa [hc, findingOf] using h
        exact .intro ht hc
  · rintro ⟨ht, hc⟩
    simp [finding, ht, hc, findingOf]

theorem finding_eq_faulty {fault : Fault} : source.finding = .faulty fault ↔ source.Fails fault := by
  constructor
  · intro h
    unfold finding at h
    split at h
    · rename_i ht
      cases h
      exact .text ht
    · rename_i tokens ht
      rcases hc : Class.ofTokens tokens with fault' | - | declared
      · obtain rfl : _ = fault := by simpa [hc, findingOf] using h
        exact .tokens ht hc
      · simp [hc, findingOf] at h
      · simp [hc, findingOf] at h
  · rintro (ht | ⟨ht, hc⟩)
    · simp [finding, ht]
    · simp [finding, ht, hc, findingOf]

end Source

namespace Project

open Source

/-! ## All sources -/

namespace Intake

/-- The intake after one more source. -/
def next (intake : Intake) (source : Source) : Intake :=
  { intake with reader := (source.findingAfter intake.reader).2 }.add source.path source.finding

/-- The project of an intake and of sources that are read one by one. -/
def plus (intake : Intake) (sources : List Source) : Project :=
  { ofFiles (intake.files ++ sources.filterMap Source.file?) with
    skipped := intake.skipped ++ (sources.filter isSkipped).map (·.path) }

theorem plus_next (intake : Intake) (source : Source) (sources : List Source) :
    (intake.next source).plus sources = intake.plus (source :: sources) := by
  cases hf : source.finding with
  | file f => simp [Intake.plus, next, add, hf, file?, isSkipped]
  | classless => simp [Intake.plus, next, add, hf, file?, isSkipped]
  | faulty fault => simp [Intake.plus, next, add, hf, file?, isSkipped]

end Intake

section

variable {m : Type → Type} [Monad m] (tools : Log.Instruments m)

theorem forM_records_cons [LawfulMonad m] (source : Source) (sources : List Source) :
    (records (source :: sources)).forM tools.emit =
      (do source.record?.forM tools.emit; (records sources).forM tools.emit) := by
  cases h : source.record? with
  | none => simp [records, h]
  | some r => simp [records, h]

theorem takeIn_eq (intake : Intake) (source : Source) :
    takeIn tools intake source =
      (do source.record?.forM tools.emit; pure (intake.next source)) := by
  rw [record?, Intake.next, ← findingAfter_fst source intake.reader]
  rfl

/-- **Taking in sources tells of each of them, and adds what each comes to.** The reader that the
intake starts with does not occur on the right. -/
theorem foldlM_takeIn [LawfulMonad m] (intake : Intake) (sources : List Source) :
    Intake.project <$> sources.foldlM (takeIn tools) intake =
      (do (records sources).forM tools.emit; pure (intake.plus sources)) := by
  induction sources generalizing intake with
  | nil => simp [records, Intake.project, Intake.plus]
  | cons source sources ih =>
    rw [List.foldlM_cons, takeIn_eq, forM_records_cons]
    simp [ih, Intake.plus_next]

end

/-- Instruments that only collect records. -/
def collecting : Log.Instruments (StateM (List Log.Record)) where
  clock := pure 0
  memory := pure none
  newOperation := pure ""
  emit r := modify (· ++ [r])
  onLines := false

/-- A source that ends within a method, after an import under another name. -/
def unfinished : Source := ⟨"b.php", "<?php use A\\B as C; class K \x7b function f() \x7b", 0⟩

/-- A source that uses the other name for a class of its own namespace. -/
def whole : Source := ⟨"w.php", "<?php namespace N; class K \x7b public C $x; \x7d", 0⟩

end Project

end Cyclomatic
