import Cyclomatic.Proofs.Class.Metrics
import Cyclomatic.Proofs.Project.Intake
import Cyclomatic.Proofs.Report
import Cyclomatic.Proofs.Token.Calls

/-!
# What a report says agrees with itself

`parts?` reads a report as a document, without the project that it is made of. What is read is
consistent (`Parts.Consistent`): the totals count what is listed, and the figures of a class are those
of the methods listed for it. `document_consistent` says this of all reports, and that they list the
files in order, with the numbers of their tokens.
-/

set_option autoImplicit false

namespace Cyclomatic

/-! ## Reading documents -/

namespace Json

def member? (name : String) : Json → Option Json
  | object members => members.lookup name
  | _ => none

def int? : Json → Option Int
  | int n => some n
  | _ => none

def double? : Json → Option Double
  | double x => some x
  | _ => none

def text? : Json → Option String
  | text s => some s
  | _ => none

variable {α β : Type}

/-- The member of a name, read by `read`. -/
def field? (name : String) (read : Json → Option α) (j : Json) : Option α :=
  (j.member? name).bind read

def listOf? (read : Json → Option α) : Json → Option (List α)
  | list items => items.mapM read
  | _ => none

def objectOf? (read : Json → Option α) : Json → Option (List (String × α))
  | object members => members.mapM fun (name, j) => (read j).map (name, ·)
  | _ => none

theorem listOf?_map {write : α → Json} {read : Json → Option β} {part : α → β}
    (h : ∀ a, read (write a) = some (part a)) (items : List α) :
    listOf? read (.list (items.map write)) = some (items.map part) := by
  refine Report.mapM_eq_pure ?_
  rw [List.forall₂_map_left_iff, List.forall₂_map_right_iff]
  exact List.forall₂_same.2 fun a _ => h a

theorem objectOf?_map {write : α → Json} {read : Json → Option α}
    (h : ∀ a, read (write a) = some a) (members : List (String × α)) :
    objectOf? read (.object (members.map fun (name, a) => (name, write a))) = some members := by
  refine Report.mapM_eq_pure ?_
  rw [List.forall₂_map_left_iff]
  refine List.forall₂_same.2 fun (name, a) _ => ?_
  change (read (write a)).map (name, ·) = some (name, a)
  rw [h]
  rfl

end Json

/-! ## How many tokens there are -/

namespace Token

theorem Profile.total_add (kind : Kind) (p : Profile) : (p.add kind).total = p.total + 1 := by
  unfold add
  induction p with
  | nil => rfl
  | cons entry rest ih =>
    obtain ⟨k, n⟩ := entry
    rw [Keyed.update]
    split
    · simp only [total, Option.getD_some]
      omega
    · simp only [total, ih]
      omega

theorem Profile.total_ofTokens (tokens : List Token) : (ofTokens tokens).total = tokens.length := by
  have h (p : Profile) : (tokens.foldl (fun p t => p.add t.kind) p).total =
      p.total + tokens.length := by
    induction tokens generalizing p with
    | nil => simp
    | cons t rest ih =>
      rw [List.foldl_cons, ih, total_add, List.length_cons]
      omega
  simpa [ofTokens, total] using h []

end Token

namespace Report

/-! ## The parts of a report -/

structure StatementPart where
  kind : String
  line : Int
  complexity : Int

structure MethodPart where
  name : String
  complexity : Int
  statements : List StatementPart

structure FilePart where
  path : String
  tokenCount : Int
  className : String
  usedIn : Int
  average : Double
  highest : Int
  methods : List MethodPart

/-- What a report says, as far as it can be compared. -/
structure Parts where
  totalFiles : Int
  totalClasses : Int
  totalMethods : Int
  files : List FilePart
  index : List (String × Int)

def statementPart? (j : Json) : Option StatementPart := do
  let kind ← j.field? "kind" Json.text?
  let line ← j.field? "line" Json.int?
  let complexity ← j.field? "complexity" Json.int?
  pure { kind, line, complexity }

def methodPart? (j : Json) : Option MethodPart := do
  let name ← j.field? "name" Json.text?
  let complexity ← j.field? "complexity" Json.int?
  let statements ← j.field? "statements" (Json.listOf? statementPart?)
  pure { name, complexity, statements }

def filePart? (j : Json) : Option FilePart := do
  let path ← j.field? "path" Json.text?
  let tokenCount ← j.field? "token_count" Json.int?
  let declared ← j.member? "class"
  let className ← declared.field? "name" Json.text?
  let usedIn ← declared.field? "used_in" Json.int?
  let average ← declared.field? "average_complexity" Json.double?
  let highest ← declared.field? "max_complexity" Json.int?
  let methods ← declared.field? "functions" (Json.listOf? methodPart?)
  pure { path, tokenCount, className, usedIn, average, highest, methods }

def parts? (report : Json) : Option Parts := do
  let summary ← report.member? "summary"
  let totalFiles ← summary.field? "total_files" Json.int?
  let totalClasses ← summary.field? "total_classes" Json.int?
  let totalMethods ← summary.field? "total_functions" Json.int?
  let files ← report.field? "files" (Json.listOf? filePart?)
  let index ← report.field? "index" (Json.objectOf? Json.int?)
  pure { totalFiles, totalClasses, totalMethods, files, index }

/-! ## What is written -/

def StatementPart.of (s : Statement) : StatementPart := ⟨s.name, s.line, s.complexity⟩

def MethodPart.of (m : Method) : MethodPart := ⟨m.name, m.complexity, m.statements.map .of⟩

def FilePart.of (index : Index) (f : SourceFile) (average : Double) : FilePart where
  path := f.path
  tokenCount := f.tokenCount
  className := f.declared.name
  usedIn := index.usages f.declared.name
  average := average
  highest := f.declared.highestComplexity
  methods := f.declared.methods.map .of

/-- What is written of a file whose class has an average complexity. -/
def FilePart.IsOf (index : Index) (f : SourceFile) (part : FilePart) : Prop :=
  ∃ average, f.declared.averageComplexity = .ok average ∧ part = .of index f average

theorem statementPart?_statementEntry (s : Statement) :
    statementPart? (statementEntry s) = some (.of s) := rfl

theorem methodPart?_methodEntry (m : Method) : methodPart? (methodEntry m) = some (.of m) := by
  have hs := Json.listOf?_map statementPart?_statementEntry m.statements
  change (Json.listOf? statementPart? (.list (m.statements.map statementEntry))).bind _ = _
  rw [hs]
  rfl

theorem filePart?_fileEntry {index : Index} {f : SourceFile} {entry : Json}
    (h : fileEntry index f = .ok entry) :
    ∃ part, filePart? entry = some part ∧ FilePart.IsOf index f part := by
  rw [fileEntry] at h
  cases ha : f.declared.averageComplexity with
  | error e =>
    rw [ha] at h
    cases h
  | ok average =>
    rw [ha] at h
    cases h
    refine ⟨.of index f average, ?_, average, ha, rfl⟩
    have hm := Json.listOf?_map methodPart?_methodEntry f.declared.methods
    change (Json.listOf? methodPart? (.list (f.declared.methods.map methodEntry))).bind _ = _
    rw [hm]
    rfl

theorem exists_fileParts {index : Index} {files : List SourceFile} {entries : List Json}
    (h : List.Forall₂ (fun f entry => fileEntry index f = .ok entry) files entries) :
    ∃ parts, entries.mapM filePart? = some parts ∧
      List.Forall₂ (FilePart.IsOf index) files parts := by
  induction h with
  | nil => exact ⟨[], rfl, .nil⟩
  | cons hentry _ ih =>
    obtain ⟨part, hpart, hof⟩ := filePart?_fileEntry hentry
    obtain ⟨parts, hparts, hall⟩ := ih
    refine ⟨part :: parts, ?_, .cons hof hall⟩
    rw [List.mapM_cons, hpart, hparts]
    rfl

theorem measurable_of_document {time : String} {index : Index} {files : List SourceFile}
    {report : Json} (h : document time index files = .ok report) : ∀ f ∈ files, f.Measurable := by
  by_contra hn
  rw [document_error (by simpa using hn) time] at h
  cases h

theorem exists_parts {time : String} {index : Index} {files : List SourceFile} {report : Json}
    (h : document time index files = .ok report) :
    ∃ parts, parts? report = some parts ∧ parts.totalFiles = files.length ∧
      parts.totalClasses = index.length ∧ parts.totalMethods = methodCount files ∧
      parts.index = index ∧ List.Forall₂ (FilePart.IsOf index) files parts.files := by
  obtain ⟨entries, hentries, hall⟩ := exists_entries (measurable_of_document h)
  obtain ⟨parts, hparts, hof⟩ := exists_fileParts hall
  rw [document, hentries] at h
  cases h
  have hindex := @Json.objectOf?_map _ Json.int Json.int? (fun _ => rfl) index
  refine ⟨⟨files.length, index.length, methodCount files, parts, index⟩, ?_, rfl, rfl, rfl, rfl, hof⟩
  change (entries.mapM filePart?).bind _ = _
  exact Option.bind_eq_some_iff.2 ⟨parts, hparts, Option.bind_eq_some_iff.2 ⟨index, hindex, rfl⟩⟩

/-! ## Consistency -/

namespace FilePart

/-- The methods that count for the average. -/
def measured (part : FilePart) : List MethodPart := part.methods.filter (·.name ≠ "__construct")

/-- The figures of a class are those of the methods listed for it, and its uses those in the index. -/
structure Consistent (index : List (String × Int)) (part : FilePart) : Prop where
  usedIn : part.usedIn = (index.lookup part.className).getD 0
  complexity : ∀ m ∈ part.methods, m.complexity = 1 + (m.statements.map (·.complexity)).sum
  highest : part.methods ≠ [] → IsGreatest {n | ∃ m ∈ part.methods, m.complexity = n} part.highest
  highestOfNone : part.methods = [] → part.highest = 0
  average : part.measured ≠ [] →
    RoundsTo (((part.measured.map (·.complexity)).sum : Int) / part.measured.length)
      (.ok part.average)
  averageOfNone : part.measured = [] → part.average = 0

theorem measured_of (index : Index) (f : SourceFile) (average : Double) :
    (of index f average).measured = f.declared.measured.map .of := by
  rw [measured, of, Class.measured, List.filter_map]
  congr 1
  refine List.filter_congr fun m _ => ?_
  by_cases hn : m.name = "__construct" <;>
    simp [MethodPart.of, Method.isConstructor, Method.constructorName, hn]

theorem map_complexity_of (methods : List Method) :
    (methods.map MethodPart.of).map (·.complexity) = methods.map Method.complexity := by
  rw [List.map_map]
  rfl

theorem IsOf.consistent {index : Index} {f : SourceFile} {part : FilePart}
    (h : IsOf index f part) : part.Consistent index := by
  obtain ⟨average, h, rfl⟩ := h
  constructor
  · rfl
  · intro m hm
    obtain ⟨n, -, rfl⟩ := List.mem_map.1 hm
    have hsum : ((n.statements.map StatementPart.of).map (·.complexity)).sum =
        Statement.complexityOfAll n.statements := by
      rw [List.map_map, Statement.complexityOfAll_eq_sum]
      rfl
    rw [MethodPart.of, hsum, Method.complexity, Int.add_comm]
  · intro hne
    obtain ⟨n, hn, hhighest⟩ := Class.exists_highest (c := f.declared) (by simpa [of] using hne)
    refine ⟨⟨.of n, List.mem_map_of_mem hn, hhighest⟩, ?_⟩
    rintro _ ⟨m, hm, rfl⟩
    obtain ⟨o, ho, rfl⟩ := List.mem_map.1 hm
    exact Class.complexity_le_highest ho
  · intro hnil
    exact Class.highestComplexity_of_nil (List.map_eq_nil_iff.1 hnil)
  · rw [measured_of, map_complexity_of, List.length_map]
    intro hne
    have hround := Class.averageComplexity_roundsTo (mt List.map_eq_nil_iff.2 hne)
    rwa [h] at hround
  · rw [measured_of]
    intro hnil
    have hzero := Class.averageComplexity_of_nil (List.map_eq_nil_iff.1 hnil)
    exact Except.ok.inj (h.symm.trans hzero)

end FilePart

/-- The totals count what is listed, and every file is consistent. -/
structure Parts.Consistent (parts : Parts) : Prop where
  totalFiles : parts.totalFiles = parts.files.length
  totalClasses : parts.totalClasses = parts.index.length
  totalMethods : parts.totalMethods = (parts.files.map (·.methods.length)).sum
  files : ∀ part ∈ parts.files, part.Consistent parts.index

/-- A file is listed with its place, the number of its tokens and its class, with the methods of the
class and their statements in order. -/
inductive Shows : Source → FilePart → Prop
  | intro {source : Source} {part : FilePart} {tokens : List Token} {declared : Class}
      (ht : Token.ofText source.content = .ok tokens)
      (hc : Class.ofTokens tokens = .ok (some declared)) (hpath : part.path = source.path)
      (hcount : part.tokenCount = tokens.length) (hname : part.className = declared.name)
      (hmethods : part.methods = declared.methods.map .of) : Shows source part

variable {time : String} {index : Index} {files : List SourceFile} {sources : List Source}
  {report : Json} {parts : List FilePart}

theorem forall₂_shows (hs : List.Forall₂ Source.Declares sources files)
    (h : List.Forall₂ (FilePart.IsOf index) files parts) : List.Forall₂ Shows sources parts := by
  induction hs generalizing parts with
  | nil =>
    cases h
    exact .nil
  | cons hd _ ih =>
    cases h with
    | cons hpart hparts =>
      obtain ⟨average, -, rfl⟩ := hpart
      obtain ⟨ht, hc⟩ := hd
      exact .cons (.intro ht hc rfl (Token.Profile.total_ofTokens _) rfl rfl) (ih hparts)

theorem forall_consistent (h : List.Forall₂ (FilePart.IsOf index) files parts) :
    ∀ part ∈ parts, part.Consistent index := by
  induction h with
  | nil => simp
  | cons hpart _ ih => exact List.forall_mem_cons.2 ⟨hpart.consistent, ih⟩

theorem methodCount_eq_sum (h : List.Forall₂ (FilePart.IsOf index) files parts) :
    methodCount files = (parts.map (·.methods.length)).sum := by
  rw [methodCount, List.length_flatMap]
  congr 1
  induction h with
  | nil => rfl
  | cons hpart _ ih =>
    obtain ⟨average, -, rfl⟩ := hpart
    rw [List.map_cons, List.map_cons, ih, FilePart.of, List.length_map]

/-- The report of the first files lists what the report of all files lists first. -/
theorem exists_document_take (h : document time index files = .ok report) (n : Nat) :
    ∃ entries first, report.member? "files" = some (.list entries) ∧
      document time index (files.take n) = .ok first ∧
      first.member? "files" = some (.list (entries.take n)) := by
  obtain ⟨entries, hentries, hall⟩ := exists_entries (measurable_of_document h)
  have hfirst : (files.take n).mapM (fileEntry index) = .ok (entries.take n) :=
    mapM_eq_pure (List.forall₂_take n hall)
  rw [document, hentries] at h
  cases h
  rw [document, hfirst]
  exact ⟨entries, _, rfl, rfl, rfl⟩

theorem measurable_of_declares {source : Source} {f : SourceFile} (h : source.Declares f)
    (hl : source.content.length < 2 ^ 1023) : f.Measurable := by
  cases h with
  | @intro tokens declared ht hc =>
    have hle := Token.length_le_of_scanAll ht
    rw [Token.Cursor.start, String.length_toList] at hle
    exact Class.exists_averageComplexity hc (by omega) (Nat.lt_of_le_of_lt hle hl)

theorem forall_measurable (hs : List.Forall₂ Source.Declares sources files)
    (hl : ∀ source ∈ sources, source.content.length < 2 ^ 1023) : ∀ f ∈ files, f.Measurable := by
  induction hs with
  | nil => simp
  | cons hd _ ih =>
    obtain ⟨hone, hrest⟩ := List.forall_mem_cons.1 hl
    exact List.forall_mem_cons.2 ⟨measurable_of_declares hd hone, ih hrest⟩

/-- **A report is consistent in itself.** -/
theorem document_consistent (hs : List.Forall₂ Source.Declares sources files) (time : String)
    (index : Index) :
    ((∀ source ∈ sources, source.content.length < 2 ^ 1023) →
      ∃ report, document time index files = .ok report) ∧
    ∀ report, document time index files = .ok report →
      (∃ parts, parts? report = some parts ∧ parts.Consistent ∧ parts.index = index ∧
        List.Forall₂ Shows sources parts.files) ∧
      ∀ n, ∃ entries first, report.member? "files" = some (.list entries) ∧
        document time index (files.take n) = .ok first ∧
        first.member? "files" = some (.list (entries.take n)) := by
  constructor
  · intro hl
    obtain ⟨report, h, -⟩ := exists_document (forall_measurable hs hl) time
    exact ⟨report, h⟩
  · intro report h
    obtain ⟨parts, hparts, hfiles, hclasses, hmethods, rfl, hof⟩ := exists_parts h
    refine ⟨⟨parts, hparts, ⟨?_, hclasses, ?_, forall_consistent hof⟩, rfl, forall₂_shows hs hof⟩,
      exists_document_take h⟩
    · rw [hfiles, hof.length_eq]
    · rw [hmethods, methodCount_eq_sum hof]

/-- One class uses the other, and has a constructor and a switch with an `if` in it. -/
def twoSources : List Source :=
  [{ path := "a.php",
      content := "class A \x7b function f(): B \x7b switch (1) \x7b case 2: if (3) e(); \x7d \x7d \x7d" },
    { path := "b.php", content := "class B \x7b function __construct() \x7b if (1) e(); \x7d \x7d" }]

theorem document_consistent_of_twoSources :
    ∃ files report, List.Forall₂ Source.Declares twoSources files ∧
      document "2026-01-02T03:04:05Z" [("\\A", 0), ("\\B", 1)] files = .ok report ∧
      (∃ parts, parts? report = some parts ∧ parts.Consistent ∧
        parts.index = [("\\A", 0), ("\\B", 1)] ∧ List.Forall₂ Shows twoSources parts.files) ∧
      ∀ n, ∃ entries first, report.member? "files" = some (.list entries) ∧
        document "2026-01-02T03:04:05Z" [("\\A", 0), ("\\B", 1)] (files.take n) = .ok first ∧
        first.member? "files" = some (.list (entries.take n)) := by
  have hread : ∀ source ∈ twoSources, (Reading.classOf? source.content).isSome = true := by
    decide +kernel
  have hshort : ∀ source ∈ twoSources, source.content.length < 2 ^ 1023 := by
    decide +kernel
  obtain ⟨tokens, c, ht, hc⟩ := Reading.exists_of_isSome_classOf? (hread _ List.mem_cons_self)
  obtain ⟨tokens', c', ht', hc'⟩ :=
    Reading.exists_of_isSome_classOf? (hread _ (List.mem_cons_of_mem _ List.mem_cons_self))
  have hs : List.Forall₂ Source.Declares twoSources _ :=
    .cons (.intro ht hc) (.cons (.intro ht' hc') .nil)
  obtain ⟨hdocument, hconsistent⟩ :=
    document_consistent hs "2026-01-02T03:04:05Z" [("\\A", 0), ("\\B", 1)]
  obtain ⟨report, hr⟩ := hdocument hshort
  obtain ⟨hparts, htake⟩ := hconsistent report hr
  exact ⟨_, report, hs, hr, hparts, htake⟩

end Report

end Cyclomatic
