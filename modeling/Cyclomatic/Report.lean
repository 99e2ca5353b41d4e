import Cyclomatic.Json
import Cyclomatic.Project

/-!
# Reports

The report of scanned files is a document with the sizes of the project, an entry for each file and
the index of uses.
-/

set_option autoImplicit false

namespace Cyclomatic.Report

/-- The version of the program that makes the report. -/
def version : String := "0.1.0"

/-- The entry of a statement; what is nested in it has no entry of its own. -/
def statementEntry (s : Statement) : Json :=
  .object [("kind", .text s.name), ("line", .int s.line), ("complexity", .int s.complexity)]

/-- The entry of a method. -/
def methodEntry (m : Method) : Json :=
  .object
    [("name", .text m.name), ("visibility", .text m.visibility.word),
      ("return_type", .textOrNull m.returnType?), ("params", .int m.params),
      ("is_abstract", .bool m.isAbstract), ("complexity", .int m.complexity),
      ("statements", .list (m.statements.map statementEntry))]

/-- The entry of a class whose average complexity is known. -/
def classEntry (index : Index) (c : Class) (average : Double) : Json :=
  .object
    [("name", .text c.name), ("used_in", .int (index.usages c.name)),
      ("extends", .textOrNull c.parent?), ("implements", .texts c.interfaces),
      ("is_abstract", .bool c.isAbstract), ("dependencies", .texts c.dependencies),
      ("average_complexity", .double average), ("max_complexity", .int c.highestComplexity),
      ("functions", .list (c.methods.map methodEntry))]

/-- The entry of a file. -/
def fileEntry (index : Index) (f : SourceFile) : Except MetricError Json := do
  let average ← f.declared.averageComplexity
  pure (.object
    [("path", .text f.path), ("lines", .int f.lines), ("last_accessed_hours", .int f.hours),
      ("token_count", .int f.tokenCount), ("class", classEntry index f.declared average)])

/-- How many methods the files have. -/
def methodCount (files : List SourceFile) : Nat := (files.flatMap (·.declared.methods)).length

/-- The report of files, made at `time`. -/
def document (time : String) (index : Index) (files : List SourceFile) :
    Except MetricError Json := do
  let entries ← files.mapM (fileEntry index)
  pure (.object
    [("generated_at", .text time), ("scanner_version", .text version),
      ("summary", .object
        [("total_files", .int files.length), ("total_classes", .int index.length),
          ("total_functions", .int (methodCount files))]),
      ("files", .list entries),
      ("index", .object (index.map fun (name, n) => (name, .int n)))])

end Cyclomatic.Report
