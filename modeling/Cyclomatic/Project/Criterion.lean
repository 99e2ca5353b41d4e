import Cyclomatic.Log
import Cyclomatic.Project
import Cyclomatic.Text.Blank
import Cyclomatic.Text.Capitals
import Cyclomatic.Text.Missing

/-!
# Ranking

A criterion gives every file a key, and ranking puts the files into descending order of their keys;
files with equal keys keep their order. All keys are looked up before a file is moved: if one has no
value, the files stay as they are, as they do without a criterion.
-/

set_option autoImplicit false

namespace Cyclomatic

/-- What files are ranked by. -/
inductive Criterion where
  | classComplexity | uses | dependencies | methodComplexity | tokenCount
  deriving DecidableEq, Repr

/-- A name that stands for no criterion. -/
structure Criterion.Unknown where
  name : String
  deriving DecidableEq, Repr

/-- The words for an unknown criterion. -/
def Criterion.Unknown.message (e : Unknown) : String := "Criterio de orden desconocido: " ++ e.name

namespace Criterion

/-- Every criterion, in the order in which they are offered. -/
def all : List Criterion := [classComplexity, uses, dependencies, methodComplexity, tokenCount]

/-- The name of a criterion. -/
def name : Criterion → String
  | classComplexity => "CLASS_COMPLEXITY"
  | uses => "USES"
  | dependencies => "DEPENDENCIES"
  | methodComplexity => "FUNCTION_COMPLEXITY"
  | tokenCount => "TOKEN_COUNT"

/-- The name of a criterion on the command line. -/
def option : Criterion → String
  | classComplexity => "class_complexity"
  | uses => "uses"
  | dependencies => "dependencies"
  | methodComplexity => "function_complexity"
  | tokenCount => "token_count"

/-- The words for a criterion. -/
def label : Criterion → String
  | classComplexity => "complejidad de clase"
  | uses => "usos"
  | dependencies => "dependencias"
  | methodComplexity => "complejidad de método"
  | tokenCount => "cantidad de tokens"

/-- A name as it is compared: without blanks at its ends, in capitals, with an underscore for each
hyphen and space. -/
def normalized (name : String) : List Char :=
  ((Text.stripList name.toList).flatMap Text.capitals).map fun c =>
    if c = '-' ∨ c = ' ' then '_' else c

/-- The criterion that a name stands for. -/
def ofName (name : String) : Except Unknown Criterion :=
  match all.find? (·.name.toList == normalized name) with
  | some criterion => .ok criterion
  | none => .error ⟨name⟩

/-! ## Keys -/

/-- The key of a file. Averages are compared as doubles; a class that the index does not know comes
after all that it does. -/
def key (criterion : Criterion) (index : Index) (f : SourceFile) : Except MetricError Int :=
  match criterion with
  | classComplexity => f.declared.averageComplexity.map Double.value
  | uses => .ok ((index.lookup f.declared.name).getD (-1))
  | dependencies => .ok f.declared.dependencies.length
  | methodComplexity => .ok f.declared.highestComplexity
  | tokenCount => .ok f.tokenCount

/-- A file with its key. -/
def keyed (criterion : Criterion) (index : Index) (f : SourceFile) :
    Except MetricError (Int × SourceFile) :=
  (criterion.key index f).map (·, f)

/-- Ranks the files where they are: the keys of all files are looked up, and then the files are put
into descending order of them. -/
def rankInPlace (criterion : Criterion) (index : Index) :
    EStateM MetricError (List SourceFile) Unit := do
  let keyed ← (← get).mapM fun f => ofExcept (criterion.keyed index f)
  set ((keyed.mergeSort fun a b => b.1 ≤ a.1).map (·.2))

/-- The words for a criterion that may be missing. -/
def labelOf (criterion? : Option Criterion) : String := Text.orMissing (criterion?.map label)

/-- The record of a ranking. -/
def record (criterion? : Option Criterion) (count : Nat) : Log.Record :=
  ⟨.debug, .scanning, "Ordenados " ++ toString count ++ " archivos por: " ++ labelOf criterion?⟩

end Criterion

/-- The project with its files in descending order of a criterion. -/
def Project.rankedBy (criterion? : Option Criterion) (p : Project) : Except MetricError Project :=
  match criterion? with
  | none => .ok p
  | some criterion =>
    match criterion.rankInPlace p.index p.files with
    | .ok _ files => .ok { p with files }
    | .error e _ => .error e

end Cyclomatic
