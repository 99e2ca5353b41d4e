import Cyclomatic.Class.Method
import Cyclomatic.Console
import Cyclomatic.Double.Decimal
import Cyclomatic.Project.Search
import Cyclomatic.Text.Missing

/-!
# Listings

What the console shows of a project. `Listing.files` lists the first files that a view selects, with
their metrics; `Listing.profiles` shows the tokens of files in tables. A listing is cut short by a
class whose average complexity has no value, and by a missing number of files; what stands before
is shown all the same.
-/

set_option autoImplicit false

namespace Cyclomatic

/-- What a listing shows. -/
structure View where
  /-- Whether the dependencies of a class are listed. -/
  dependencies : Bool := true
  /-- How many files are listed; a negative number leaves out as many at the end. The number may be
  missing. -/
  topFiles? : Option Int := some 10
  /-- How many methods of a class are listed, counted likewise; all, if there is no limit. -/
  methodLimit? : Option Int := none
  /-- Whether the statements of methods are listed. -/
  statements : Bool := true
  /-- The query that selects the files. -/
  query? : Option String := none
  deriving DecidableEq, Repr

namespace Listing

/-- Why a listing is cut short. -/
inductive Fault where
  | metric (e : MetricError)
  | countMissing
  deriving DecidableEq, Repr

/-- The words for a fault. -/
def Fault.message : Fault → String
  | metric e => e.message
  | countMissing => "slice indices must be integers or None or have an __index__ method"

/-- The first `n` items; for a negative `n`, all but so many at the end. -/
def firstItems {α : Type} (n : Int) (items : List α) : List α :=
  if 0 ≤ n then items.take n.toNat else items.take (items.length - (-n).toNat)

/-- The word for a truth value. -/
def yesNo (flag : Bool) : String := if flag then "sí" else "no"

/-- The text of a name that may be missing or empty. -/
def nameOrNone (name? : Option String) : String :=
  match name? with
  | none | some "" => "Ninguna"
  | some name => name

/-- Items numbered from `number`. -/
def numbered (number : Nat) : List String → List String
  | [] => []
  | s :: rest => (" " ++ toString number ++ ". " ++ s) :: numbered (number + 1) rest

section

variable [Console.Terminal]

/-- The lines of a text. -/
def lines (ls : List String) : String := String.join (ls.map Console.line)

/-! ## The view -/

/-- The table of a view. -/
def viewTable (view : View) : String :=
  Console.title "Opciones de vista" ++
    Console.Terminal.plainTable
      [("Número de archivos", Text.orMissing (view.topFiles?.map toString)),
        ("Mostrar dependencias", yesNo view.dependencies),
        ("Métodos por clase", (view.methodLimit?.map toString).getD "Todos"),
        ("Mostrar sentencias de métodos", yesNo view.statements)]

/-! ## Files -/

/-- What a listing prints, and the fault that cuts it short. -/
structure Printed where
  text : String
  fault? : Option Fault := none
  deriving DecidableEq, Repr

/-- The entry of a method. -/
def methodEntry (view : View) (m : Method) : String :=
  lines
    (["* -------- *", "  Nombre: " ++ m.name, "  Visibilidad: " ++ m.visibility.word,
        "  Tipo de retorno: " ++ m.returnTypeText, "  Parámetros: " ++ toString m.params,
        "  Complejidad ciclomática: " ++ toString m.complexity]
      ++ if view.statements then m.statements.map fun s => "  " ++ s.text else [])

/-- The dependencies in an entry. -/
def dependenciesEntry (view : View) (dependencies : List String) : String :=
  if dependencies.isEmpty then Console.line "Sin dependencias"
  else
    Console.line ("Dependencias: " ++ toString dependencies.length)
      ++ if view.dependencies then Console.line "* ------ *" ++ Console.list dependencies else ""

/-- The part of an entry before the average complexity. -/
def entryHead (view : View) (index : Index) (rank : Nat) (f : SourceFile) : String :=
  Console.underlined (toString rank ++ ". " ++ f.declared.name)
    ++ lines
      ["Último acceso hace " ++ toString f.hours ++ " horas", "Ruta: " ++ f.path,
        "Líneas: " ++ toString f.lines,
        "Usada en " ++ toString (index.usages f.declared.name) ++ " lugares"]
    ++ dependenciesEntry view f.declared.dependencies

/-- The interfaces in an entry. -/
def interfacesEntry (interfaces : List String) : List String :=
  if interfaces.isEmpty then ["Implementa: Ninguna"] else "Implementa:" :: numbered 1 interfaces

/-- The methods that a view shows of a class. -/
def shownMethods (view : View) (c : Class) : List Method :=
  match view.methodLimit? with
  | some n => firstItems n c.methods
  | none => c.methods

/-- The part of an entry from the average complexity on. -/
def entryTail (view : View) (c : Class) (average : Double) : String :=
  lines
    (["Complejidad ciclomática media: " ++ average.sixDigits,
        "Complejidad ciclomática máxima: " ++ toString c.highestComplexity,
        "Métodos: " ++ toString c.methods.length, "Extiende: " ++ nameOrNone c.parent?]
      ++ interfacesEntry c.interfaces ++ ["Abstracta: " ++ yesNo c.isAbstract])
    ++ String.join ((shownMethods view c).map (methodEntry view))
    ++ Console.line "* ---------- *"

/-- The entry of a file. -/
def entry (view : View) (index : Index) (rank : Nat) (f : SourceFile) : Printed :=
  match f.declared.averageComplexity with
  | .ok average => ⟨entryHead view index rank f ++ entryTail view f.declared average, none⟩
  | .error e => ⟨entryHead view index rank f, some (.metric e)⟩

/-- The entries of files, numbered from `rank`, up to the first one that is cut short. -/
def entriesFrom (view : View) (index : Index) (rank : Nat) : List SourceFile → Printed
  | [] => ⟨"", none⟩
  | f :: rest =>
    match entry view index rank f with
    | ⟨text, some fault⟩ => ⟨text, some fault⟩
    | ⟨text, none⟩ =>
      let more := entriesFrom view index (rank + 1) rest
      { more with text := text ++ more.text }

/-- The files that a view selects, if the number of files is known. -/
def selected? (view : View) (files : List SourceFile) : Option (List SourceFile) :=
  view.topFiles?.map fun n => firstItems n (SourceFile.search view.query? files)

/-- A listing of files. -/
structure Listed extends Printed where
  /-- How many files it lists, unless it is cut short. -/
  count : Nat := 0
  deriving DecidableEq, Repr

/-- The listing of the files that a view selects. -/
def files (view : View) (index : Index) (files : List SourceFile) : Listed :=
  let opening := Console.line "" ++ Console.title "Archivos principales"
  match selected? view files with
  | none => { text := opening, fault? := some .countMissing }
  | some [] => { text := opening ++ Console.danger "No hay archivos que mostrar" }
  | some selection =>
    let entries := entriesFrom view index 1 selection
    { entries with text := opening ++ entries.text, count := selection.length }

/-! ## Profiles -/

/-- The profile of a file. -/
def profile (rank : Nat) (f : SourceFile) : String :=
  Console.underlined
      (toString rank ++ ". " ++ f.path ++ " (" ++ toString f.tokenCount ++ " tokens)")
    ++ Console.Terminal.boxedTable ("Token", "Cantidad")
      (f.profile.mostCommon.map fun (kind, n) => (kind.name, toString n))

/-- The profiles of files, numbered from `rank`. -/
def profilesFrom (rank : Nat) : List SourceFile → String
  | [] => ""
  | f :: rest => profile rank f ++ profilesFrom (rank + 1) rest

/-- The profiles of the first files. -/
def profiles (top? : Option Int) (files : List SourceFile) : Printed :=
  let opening := Console.title "Perfil de tokens"
  match top? with
  | none => ⟨opening, some .countMissing⟩
  | some top => ⟨opening ++ profilesFrom 1 (firstItems top files), none⟩

end

end Listing

end Cyclomatic
