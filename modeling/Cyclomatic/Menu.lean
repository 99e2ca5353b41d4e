import Cyclomatic.Listing
import Cyclomatic.Project.Criterion

/-!
# The interactive menu

The menu is a machine that moves from prompt to prompt. `Menu.start` ranks the files and asks the
first question; `Menu.step` takes an answer to a prompt and says what is printed and where the menu
stands then; `Menu.play` feeds it a list of answers, and `Menu.run` lets the input end after them.

An answer that is no number leaves everything as it was. The menu is left by its exit option, or
where the input ends.
-/

set_option autoImplicit false

namespace Cyclomatic.Menu

/-- What a menu works on. -/
structure State where
  /-- The project, its files in their present order. -/
  project : Project
  /-- What listings show. -/
  view : View := {}
  /-- The criterion chosen last, if there is one. -/
  criterion? : Option Criterion := some .classComplexity
  deriving Repr

/-- The questions of the menu. -/
inductive Prompt where
  | main
  /-- Which setting of the view to change. -/
  | setting
  | fileCount
  | limitWanted
  | methodLimit
  /-- What to search for. -/
  | query
  /-- What to rank by. -/
  | criterion
  deriving DecidableEq, Repr

/-- Where a menu stands. -/
inductive Stand where
  /-- At a prompt, waiting for an answer. -/
  | asking (prompt : Prompt) (state : State)
  | left (state : State)
  /-- A listing or a ranking that is cut short has broken it off. -/
  | failed (fault : Listing.Fault) (state : State)
  deriving Repr

/-- What the menu works on, wherever it stands. -/
def Stand.state : Stand → State
  | asking _ state => state
  | left state => state
  | failed _ state => state

/-- What a step prints and logs, and where it ends. -/
structure Turn where
  output : String
  log : List Log.Record := []
  stand : Stand
  deriving Repr

/-! ## Prompts -/

/-- The option that leaves a menu. -/
def exitOption : Nat := 8

section

variable [Console.Terminal]

/-- The text of a prompt, up to its question. -/
def Prompt.text (view : View) : Prompt → String
  | main =>
    Listing.lines ["", "* ----------------------- *", ""] ++ Console.underlined "Opciones"
      ++ Listing.lines
        ["1. Ver archivos principales", "2. Ver opciones de vista",
          "3. Cambiar opciones de vista", "4. Buscar un archivo", "5. Reordenar archivos",
          "8. Salir", ""]
      ++ Console.question "Elige una opción"
  | setting =>
    Listing.viewTable view ++ Console.title "Elige la opción a cambiar"
      ++ Listing.lines
        ["1. Número de archivos", "2. Mostrar/ocultar dependencias",
          "3. Máximo de métodos por clase", "4. Mostrar/ocultar sentencias de métodos",
          "8. Listo", ""]
      ++ Console.question "Elige una opción"
  | fileCount => Console.question "¿Cuántos archivos quieres ver?"
  | limitWanted =>
    Listing.lines ["", "1. Sí", "2. No (ver todos los métodos)"]
      ++ Console.question "¿Quieres un número fijo de métodos por clase?"
  | methodLimit => Console.question "¿Cuántos métodos por clase?"
  | query => Console.question "Texto a buscar"
  | criterion =>
    Console.title "Opciones de orden"
      ++ Listing.lines
        ["  1. Complejidad ciclomática media de la clase", "  2. Usos de la clase",
          "  3. Número de dependencias de la clase", "  4. Complejidad máxima de un método",
          "  5. Cantidad de tokens del archivo"]
      ++ Console.question "Elige un criterio de orden"

/-- Prints `before` and then a prompt. -/
def ask (state : State) (prompt : Prompt) (before : String) (log : List Log.Record := []) : Turn :=
  { output := before ++ prompt.text state.view, log, stand := .asking prompt state }

/-- The complaint about an option that is not offered. -/
def wrongOption : String := Console.error "Opción incorrecta, inténtalo de nuevo"

/-! ## Answers -/

/-- Lists the files that the view selects, and goes back to the main prompt as `after`. -/
def list (state after : State) (before : String) : Turn :=
  let printed := Listing.files state.view state.project.index state.project.files
  match printed.fault? with
  | none => ask after .main (before ++ printed.text)
  | some fault => { output := before ++ printed.text, stand := .failed fault after }

/-- Takes an option of the main prompt. -/
def chooseAction (state : State) (n : Nat) : Turn :=
  let blank := Console.line ""
  match n with
  | 1 => list state state blank
  | 2 => ask state .main (blank ++ Listing.viewTable state.view)
  | 3 => ask state .setting blank
  | 4 => ask state .query blank
  | 5 => ask state .criterion blank
  | n =>
    if n = exitOption then { output := blank ++ Console.success "¡Adiós!", stand := .left state }
    else ask state .main (blank ++ wrongOption)

/-- The word for a switched setting. -/
def switched (on : Bool) : String := if on then "activadas" else "desactivadas"

/-- Takes an option of the prompt for settings. -/
def chooseSetting (state : State) (n : Nat) : Turn :=
  let view := state.view
  match n with
  | 1 => ask state .fileCount ""
  | 2 =>
    let view := { view with dependencies := !view.dependencies }
    ask { state with view } .main
      (Console.success ("Dependencias " ++ switched view.dependencies))
  | 3 => ask state .limitWanted ""
  | 4 =>
    let view := { view with statements := !view.statements }
    ask { state with view } .main
      (Console.success ("Sentencias de métodos " ++ switched view.statements))
  | n => if n = exitOption then ask state .main "" else ask state .setting wrongOption

/-- Takes the answer whether methods are limited. -/
def chooseLimit (state : State) (n : Nat) : Turn :=
  match n with
  | 1 => ask state .methodLimit ""
  | 2 => ask { state with view := { state.view with methodLimit? := none } } .setting ""
  | _ => ask state .setting wrongOption

/-- The criterion that a number stands for. -/
def criterion? : Nat → Option Criterion
  | 0 => none
  | n + 1 => Criterion.all[n]?

/-- Ranks the files by the criterion that a number stands for. -/
def chooseCriterion (state : State) (n : Nat) : Turn :=
  match criterion? n with
  | none => ask state .main (Console.error "Criterio incorrecto")
  | some criterion =>
    let state := { state with criterion? := some criterion }
    match state.project.rankedBy criterion with
    | .error e => { output := "", stand := .failed (.metric e) state }
    | .ok project =>
      ask { state with project } .main (Console.success ("Ordenado por: " ++ criterion.label))
        [Criterion.record criterion project.files.length]

/-- Searches for a text; the query lasts for one listing. -/
def search (state : State) (query : String) : Turn :=
  list { state with view := { state.view with query? := some query } }
    { state with view := { state.view with query? := none } } ""

/-- Takes a number in answer to a prompt. -/
def takeNumber (state : State) (prompt : Prompt) (n : Nat) : Turn :=
  match prompt with
  | .main => chooseAction state n
  | .setting => chooseSetting state n
  | .fileCount =>
    ask { state with view := { state.view with topFiles? := some (n : Int) } } .main ""
  | .limitWanted => chooseLimit state n
  | .methodLimit =>
    ask { state with view := { state.view with methodLimit? := some (n : Int) } } .main ""
  | .criterion => chooseCriterion state n
  | .query => ask state .main ""

/-- Takes an answer that is no number. The two menus complain; the other questions are given up. -/
def refuse (state : State) (prompt : Prompt) (e : Console.InputError) : Turn :=
  match prompt with
  | .main => ask state .main (Console.error e.message)
  | .setting => ask state .setting (Console.error e.message)
  | .fileCount | .limitWanted | .methodLimit => ask state .setting ""
  | .query | .criterion => ask state .main ""

/-- Takes a text in answer to a prompt. -/
def takeText (state : State) (prompt : Prompt) (s : String) : Turn :=
  match prompt with
  | .query =>
    match Console.readText s with
    | .ok query => search state query
    | .error e => refuse state prompt e
  | prompt =>
    match Console.readNumber s with
    | .ok n => takeNumber state prompt n
    | .error e => refuse state prompt e

/-- Leaves the menu since the input has ended; only at the main prompt this is logged. -/
def close (state : State) (prompt : Prompt) : Turn :=
  { output := ""
    log :=
      if prompt = .main then [⟨.debug, .menu, "Entrada cerrada, saliendo del menú"⟩] else []
    stand := .left state }

/-- Takes an answer to a prompt. -/
def step (state : State) (prompt : Prompt) : Console.Answer → Turn
  | .text s => takeText state prompt s
  | .unreadable | .ended => close state prompt

/-! ## Runs -/

/-- Ranks the files and asks the first question. -/
def start (state : State) : Turn :=
  let opening := Listing.lines ["", "Ordenando por: " ++ Criterion.labelOf state.criterion?]
  match state.project.rankedBy state.criterion? with
  | .error e => { output := opening, stand := .failed (.metric e) state }
  | .ok project =>
    let warning :=
      if project.skipped.isEmpty then ""
      else
        Console.danger
          (toString project.skipped.length ++ " archivos no se pudieron parsear (ver logs)")
    ask { state with project } .main (opening ++ warning ++ Console.title "TCPL Scanner")
      [Criterion.record state.criterion? project.files.length]

/-- What several steps print and log, where they end, and the answers that are left. -/
structure Play where
  /-- The steps as one. -/
  turn : Turn
  /-- The answers that were not read. -/
  unread : List Console.Answer
  deriving Repr

/-- A turn after another one. -/
def Turn.after (first second : Turn) : Turn :=
  { output := first.output ++ second.output
    log := first.log ++ second.log
    stand := second.stand }

/-- Gives answers to a menu, until it is left or none remains. -/
def play (turn : Turn) : List Console.Answer → Play
  | [] => ⟨turn, []⟩
  | answer :: rest =>
    match turn.stand with
    | .asking prompt state => play (turn.after (step state prompt answer)) rest
    | _ => ⟨turn, answer :: rest⟩

/-- Gives answers to a menu; if it still asks after them, the input has ended. -/
def run (state : State) (answers : List Console.Answer) : Play :=
  let played := play (start state) answers
  match played.turn.stand with
  | .asking prompt state => { played with turn := played.turn.after (step state prompt .ended) }
  | _ => played

end

end Cyclomatic.Menu
