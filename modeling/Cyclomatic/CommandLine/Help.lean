import Cyclomatic.CommandLine.Switch
import Cyclomatic.Report
import Cyclomatic.Settings
import Cyclomatic.Template

/-!
# The help of the command line

The usage line, the help and the version. What a switch is for is a template that facts about the
switch fill; the default extension stands in one of them as it is, so that percent signs in it are
places.
-/

set_option autoImplicit false

namespace Cyclomatic.CommandLine

/-- The name of the program. -/
def program : String := "tcpl-scanner"

/-- A switch in the usage line: its first spelling and its value. -/
def Switch.usage (s : Switch) : String :=
  "[" ++ s.spellings.headD "" ++ (s.valueName?.map (" " ++ ·)).getD "" ++ "]"

/-- The usage line. -/
def usage : String :=
  "usage: " ++ program ++ " " ++ " ".intercalate (Switch.all.map Switch.usage) ++ " path\n"

/-- A switch in the help: its spellings, each with its value. -/
def Switch.heading (s : Switch) : String :=
  ", ".intercalate (s.spellings.map (· ++ (s.valueName?.map (" " ++ ·)).getD ""))

/-- The blanks that count as one inside a line of the help. -/
def isLineBlank (c : Char) : Bool := c == ' ' || ('\t' ≤ c && c ≤ '\r')

/-- Puts a character in front of the first of several words; a blank starts a new one. -/
def addToWords (c : Char) (words : List (List Char)) : List (List Char) :=
  if isLineBlank c then [] :: words
  else
    match words with
    | [] => [[c]]
    | word :: rest => (c :: word) :: rest

/-- A text with one space for each run of blanks, and none at its ends. -/
def squeeze (s : String) : String :=
  let words := (s.toList.foldr addToWords []).filter (!·.isEmpty)
  " ".intercalate (words.map String.ofList)

/-- What a switch is for, as a template. -/
def Switch.purpose (defaults : Settings) : Switch → String
  | help => "show this help message and exit"
  | top =>
    "Cantidad de archivos a mostrar (default: "
      ++ Text.orMissing (defaults.topFiles?.map (toString ·.value)) ++ ")"
  | sort => "Criterio de orden inicial (default: class_complexity)"
  | extension => "Extensión de los archivos a escanear (default: " ++ defaults.extension ++ ")"
  | noInteractive => "Imprime el ranking y termina, sin menú"
  | json => "Salida en formato JSON (útil para tuberías/pipes)"
  | output => "Guarda además un reporte JSON en esta ruta"
  | tokens => "Ranking por cantidad de tokens con su histograma"
  | logFile => "Archivo adicional de logs"
  | verbose => "Muestra logs detallados de progreso"
  | version => "show program's version number and exit"

/-- The group of all switches; its text shows where it stands in memory. -/
def switchGroup : Template.Value :=
  .handle "_ArgumentGroup" "<argparse._ArgumentGroup object at 0x7f0000000000>"

/-- The facts that fill the purpose of the switch for the extension. -/
def extensionFacts (defaults : Settings) : List (String × Template.Value) :=
  [("option_strings", .texts Switch.extension.spellings), ("dest", .text "extension"),
    ("nargs", .nothing), ("const", .nothing), ("default", .text defaults.extension),
    ("type", .nothing), ("choices", .nothing), ("required", .truth false),
    ("help", .text (Switch.extension.purpose defaults)), ("metavar", .nothing),
    ("container", switchGroup), ("prog", .text program)]

/-- What a switch is for. -/
def Switch.purposeText (defaults : Settings) (s : Switch) : Except Template.Fault String :=
  match s with
  | extension => Template.fill (s.purpose defaults) (extensionFacts defaults)
  | s => .ok (s.purpose defaults)

/-- The column in which purposes start. -/
def purposeColumn : Nat := 24

/-- An entry of the help. A heading that is too wide has a line of its own. -/
def helpEntry (heading purpose : String) : String :=
  let heading := "  " ++ heading
  let purpose := squeeze purpose ++ "\n"
  if heading.length + 2 ≤ purposeColumn then Log.padRight purposeColumn heading ++ purpose
  else heading ++ "\n" ++ Log.padRight purposeColumn "" ++ purpose

/-- The entry of a switch. -/
def Switch.entry (defaults : Settings) (s : Switch) : Except Template.Fault String :=
  (s.purposeText defaults).map (helpEntry s.heading)

/-- The help, which shows the defaults. -/
def help (defaults : Settings) : Except Template.Fault String := do
  let entries ← Switch.all.mapM (Switch.entry defaults)
  pure
    (usage
      ++ "\nTCPL Scanner - Complejidad ciclomática y dependencias de proyectos PHP\n"
      ++ "\npositional arguments:\n"
      ++ helpEntry "path" "Directorio raíz del proyecto a escanear"
      ++ "\noptions:\n" ++ String.join entries
      ++ "\nEjemplo: " ++ program ++ " ./src --top 5 --no-interactive\n")

/-- The version. -/
def versionText : String := program ++ " " ++ Report.version ++ "\n"

end Cyclomatic.CommandLine
