import Cyclomatic.CommandLine.Help
import Cyclomatic.CommandLine.Word
import Cyclomatic.Settings

/-!
# The command line

`CommandLine.settings` makes the settings of a run from the environment and the arguments.
Arguments win over the environment, later ones over earlier ones. Switches are taken from left to
right, so that what comes first, a wrong value or the wish for help, decides; that the path is
missing and that an argument is not known show at the end only.
-/

set_option autoImplicit false

namespace Cyclomatic.CommandLine

/-! ## Faults -/

/-- What is wrong with the arguments. -/
inductive Fault where
  | ambiguous (a : Ambiguity)
  | valueMissing (s : Switch)
  /-- Something is attached to a switch that takes no value. -/
  | valueIgnored (s : Switch) (text : String)
  /-- A switch has a wrong value, for a reason. -/
  | valueInvalid (s : Switch) (reason : String)
  | pathMissing
  /-- Some arguments are not known. -/
  | unrecognized (arguments : List String)
  deriving DecidableEq, Repr

/-- A message about a switch. -/
def Switch.complaint (s : Switch) (message : String) : String :=
  "argument " ++ s.label ++ ": " ++ message

/-- The words for a fault. -/
def Fault.message : Fault → String
  | ambiguous a =>
    "ambiguous option: " ++ a.argument ++ " could match " ++ ", ".intercalate a.spellings
  | valueMissing s => s.complaint "expected one argument"
  | valueIgnored s text => s.complaint ("ignored explicit argument " ++ Text.quoted text)
  | valueInvalid s reason => s.complaint reason
  | pathMissing => "the following arguments are required: path"
  | unrecognized arguments => "unrecognized arguments: " ++ " ".intercalate arguments

/-- An error that no exit stands for. -/
inductive Breakdown where
  | help (fault : Template.Fault)
  | extensionMissing
  deriving DecidableEq, Repr

/-- The words for a breakdown. -/
def Breakdown.message : Breakdown → String
  | help fault => fault.message
  | extensionMissing => "'list' object has no attribute 'startswith'"

/-- Why there are no settings. -/
inductive Stop where
  | help (text : String)
  | version
  | arguments (fault : Fault)
  | environment (fault : Amount.Fault)
  /-- The arguments are taken, and lead nowhere. -/
  | broken (b : Breakdown)
  deriving Repr

/-- What a run ends with: a number, or a text that is shown instead. -/
inductive Status where
  | code (n : Nat)
  | text (s : String)
  deriving DecidableEq, Repr

/-- What a run without settings prints, and what it ends with. -/
structure Exit where
  status : Status
  output : String := ""
  errors : String := ""
  deriving DecidableEq, Repr

/-- How a run ends that has no settings. -/
def Stop.exit : Stop → Except Breakdown Exit
  | help text => .ok { status := .code 0, output := text }
  | version => .ok { status := .code 0, output := versionText }
  | arguments fault =>
    .ok { status := .code 2, errors := usage ++ program ++ ": error: " ++ fault.message ++ "\n" }
  | environment fault => .ok { status := .text ("❌ Configuración inválida: " ++ fault.message) }
  | broken b => .error b

/-! ## Switches with their values -/

/-- A switch with its value. -/
structure Setting where
  switch : Switch
  value? : Option String := none
  deriving DecidableEq, Repr

/-- What one argument sets. -/
structure Cluster where
  settings : List Setting
  /-- Whether the next argument is the value of the last switch. -/
  takesNext : Bool := false
  deriving DecidableEq, Repr

/-- A cluster with one switch more in front. -/
def Cluster.cons (s : Switch) (c : Cluster) : Cluster :=
  { c with settings := ⟨s, none⟩ :: c.settings }

/-- A switch without an attached text. A value must then follow as the next argument. -/
def plain (s : Switch) (next? : Option String) : Except Fault Cluster :=
  if s.takesValue then
    match next? with
    | some value => .ok { settings := [⟨s, some value⟩], takesNext := true }
    | none => .error (.valueMissing s)
  else .ok { settings := [⟨s, none⟩] }

/-- The value that an attached text is; the separator is none. -/
def attachedValue? (text : List Char) : Option String :=
  if text = ['-', '-'] then none else some (String.ofList text)

/-- A switch with an attached text. Behind a short switch that takes no value, the text is more
letters of switches; the last one may have a value of its own. -/
def attachedTo (next? : Option String) (s : Switch) (isLong : Bool) (text : List Char) :
    Except Fault Cluster :=
  if s.takesValue then .ok { settings := [⟨s, attachedValue? text⟩] }
  else
    match text with
    | [] => .error (.valueIgnored s "")
    | c :: rest =>
      match if isLong then none else Switch.ofSpelling? (String.ofList ['-', c]), rest with
      | none, rest => .error (.valueIgnored s (String.ofList (c :: rest)))
      | some more, [] => (plain more next?).map (·.cons s)
      | some more, rest => (attachedTo next? more false rest).map (·.cons s)

/-- What a switch sets as it stands on the command line. -/
def cluster (next? : Option String) (s : Switch) (isLong : Bool)
    (attached? : Option (List Char)) : Except Fault Cluster :=
  match attached? with
  | none => plain s next?
  | some text => attachedTo next? s isLong text

/-! ## The arguments from left to right -/

/-- What the arguments have said so far. -/
structure Draft where
  /-- The settings; their extension is as it was given. -/
  settings : Settings
  lacksExtension : Bool := false
  path? : Option String := none
  /-- The arguments that are not known. -/
  unknown : List String := []
  deriving Repr

/-- Notes an argument that is not known. -/
def Draft.note (draft : Draft) (argument : String) : Draft :=
  { draft with unknown := draft.unknown ++ [argument] }

/-- Changes the settings. -/
def Draft.set (draft : Draft) (f : Settings → Settings) : Draft :=
  { draft with settings := f draft.settings }

/-- Sets the extension. -/
def Draft.setExtension (draft : Draft) (extension? : Option String) : Draft :=
  match extension? with
  | some extension => { draft.set ({ · with extension }) with lacksExtension := false }
  | none => { draft with lacksExtension := true }

/-- The destination that the value of a switch names. -/
def destination (value? : Option String) : Destination := (value?.map .file).getD .unnamed

/-- Reads the value of a switch, if it has one; a wrong value is a fault. -/
def readValue {α ε : Type} (s : Switch) (read : String → Except ε α) (words : ε → String)
    (value? : Option String) : Except Stop (Option α) :=
  match value? with
  | none => .ok none
  | some value =>
    match read value with
    | .ok a => .ok (some a)
    | .error e => .error (.arguments (.valueInvalid s (words e)))

/-- The end of a run that asks for the help. -/
def helpStop (defaults : Settings) : Stop :=
  match help defaults with
  | .ok text => .help text
  | .error fault => .broken (.help fault)

/-- Does what a switch asks for. -/
def Draft.apply (defaults : Settings) (draft : Draft) (setting : Setting) : Except Stop Draft :=
  let value? := setting.value?
  match setting.switch with
  | .help => .error (helpStop defaults)
  | .version => .error .version
  | .top => do
    let topFiles? ← readValue .top Amount.parse Amount.Fault.message value?
    pure (draft.set ({ · with topFiles? }))
  | .sort => do
    let criterion? ← readValue .sort Criterion.ofName Criterion.Unknown.message value?
    pure (draft.set ({ · with criterion? }))
  | .extension => .ok (draft.setExtension value?)
  | .noInteractive => .ok (draft.set ({ · with interactive := false }))
  | .json => .ok (draft.set ({ · with json := true }))
  | .output => .ok (draft.set ({ · with output := destination value? }))
  | .tokens => .ok (draft.set ({ · with tokens := true }))
  | .logFile => .ok (draft.set ({ · with logFile := destination value? }))
  | .verbose => .ok (draft.set ({ · with verbose := true }))

/-- The value that stands next. -/
def next? : List Word → Option String
  | .value s :: _ => some s
  | _ => none

/-- The words without a separator at their start. -/
def dropSeparator : List Word → List Word
  | .separator :: rest => rest
  | words => words

theorem length_dropSeparator_le (words : List Word) :
    (dropSeparator words).length ≤ words.length := by
  unfold dropSeparator
  split <;> simp

/-- Takes the words from left to right. The first value is the path; a separator next to it goes
with it. -/
def takeWords (defaults : Settings) (draft : Draft) (words : List Word) : Except Stop Draft :=
  match words with
  | [] => .ok draft
  | .value s :: rest =>
    if draft.path?.isNone then
      takeWords defaults { draft with path? := some s } (dropSeparator rest)
    else takeWords defaults (draft.note s) rest
  | .separator :: .value s :: rest =>
    if draft.path?.isNone then takeWords defaults { draft with path? := some s } rest
    else takeWords defaults ((draft.note "--").note s) rest
  | .separator :: rest => takeWords defaults (draft.note "--") rest
  | .unknown s :: rest => takeWords defaults (draft.note s) rest
  | .switch s isLong attached? :: rest =>
    match cluster (next? rest) s isLong attached? with
    | .error fault => .error (.arguments fault)
    | .ok c =>
      match c.settings.foldlM (Draft.apply defaults) draft with
      | .error stop => .error stop
      | .ok draft => takeWords defaults draft (if c.takesNext then rest.tail else rest)
  termination_by words.length
  decreasing_by
    · have := length_dropSeparator_le rest
      simp only [List.length_cons]
      omega
    all_goals simp only [List.length_cons]
    all_goals try omega
    split
    · simp only [List.length_tail]
      omega
    · omega

/-- The settings that a draft comes to. -/
def Draft.finish (draft : Draft) : Except Stop Settings :=
  match draft.path?, draft.unknown with
  | none, _ => .error (.arguments .pathMissing)
  | some root, [] =>
    let s := draft.settings
    if draft.lacksExtension then .error (.broken .extensionMissing)
    else
      .ok
        { s with
          root
          extension := Settings.dotted s.extension
          interactive := s.interactive && !(s.json || s.tokens) }
  | some _, arguments => .error (.arguments (.unrecognized arguments))

/-- The settings that the arguments ask for, over some defaults. -/
def settingsOver (defaults : Settings) (arguments : List String) : Except Stop Settings := do
  let words ← (Word.ofArguments arguments).mapError fun a => .arguments (.ambiguous a)
  let draft ← takeWords defaults { settings := defaults } words
  draft.finish

/-- The settings that the environment and the arguments ask for. -/
def settings (env : Settings.Environment) (arguments : List String) : Except Stop Settings := do
  let defaults ← (Settings.ofEnvironment env).mapError .environment
  settingsOver defaults arguments

end Cyclomatic.CommandLine
