import Cyclomatic.Reading.Member

/-!
# The class of a file

`file` reads the first class or trait that a list of tokens declares; there may be none. It ends
with the place where it stopped and with the imports met before, also after a fault.
`Class.ofTokens` gives the class alone.
-/

set_option autoImplicit false

namespace Cyclomatic.Reading

/-! ## Classes -/

/-- Reads members until `depth` brackets are open. -/
def membersFrom (imports : Imports) (depth : Nat) (tape : Tape) : Result (List Member) :=
  if tape.depth = depth then .ok [] tape
  else
    match _h : member imports tape with
    | .error fault rest => .error fault rest
    | .ok m rest =>
      match membersFrom imports depth rest with
      | .error fault rest => .error fault rest
      | .ok ms rest => .ok (m :: ms) rest
  termination_by tape.left.length
  decreasing_by exact member_takes imports tape m rest _h

/-- Reads the members of a class body, up to where `depth` brackets are open again. -/
def members (imports : Imports) (depth : Nat) : Read (List Member) := membersFrom imports depth

/-- Reads what a class extends, if it says so. -/
def parent (imports : Imports) : Read (Option String) := do
  if ← nextIs (·.keyword? = some .extends_) then
    let _ ← next
    pure (some (imports.resolve (← next)))
  else pure none

/-- Reads the interfaces that a class implements, if it says so. -/
def interfaces : Read (List String) := do
  if ← nextIs (·.keyword? = some .implements_) then
    let _ ← next
    let names ← takeUntil (·.kind == .leftBrace)
    pure ((names.filter (·.kind != .comma)).map (·.lexeme))
  else pure []

/-- Completes a class whose members are read: imports are dependencies too, aliases give way to the
names that they stand for, and methods are put in descending order of complexity. -/
def complete (imports : Imports) (c : Class) : Class :=
  let c := imports.uses.foldl Class.addDependency c
  { c with
    dependencies := imports.realNames c.dependencies
    parent? := c.parent?.map imports.realName
    methods := c.methods.mergeSort fun a b => b.complexity ≤ a.complexity }

/-- Reads a class after the word `class` or `trait`. -/
def classDeclaration (imports : Imports) (isAbstract : Bool) : Read Class := do
  let name ← next
  let parent? ← parent imports
  let interfaces ← interfaces
  let outside ← depth
  let _ ← next
  let members ← members imports outside
  let declared : Class :=
    { name := imports.inNamespace name.lexeme, parent?, interfaces, isAbstract }
  pure (complete imports (members.foldl Member.addTo declared))

/-! ## Files -/

/-- Where the reading of a file stands. -/
structure State where
  /-- The tokens left. -/
  tape : Tape := ⟨[], []⟩
  /-- The imports met so far. -/
  imports : Imports := {}
  deriving DecidableEq, Repr

/-- A step of the reading of a file. -/
abbrev FileRead (α : Type) := EStateM Fault State α

/-- A step that leaves the imports as they are. -/
def onTape {α : Type} (step : Read α) : FileRead α := fun state =>
  match step state.tape with
  | .ok a tape => .ok a { state with tape }
  | .error fault tape => .error fault { state with tape }

/-- Changes the imports. -/
def modifyImports (f : Imports → Imports) : FileRead Unit :=
  modify fun state => { state with imports := f state.imports }

/-- Reads a name to import, and the name that it is imported under. -/
def useDeclaration : FileRead Unit := do
  let name ← onTape next
  if ← onTape (nextIs (·.keyword? = some .as_)) then
    let _ ← onTape next
    let other ← onTape next
    modifyImports (·.useAs name.lexeme other.lexeme)
  else modifyImports (·.use name.lexeme)

/-- Reads what a token starts at the top level of a file: the class, or something before it. The
names of members are passed over, since they may be spelled like keywords. -/
def declaration (t : Token) : FileRead (Option Class) := do
  if t.isIdentifier then
    match t.keyword? with
    | none =>
      if ← onTape (nextIs Token.isMemberAccess) then
        let _ ← onTape next
        let _ ← onTape next
      pure none
    | some .namespace_ =>
      let name ← onTape next
      modifyImports ({ · with base := name.lexeme })
      pure none
    | some .use_ =>
      useDeclaration
      pure none
    | some .abstract_ =>
      let _ ← onTape next
      let state ← get
      some <$> onTape (classDeclaration state.imports true)
    | some .class_ | some .trait_ =>
      let state ← get
      some <$> onTape (classDeclaration state.imports false)
    | some _ => pure none
  else pure none

/-- The step gives no token back. -/
def Keeps {α : Type} (step : FileRead α) : Prop :=
  ∀ state a after, step state = .ok a after → after.tape.left.length ≤ state.tape.left.length

theorem keeps_onTape {α : Type} {step : Read α} (h : Advances step) : Keeps (onTape step) := by
  intro state a after he
  unfold onTape at he
  split at he
  · rename_i hs
    simp only [EStateM.Result.ok.injEq] at he
    rw [← he.2]
    exact h _ _ _ hs
  · simp at he

theorem Keeps.bind {α β : Type} {step : FileRead α} {f : α → FileRead β} (hs : Keeps step)
    (hf : ∀ a, Keeps (f a)) : Keeps (step >>= f) := by
  intro state b after h
  change EStateM.bind step f state = .ok b after at h
  unfold EStateM.bind at h
  split at h
  · rename_i a middle hm
    exact Nat.le_trans (hf a middle b after h) (hs state a middle hm)
  · simp at h

theorem keeps_pure {α : Type} (a : α) : Keeps (pure a : FileRead α) := by
  intro state b after h
  cases h
  exact Nat.le_refl _

theorem keeps_get : Keeps (get : FileRead State) := by
  intro state b after h
  cases h
  exact Nat.le_refl _

theorem keeps_modifyImports (f : Imports → Imports) : Keeps (modifyImports f) := by
  intro state b after h
  cases h
  exact Nat.le_refl _

theorem membersFrom_length {imports : Imports} {depth : Nat} {tape rest : Tape} {ms : List Member}
    (h : membersFrom imports depth tape = .ok ms rest) : rest.left.length ≤ tape.left.length := by
  fun_induction membersFrom imports depth tape generalizing ms rest with
  | case1 => cases h; exact Nat.le_refl _
  | case2 => simp at h
  | case3 => simp at h
  | case4 tape _ m middle hm ms' rest' hr ih =>
    cases h
    exact Nat.le_trans (ih hr) (Nat.le_of_lt (member_takes imports _ _ _ hm))

theorem parent_advances (imports : Imports) : Advances (parent imports) := by
  refine (nextIs_advances _).bind fun extends_ => ?_
  split
  · exact next_takes.advances.bind fun _ => next_takes.advances.bind fun _ => advances_pure _
  · exact advances_pure _

theorem interfaces_advances : Advances interfaces := by
  refine (nextIs_advances _).bind fun implements => ?_
  split
  · exact next_takes.advances.bind fun _ => (takeUntil_advances _).bind fun _ => advances_pure _
  · exact advances_pure _

theorem classDeclaration_advances (imports : Imports) (isAbstract : Bool) :
    Advances (classDeclaration imports isAbstract) :=
  next_takes.advances.bind fun _ => (parent_advances imports).bind fun _ =>
    interfaces_advances.bind fun _ => depth_advances.bind fun _ => next_takes.advances.bind fun _ =>
    Advances.bind (fun _ _ _ h => membersFrom_length h) fun _ => advances_pure _

theorem useDeclaration_keeps : Keeps useDeclaration := by
  have hn : Keeps (onTape next) := keeps_onTape next_takes.advances
  refine hn.bind fun _ => (keeps_onTape (nextIs_advances _)).bind fun isAlias => ?_
  split
  · exact hn.bind fun _ => hn.bind fun _ => keeps_modifyImports _
  · exact keeps_modifyImports _

theorem declaration_keeps (t : Token) : Keeps (declaration t) := by
  have hn : Keeps (onTape next) := keeps_onTape next_takes.advances
  have hc (isAbstract : Bool) : Keeps (do
      let state ← get
      some <$> onTape (classDeclaration state.imports isAbstract)) :=
    keeps_get.bind fun state =>
      (keeps_onTape (classDeclaration_advances state.imports isAbstract)).bind fun _ =>
        keeps_pure _
  unfold declaration
  split
  · split
    · refine (keeps_onTape (nextIs_advances _)).bind fun isMember => ?_
      split
      · exact hn.bind fun _ => hn.bind fun _ => keeps_pure _
      · exact keeps_pure _
    · exact hn.bind fun _ => (keeps_modifyImports _).bind fun _ => keeps_pure _
    · exact useDeclaration_keeps.bind fun _ => keeps_pure _
    · exact hn.bind fun _ => hc true
    · exact hc false
    · exact hc false
    · exact keeps_pure _
  · exact keeps_pure _

/-- Reads a file from a state on, up to the end of its first class. -/
def fileFrom (state : State) : EStateM.Result Fault State (Option Class) :=
  match _ht : next? state.tape with
  | .error fault tape => .error fault { state with tape }
  | .ok none tape => .ok none { state with tape }
  | .ok (some t) tape =>
    match _hd : declaration t { state with tape } with
    | .error fault rest => .error fault rest
    | .ok (some c) rest => .ok (some c) rest
    | .ok none rest => fileFrom rest
  termination_by state.tape.left.length
  decreasing_by
    exact Nat.lt_of_le_of_lt (declaration_keeps t _ _ _ _hd) (next?_eq_some _ht)

/-- Reads the class of a file's tokens. -/
def file (tokens : List Token) : EStateM.Result Fault State (Option Class) :=
  fileFrom { tape := ⟨tokens, []⟩ }

/-- Puts new tokens into a state that has served for other files, and clears the rest of it. -/
def State.restart (tokens : List Token) (state : State) : State :=
  { state with
    tape := { state.tape with left := tokens, brackets := [] }
    imports := { state.imports with base := "", uses := [], aliases := [] } }

/-- Reads the class of a file's tokens with a state that has served for other files. -/
def nextFile (tokens : List Token) : FileRead (Option Class) := fun state =>
  fileFrom (state.restart tokens)

end Cyclomatic.Reading

namespace Cyclomatic

/-- The class of a file's tokens, if they declare one. -/
def Class.ofTokens (tokens : List Token) : Except Reading.Fault (Option Class) :=
  match Reading.file tokens with
  | .ok c? _ => .ok c?
  | .error fault _ => .error fault

end Cyclomatic
