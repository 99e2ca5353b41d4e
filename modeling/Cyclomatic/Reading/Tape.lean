import Cyclomatic.Token
import Cyclomatic.Text.Quoted

/-!
# Reading tokens

A `Tape` is what is left of a list of tokens, with the brackets that are open where it starts.
Taking a token opens or closes a bracket; a closing bracket that closes nothing, or something else,
is a fault, and it is taken all the same. A `Read` is a step that takes tokens; on a fault the tape
is kept as the fault left it.
-/

set_option autoImplicit false

namespace Cyclomatic.Reading

/-- The brackets that have to match. -/
inductive Bracket where
  | paren | brace
  deriving DecidableEq, Repr

/-- Why tokens form no class. -/
inductive Fault where
  | unexpectedEnd
  /-- A bracket closes although none is open. -/
  | unopened (lexeme : String) (line : Int)
  /-- A bracket closes although another one was opened last. -/
  | mismatched (lexeme : String) (line : Int)
  /-- The tokens end inside a switch that starts on the line. -/
  | unclosedSwitch (line : Int)
  /-- The tokens end inside a match that starts on the line. -/
  | unclosedMatch (line : Int)
  deriving DecidableEq, Repr

/-- The words for a fault. -/
def Fault.message : Fault → String
  | .unexpectedEnd => "Se esperaba un token, pero el archivo terminó"
  | .unopened lexeme line =>
    "Cierre sin apertura " ++ Text.quoted lexeme ++ " en la línea " ++ toString line
  | .mismatched lexeme line =>
    "Cierre " ++ Text.quoted lexeme ++ " no coincide en la línea " ++ toString line
  | .unclosedSwitch line => "switch sin cerrar (línea " ++ toString line ++ ")"
  | .unclosedMatch line => "match sin cerrar (línea " ++ toString line ++ ")"

/-! ## Brackets -/

/-- The bracket that a token opens. -/
def opened? (t : Token) : Option Bracket :=
  match t.kind with
  | .leftParen => some .paren
  | .leftBrace => some .brace
  | _ => none

/-- The bracket that a token closes. -/
def closed? (t : Token) : Option Bracket :=
  match t.kind with
  | .rightParen => some .paren
  | .rightBrace => some .brace
  | _ => none

/-- The token that opens a bracket. -/
def Bracket.opener : Bracket → Token.Kind
  | .paren => .leftParen
  | .brace => .leftBrace

/-- The brackets open after a token, the innermost first. -/
def after (t : Token) (brackets : List Bracket) : List Bracket :=
  match opened? t, closed? t with
  | some b, _ => b :: brackets
  | none, some _ => brackets.tail
  | none, none => brackets

/-- The fault of a token where `brackets` are open. -/
def fault? (t : Token) (brackets : List Bracket) : Option Fault :=
  match closed? t, brackets with
  | none, _ => none
  | some _, [] => some (.unopened t.lexeme t.line)
  | some b, top :: _ => if top = b then none else some (.mismatched t.lexeme t.line)

/-! ## Tapes -/

/-- The tokens left, and the brackets open before them. -/
structure Tape where
  left : List Token
  /-- The open brackets, the innermost first. -/
  brackets : List Bracket
  deriving DecidableEq, Repr

/-- How many brackets are open. -/
def Tape.depth (tape : Tape) : Nat := tape.brackets.length

/-- A step that takes tokens from a tape. -/
abbrev Read (α : Type) := EStateM Fault Tape α

/-- What a step ends with. -/
abbrev Result (α : Type) := EStateM.Result Fault Tape α

/-- Takes the next token, if there is one. -/
def next? : Read (Option Token)
  | ⟨[], brackets⟩ => .ok none ⟨[], brackets⟩
  | ⟨t :: left, brackets⟩ =>
    match fault? t brackets with
    | none => .ok (some t) ⟨left, after t brackets⟩
    | some fault => .error fault ⟨left, after t brackets⟩

/-- Takes the next token, which has to be there. -/
def next : Read Token := do
  match ← next? with
  | some t => pure t
  | none => throw .unexpectedEnd

/-- Whether the next token is there and passes a test. -/
def nextIs (p : Token → Bool) : Read Bool := fun tape => .ok (tape.left.head?.any p) tape

/-- How many brackets are open. -/
def depth : Read Nat := fun tape => .ok tape.depth tape

/-- Takes tokens until `stop` holds of the tape; they must not end before. -/
def takeUntilFrom (stop : Tape → Bool) : List Token → List Bracket → Result (List Token)
  | [], brackets =>
    if stop ⟨[], brackets⟩ then .ok [] ⟨[], brackets⟩ else .error .unexpectedEnd ⟨[], brackets⟩
  | t :: left, brackets =>
    if stop ⟨t :: left, brackets⟩ then .ok [] ⟨t :: left, brackets⟩
    else
      match fault? t brackets with
      | some fault => .error fault ⟨left, after t brackets⟩
      | none =>
        match takeUntilFrom stop left (after t brackets) with
        | .ok taken tape => .ok (t :: taken) tape
        | .error fault tape => .error fault tape

/-- Takes tokens up to one that passes the test, or all of them if none does. -/
def takeUntil (p : Token → Bool) : Read (List Token) := fun tape =>
  takeUntilFrom (fun tape => tape.left.head?.all p) tape.left tape.brackets

/-- Takes tokens until `depth` brackets are open. -/
def takeToDepth (depth : Nat) : Read (List Token) := fun tape =>
  takeUntilFrom (·.depth == depth) tape.left tape.brackets

/-! ## Progress -/

/-- The step gives no token back. -/
def Advances {α : Type} (step : Read α) : Prop :=
  ∀ tape a after, step tape = .ok a after → after.left.length ≤ tape.left.length

/-- The step takes a token, if it succeeds. -/
def Takes {α : Type} (step : Read α) : Prop :=
  ∀ tape a after, step tape = .ok a after → after.left.length < tape.left.length

theorem bind_eq_ok {σ α β : Type} {step : EStateM Fault σ α} {f : α → EStateM Fault σ β}
    {state after : σ} {b : β} (h : (step >>= f) state = .ok b after) :
    ∃ a middle, step state = .ok a middle ∧ f a middle = .ok b after := by
  simp only [bind, EStateM.bind] at h
  split at h
  · exact ⟨_, _, by assumption, h⟩
  · simp at h

theorem Takes.advances {α : Type} {step : Read α} (h : Takes step) : Advances step :=
  fun tape a after he => Nat.le_of_lt (h tape a after he)

theorem advances_pure {α : Type} (a : α) : Advances (pure a : Read α) := by
  intro tape b after h
  simp only [pure, EStateM.pure, EStateM.Result.ok.injEq] at h
  simp [h.2]

theorem Advances.bind {α β : Type} {step : Read α} {f : α → Read β} (hs : Advances step)
    (hf : ∀ a, Advances (f a)) : Advances (step >>= f) := by
  intro tape b after h
  obtain ⟨a, middle, h₁, h₂⟩ := bind_eq_ok h
  exact Nat.le_trans (hf a middle b after h₂) (hs tape a middle h₁)

theorem Takes.bind {α β : Type} {step : Read α} {f : α → Read β} (hs : Takes step)
    (hf : ∀ a, Advances (f a)) : Takes (step >>= f) := by
  intro tape b after h
  obtain ⟨a, middle, h₁, h₂⟩ := bind_eq_ok h
  exact Nat.lt_of_le_of_lt (hf a middle b after h₂) (hs tape a middle h₁)

theorem Advances.bind_takes {α β : Type} {step : Read α} {f : α → Read β} (hs : Advances step)
    (hf : ∀ a, Takes (f a)) : Takes (step >>= f) := by
  intro tape b after h
  obtain ⟨a, middle, h₁, h₂⟩ := bind_eq_ok h
  exact Nat.lt_of_lt_of_le (hf a middle b after h₂) (hs tape a middle h₁)

theorem next?_eq_some {tape rest : Tape} {t : Token} (h : next? tape = .ok (some t) rest) :
    rest.left.length < tape.left.length := by
  obtain ⟨_ | ⟨u, left⟩, brackets⟩ := tape
  · simp [next?] at h
  · simp only [next?] at h
    split at h
    · simp only [EStateM.Result.ok.injEq] at h
      simp [← h.2]
    · simp at h

theorem next_takes : Takes next := by
  intro tape a after h
  obtain ⟨t?, middle, h₁, h₂⟩ := bind_eq_ok h
  cases t? with
  | none => nomatch h₂
  | some t =>
    simp only [pure, EStateM.pure, EStateM.Result.ok.injEq] at h₂
    rw [← h₂.2]
    exact next?_eq_some h₁

theorem nextIs_advances (p : Token → Bool) : Advances (nextIs p) := by
  intro tape a after h
  simp only [nextIs, EStateM.Result.ok.injEq] at h
  simp [h.2]

theorem depth_advances : Advances depth := by
  intro tape a after h
  simp only [depth, EStateM.Result.ok.injEq] at h
  simp [h.2]

theorem takeUntilFrom_length {stop : Tape → Bool} {left taken : List Token}
    {brackets : List Bracket} {rest : Tape}
    (h : takeUntilFrom stop left brackets = .ok taken rest) : rest.left.length ≤ left.length := by
  induction left generalizing brackets taken rest with
  | nil =>
    rw [takeUntilFrom] at h
    split at h
    · simp only [EStateM.Result.ok.injEq] at h
      simp [← h.2]
    · simp at h
  | cons t left ih =>
    rw [takeUntilFrom] at h
    split at h
    · simp only [EStateM.Result.ok.injEq] at h
      simp [← h.2]
    · split at h
      · simp at h
      · split at h
        · rename_i ht
          simp only [EStateM.Result.ok.injEq] at h
          rw [← h.2]
          exact Nat.le_succ_of_le (ih ht)
        · simp at h

theorem takeUntil_advances (p : Token → Bool) : Advances (takeUntil p) :=
  fun _ _ _ h => takeUntilFrom_length h

theorem takeToDepth_advances (depth : Nat) : Advances (takeToDepth depth) :=
  fun _ _ _ h => takeUntilFrom_length h

end Cyclomatic.Reading
