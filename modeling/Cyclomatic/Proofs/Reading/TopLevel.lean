import Cyclomatic.Proofs.Token.Sorts

/-!
# The top level of a file

Up to its class a file only declares names: a namespace, and imports. What tokens declare, and where
they fault or come to a class, does not depend on the names declared before (`fileFrom_outcome`).
-/

set_option autoImplicit false

namespace Cyclomatic.Reading

open Token

/-- What the top level of a file says about names. -/
inductive Declared where
  | base (name : String)
  | use (name : String)
  | useAs (name other : String)

/-- Adds what is declared to what was declared before. -/
def Declared.addTo (imports : Imports) : Declared → Imports
  | .base name => { imports with base := name }
  | .use name => imports.use name
  | .useAs name other => imports.useAs name other

def declareAll (ds : List Declared) (imports : Imports) : Imports :=
  ds.foldl Declared.addTo imports

theorem declareAll_append (ds others : List Declared) (imports : Imports) :
    declareAll (ds ++ others) imports = declareAll others (declareAll ds imports) :=
  List.foldl_append

/-- What a run that starts with some imports comes to, the same for all imports: a fault, the end, or
a class to read. Before that it declares `ds`. -/
inductive Outcome (run : Imports → EStateM.Result Fault State (Option Class)) : Prop where
  | fails (ds : List Declared) (fault : Fault) (tape : Tape)
    (h : ∀ imports, run imports = .error fault ⟨tape, declareAll ds imports⟩)
  | ends (ds : List Declared) (tape : Tape)
    (h : ∀ imports, run imports = .ok none ⟨tape, declareAll ds imports⟩)
  | starts (ds : List Declared) (isAbstract : Bool) (tape : Tape)
    (h : ∀ imports, run imports =
      (some <$> onTape (classDeclaration (declareAll ds imports) isAbstract))
        ⟨tape, declareAll ds imports⟩)

theorem Outcome.onTape {α : Type} {step : Read α} {f : α → FileRead (Option Class)} {tape : Tape}
    (hf : ∀ a rest, Outcome fun imports => f a ⟨rest, imports⟩) :
    Outcome fun imports => (onTape step >>= f) ⟨tape, imports⟩ := by
  cases hs : step tape with
  | ok a rest =>
    have hrun : (fun imports => (Reading.onTape step >>= f) ⟨tape, imports⟩) =
        fun imports => f a ⟨rest, imports⟩ := funext fun _ => bind_run (onTape_run hs)
    rw [hrun]
    exact hf a rest
  | error fault rest =>
    refine .fails [] fault rest fun imports => ?_
    simp [bind, EStateM.bind, Reading.onTape, hs, declareAll]

theorem outcome_none (tape : Tape) :
    Outcome fun imports => (pure none : FileRead (Option Class)) ⟨tape, imports⟩ :=
  .ends [] tape fun _ => rfl

theorem outcome_class (isAbstract : Bool) (tape : Tape) :
    Outcome fun imports => (do
      let state ← get
      some <$> onTape (classDeclaration state.imports isAbstract) : FileRead (Option Class))
        ⟨tape, imports⟩ :=
  .starts [] isAbstract tape fun _ => rfl

theorem outcome_use (tape : Tape) :
    Outcome fun imports => (do
      useDeclaration
      pure none : FileRead (Option Class)) ⟨tape, imports⟩ := by
  simp only [useDeclaration, bind_assoc]
  refine .onTape fun name tape => .onTape fun isAlias tape => ?_
  cases isAlias with
  | true =>
    simp only [if_true, bind_assoc]
    exact .onTape fun _ tape => .onTape fun other tape =>
      .ends [.useAs name.lexeme other.lexeme] tape fun _ => rfl
  | false => exact .ends [.use name.lexeme] tape fun _ => rfl

/-- **What one token starts at the top level**, whatever is declared before. -/
theorem declaration_outcome (t : Token) (tape : Tape) :
    Outcome fun imports => declaration t ⟨tape, imports⟩ := by
  unfold declaration
  split
  · cases hk : t.keyword? with
    | none =>
      refine .onTape fun isMember tape => ?_
      cases isMember with
      | true =>
        simp only [if_true]
        exact .onTape fun _ _ => .onTape fun _ _ => outcome_none _
      | false => exact outcome_none tape
    | some keyword =>
      cases keyword with
      | namespace_ => exact .onTape fun name tape => .ends [.base name.lexeme] tape fun _ => rfl
      | use_ => exact outcome_use tape
      | abstract_ => exact .onTape fun _ tape => outcome_class true tape
      | class_ => exact outcome_class false tape
      | trait_ => exact outcome_class false tape
      | _ => exact outcome_none tape
  · exact outcome_none tape

theorem Outcome.after {ds : List Declared} {tape : Tape}
    {run : Imports → EStateM.Result Fault State (Option Class)}
    (h : Outcome fun imports => fileFrom ⟨tape, imports⟩)
    (hr : ∀ imports, run imports = fileFrom ⟨tape, declareAll ds imports⟩) : Outcome run := by
  cases h with
  | fails others fault rest h =>
    exact .fails (ds ++ others) fault rest fun imports => by rw [hr, h, declareAll_append]
  | ends others rest h =>
    exact .ends (ds ++ others) rest fun imports => by rw [hr, h, declareAll_append]
  | starts others isAbstract rest h =>
    exact .starts (ds ++ others) isAbstract rest fun imports => by rw [hr, h, declareAll_append]

/-- **The top level of a file**: what its tokens come to does not depend on the names declared
before. -/
theorem fileFrom_outcome (tape : Tape) : Outcome fun imports => fileFrom ⟨tape, imports⟩ := by
  induction hn : tape.left.length using Nat.strongRecOn generalizing tape with
  | ind n ih =>
    subst hn
    match ht : next? tape with
    | .error fault rest =>
      refine .fails [] fault rest fun imports => ?_
      rw [fileFrom]
      split <;> simp_all [declareAll]
    | .ok none rest =>
      refine .ends [] rest fun imports => ?_
      rw [fileFrom]
      split <;> simp_all [declareAll]
    | .ok (some t) rest =>
      have hrun (imports : Imports) : fileFrom ⟨tape, imports⟩ = _ := fileFrom_run ht
      have hkeeps := declaration_keeps t ⟨rest, {}⟩ none
      cases declaration_outcome t rest with
      | fails ds fault tape h => exact .fails ds fault tape fun imports => by rw [hrun, h]
      | starts ds isAbstract tape h =>
        refine .starts ds isAbstract tape fun imports => ?_
        rw [hrun, h]
        cases hc : onTape (classDeclaration (declareAll ds imports) isAbstract)
            ⟨tape, declareAll ds imports⟩ <;>
          simp [Functor.map, EStateM.map, hc]
      | ends ds tape h =>
        -- how many tokens are left does not depend on the imports, so any will do
        have hshorter := hkeeps _ (h {})
        exact (ih _ (Nat.lt_of_le_of_lt hshorter (next?_eq_some ht)) tape rfl).after
          fun imports => by rw [hrun, h]

/-! ## Use statements -/

/-- `use X;` or `use X as Y;`. -/
structure UseStatement where
  use : Reserved .use_
  name : Name
  other? : Option (Reserved .as_ × Name)
  semicolon : Sign .semicolon

namespace UseStatement

/-- What follows the imported name. -/
def ending (u : UseStatement) : List Token :=
  match u.other? with
  | none => [u.semicolon.1]
  | some (as, other) => [as.1, other.1, u.semicolon.1]

def tokens (u : UseStatement) : List Token := u.use.1 :: u.name.1 :: u.ending

/-- What the statement declares. -/
def declared (u : UseStatement) : Declared :=
  match u.other? with
  | none => .use u.name.1.lexeme
  | some (_, other) => .useAs u.name.1.lexeme other.1.lexeme

end UseStatement

variable {t name : Token} {left : List Token} {brackets : List Bracket} {imports : Imports}

theorem fileFrom_sign {kind : Kind} (hk : t.kind = kind) (hi : kind ≠ .identifier)
    (h : kind ∉ Kind.brackets) :
    fileFrom ⟨⟨t :: left, brackets⟩, imports⟩ = fileFrom ⟨⟨left, brackets⟩, imports⟩ := by
  obtain ⟨ho, hc⟩ := plain_of_kind hk h
  refine fileFrom_pass (next?_plain ho hc) ?_
  rw [declaration, not_isIdentifier_of_kind hk hi]
  rfl

theorem fileFrom_namespace (word : Reserved .namespace_) (base : Name) :
    fileFrom ⟨⟨word.1 :: base.1 :: left, brackets⟩, imports⟩ =
      fileFrom ⟨⟨left, brackets⟩, { imports with base := base.1.lexeme }⟩ := by
  have hi := isIdentifier_of_keyword? word.2
  refine fileFrom_pass (next?_name hi) ?_
  simp only [declaration, hi, word.2, if_true]
  exact (bind_run (onTape_run (next_name base.2))).trans (bind_run rfl)

theorem declaration_use {state next : State} (hk : t.keyword? = some .use_)
    (h : useDeclaration state = .ok () next) : declaration t state = .ok none next := by
  simp only [declaration, isIdentifier_of_keyword? hk, hk, if_true]
  exact bind_run h

theorem useDeclaration_plain (hn : name.isIdentifier = true) (ht : t.keyword? ≠ some .as_) :
    useDeclaration ⟨⟨name :: t :: left, brackets⟩, imports⟩ =
      .ok () ⟨⟨t :: left, brackets⟩, imports.use name.lexeme⟩ := by
  have hnext : nextIs (·.keyword? = some .as_) ⟨t :: left, brackets⟩ =
      .ok false ⟨t :: left, brackets⟩ := by simp [nextIs, ht]
  rw [useDeclaration, bind_run (onTape_run (next_name hn)), bind_run (onTape_run hnext)]
  rfl

theorem useDeclaration_as {other : Token} (hn : name.isIdentifier = true)
    (ht : t.keyword? = some .as_) (ho : other.isIdentifier = true) :
    useDeclaration ⟨⟨name :: t :: other :: left, brackets⟩, imports⟩ =
      .ok () ⟨⟨left, brackets⟩, imports.useAs name.lexeme other.lexeme⟩ := by
  have hnext : nextIs (·.keyword? = some .as_) ⟨t :: other :: left, brackets⟩ =
      .ok true ⟨t :: other :: left, brackets⟩ := by simp [nextIs, ht]
  rw [useDeclaration, bind_run (onTape_run (next_name hn)), bind_run (onTape_run hnext), if_pos rfl,
    bind_run (onTape_run (next_name (isIdentifier_of_keyword? ht))),
    bind_run (onTape_run (next_name ho))]
  rfl

/-- A use statement is read as what it declares. -/
theorem fileFrom_use (u : UseStatement) :
    fileFrom ⟨⟨u.tokens ++ left, brackets⟩, imports⟩ =
      fileFrom ⟨⟨left, brackets⟩, u.declared.addTo imports⟩ := by
  obtain ⟨⟨use, huse⟩, ⟨name, hname⟩, other?, ⟨semicolon, hsemicolon⟩⟩ := u
  have hend (imports : Imports) : fileFrom ⟨⟨semicolon :: left, brackets⟩, imports⟩ =
      fileFrom ⟨⟨left, brackets⟩, imports⟩ :=
    fileFrom_sign hsemicolon (by decide) (by decide)
  have hi : use.isIdentifier = true := isIdentifier_of_keyword? huse
  cases other? with
  | none =>
    have has : semicolon.keyword? ≠ some .as_ := by simp [keyword?_of_kind hsemicolon (by decide)]
    exact (fileFrom_pass (next?_name hi)
      (declaration_use huse (useDeclaration_plain hname has))).trans (hend _)
  | some pair =>
    obtain ⟨⟨as, has⟩, ⟨other, hother⟩⟩ := pair
    exact (fileFrom_pass (next?_name hi)
      (declaration_use huse (useDeclaration_as hname has hother))).trans (hend _)

theorem fileFrom_uses (us : List UseStatement) :
    fileFrom ⟨⟨us.flatMap UseStatement.tokens ++ left, brackets⟩, imports⟩ =
      fileFrom ⟨⟨left, brackets⟩, declareAll (us.map UseStatement.declared) imports⟩ := by
  induction us generalizing imports with
  | nil => rfl
  | cons u us ih =>
    rw [List.flatMap_cons, List.append_assoc, fileFrom_use, ih]
    rfl

end Cyclomatic.Reading
