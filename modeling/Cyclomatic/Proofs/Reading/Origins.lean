import Cyclomatic.Proofs.Reading.Completion
import Cyclomatic.Proofs.Reading.Nesting
import Cyclomatic.Proofs.Reading.Points
import Cyclomatic.Proofs.Token.Sorts

/-!
# Where statements come from

Each statement of a method comes from the token of its keyword, which is on the statement's line
(`Statement.word`). Written one after the other, a choice before what is nested in it, these words are
some of the tokens that were read, in their order: `Class.sublist_of_ofTokens`.

A choice becomes a statement when it is closed, after those nested in it. So the words read so far are
those of the statements and of the open choices, from the outermost one inwards (`Progress.words`), and
a token that is taken adds itself or nothing (`words_take`).
-/

set_option autoImplicit false

open scoped List

namespace Cyclomatic

namespace Statement

/-- The word that starts a statement. -/
def keyword : Statement → Keyword
  | decision kind _ => kind.keyword
  | choice kind _ _ _ => kind.keyword

mutual

/-- The statement, and then those that are nested in it. -/
def withNested : Statement → List Statement
  | decision kind line => [decision kind line]
  | choice kind line cases nested => choice kind line cases nested :: withNestedOfAll nested

/-- The statements, each before those that are nested in it. -/
def withNestedOfAll : List Statement → List Statement
  | [] => []
  | s :: rest => s.withNested ++ withNestedOfAll rest

end

theorem withNestedOfAll_append (statements others : List Statement) :
    withNestedOfAll (statements ++ others) =
      withNestedOfAll statements ++ withNestedOfAll others := by
  induction statements with
  | nil => rfl
  | cons s rest ih => rw [List.cons_append, withNestedOfAll, withNestedOfAll, ih, List.append_assoc]

theorem withNestedOfAll_singleton (s : Statement) : withNestedOfAll [s] = s.withNested := by
  rw [withNestedOfAll, withNestedOfAll, List.append_nil]

theorem mem_withNestedOfAll {s : Statement} {statements : List Statement} :
    s ∈ withNestedOfAll statements ↔ ∃ u ∈ statements, s ∈ u.withNested := by
  induction statements with
  | nil => simp [withNestedOfAll]
  | cons u rest ih => simp [withNestedOfAll, ih]

/-- The token of the word that starts a statement. -/
def word (s : Statement) : Token := ⟨.identifier, s.line, s.keyword.spelling⟩

/-- The words of the statements and of those nested in them. -/
def wordsOfAll (statements : List Statement) : List Token := (withNestedOfAll statements).map word

theorem wordsOfAll_append (statements others : List Statement) :
    wordsOfAll (statements ++ others) = wordsOfAll statements ++ wordsOfAll others := by
  rw [wordsOfAll, withNestedOfAll_append, List.map_append]
  rfl

theorem wordsOfAll_decision (kind : Decision) (line : Int) :
    wordsOfAll [decision kind line] = [⟨.identifier, line, kind.keyword.spelling⟩] := rfl

theorem wordsOfAll_choice (kind : Choice) (line cases : Int) (nested : List Statement) :
    wordsOfAll [choice kind line cases nested] =
      ⟨.identifier, line, kind.keyword.spelling⟩ :: wordsOfAll nested := by
  rw [wordsOfAll, withNestedOfAll_singleton, withNested]
  rfl

end Statement

namespace Reading

open Statement

/-! ## Bodies -/

theorem keyword_of_decision? {k : Keyword} {kind : Decision} (h : decision? k = some kind) :
    kind.keyword = k := by
  cases k <;> cases h <;> rfl

theorem keyword_of_choice? {k : Keyword} {kind : Choice} (h : choice? k = some kind) :
    kind.keyword = k := by
  cases k <;> cases h <;> rfl

namespace Progress

/-- The words of what has been read, as if all open choices were closed now. -/
def words (p : Progress) : List Token :=
  wordsOfAll (p.choices.map OpenChoice.statement ++ p.statements).reverse

variable {p : Progress} {t : Token} {k : Keyword} {line : Int} {n : Nat}

theorem words_cons (c : OpenChoice) (outer : List OpenChoice) (statements : List Statement) :
    words ⟨c :: outer, statements⟩ =
      words ⟨outer, statements⟩ ++
        ⟨.identifier, c.line, c.kind.keyword.spelling⟩ :: wordsOfAll c.nested.reverse := by
  rw [words, List.map_cons, List.cons_append, List.reverse_cons, wordsOfAll_append]
  exact congrArg _ (wordsOfAll_choice _ _ _ _)

theorem words_add (s : Statement) (p : Progress) : (p.add s).words = p.words ++ wordsOfAll [s] := by
  obtain ⟨choices, statements⟩ := p
  cases choices with
  | nil => exact (congrArg wordsOfAll List.reverse_cons).trans (wordsOfAll_append _ _)
  | cons c outer =>
    rw [add, words_cons, words_cons, List.reverse_cons, wordsOfAll_append, List.append_assoc,
      List.cons_append]

theorem words_addCase (p : Progress) : p.addCase.words = p.words := by
  obtain ⟨choices, statements⟩ := p
  cases choices with
  | nil => rfl
  | cons c outer => rw [addCase, words_cons, words_cons]

/-- A choice that is closed stays where its words were. -/
theorem words_close (p : Progress) : p.close.words = p.words := by
  obtain ⟨choices, statements⟩ := p
  cases choices with
  | nil => rfl
  | cons c outer => rw [close, words_add, wordsOfAll_choice, words_cons]

theorem words_start : (p.start k line n).words = p.words ∨
    (p.start k line n).words = p.words ++ [⟨.identifier, line, k.spelling⟩] ∧ k ≠ .bool_ := by
  unfold start
  split
  · rename_i kind _ hd
    rw [words_add, wordsOfAll_decision, keyword_of_decision? hd]
    exact .inr ⟨rfl, by rintro rfl; cases hd⟩
  · rename_i kind _ hc
    obtain ⟨choices, statements⟩ := p
    rw [words_cons, keyword_of_choice? hc]
    exact .inr ⟨rfl, by rintro rfl; cases hc⟩
  · exact .inl rfl

theorem words_start_of_keyword? (hk : t.keyword? = some k) :
    (p.start k t.line n).words <+ p.words ++ [t] := by
  rcases @words_start p k t.line n with h | ⟨h, hb⟩
  · rw [h]
    exact List.sublist_append_left _ _
  · have ht : t = ⟨.identifier, t.line, k.spelling⟩ := by
      have hi := Token.isIdentifier_of_keyword? hk
      obtain ⟨kind, line, lexeme⟩ := t
      obtain rfl : kind = .identifier := by simpa [Token.isIdentifier] using hi
      obtain rfl : lexeme = k.spelling := (Keyword.ofWord?_eq_some hb).1 hk
      rfl
    rw [h, ← ht]

/-- **A token that is taken adds itself or nothing.** -/
theorem words_take : (p.take t n).words <+ p.words ++ [t] := by
  have hsame : p.words <+ p.words ++ [t] := List.sublist_append_left _ _
  rcases take_cases p t n with h | h | h | ⟨k, hk, h⟩ <;> rw [h]
  · exact hsame
  · rwa [words_close]
  · rwa [words_addCase]
  · exact words_start_of_keyword? hk

end Progress

variable {depth : Nat} {p : Progress} {left : List Token} {brackets : List Bracket}
  {statements : List Statement} {rest : Tape}

theorem wordsOfAll_of_end (he : (p.choices.isEmpty && brackets.length == depth) = true) :
    wordsOfAll p.statements.reverse <+ p.words ++ left := by
  rw [Progress.words, choices_of_end he]
  exact List.sublist_append_left _ _

theorem bodyFrom_sublist (h : bodyFrom depth p left brackets = .ok statements rest) :
    wordsOfAll statements <+ p.words ++ left := by
  fun_induction bodyFrom depth p left brackets with
  | case1 p brackets he =>
    cases h
    exact wordsOfAll_of_end he
  | case2 => cases h
  | case3 p t left brackets he =>
    cases h
    exact wordsOfAll_of_end he
  | case4 => cases h
  | case5 p t brackets _ _ _ _ ih => exact (ih h).trans (by simp)
  | case6 p t brackets _ _ _ _ u left _ ih => exact (ih h).trans (by simp)
  | case7 p t brackets _ _ _ _ u left _ ih => exact (ih h).trans (by simp)
  | case8 p t left brackets _ _ _ _ ih =>
    have htake := (@Progress.words_take p t (after t brackets).length).append_right left
    rw [List.append_assoc] at htake
    exact (ih h).trans htake

/-! ## Members and classes -/

/-- Statements that are read as a body in a text, or none. -/
inductive ReadIn (left : List Token) : List Statement → Prop
  | none : ReadIn left []
  | body {depth : Nat} {inner : List Token} {brackets : List Bracket} {statements : List Statement}
      {rest : Tape} (hi : inner <:+ left)
      (hb : bodyFrom depth {} inner brackets = .ok statements rest) : ReadIn left statements

theorem ReadIn.mono {inner : List Token} (h : ReadIn inner statements) (hi : inner <:+ left) :
    ReadIn left statements := by
  cases h with
  | none => exact .none
  | body hinner hb => exact .body (hinner.trans hi) hb

theorem ReadIn.sublist (h : ReadIn left statements) : wordsOfAll statements <+ left := by
  cases h with
  | none => exact List.nil_sublist _
  | body hi hb => exact (bodyFrom_sublist hb).trans hi.sublist

/-- The methods that a step ends with are read in the tokens that it starts with. -/
def Draws {σ α : Type} (view : σ → Tape) (methods : α → List Method) (step : EStateM Fault σ α) :
    Prop :=
  ∀ state a rest, step state = .ok a rest → ∀ m ∈ methods a, ReadIn (view state).left m.statements

section

variable {σ α β : Type} {view : σ → Tape} {methods : β → List Method}

theorem draws_of_forall {step : EStateM Fault σ β}
    (h : ∀ state b rest, step state = .ok b rest → methods b = []) : Draws view methods step := by
  intro state b rest he m hm
  rw [h state b rest he] at hm
  nomatch hm

theorem draws_pure {b : β} (h : methods b = []) : Draws view methods (pure b) := by
  refine draws_of_forall fun state c rest he => ?_
  cases he
  exact h

theorem Reaches.isSuffix {tape rest : Tape} (h : Reaches tape rest) : rest.left <:+ tape.left := by
  obtain ⟨taken, hl, -⟩ := h
  rw [hl]
  exact List.suffix_append _ _

/-- What is drawn behind a step is drawn from the tokens that the step leaves. -/
theorem Disciplined.bind_draws {step : EStateM Fault σ α} {f : α → EStateM Fault σ β}
    (hs : Disciplined view step) (hf : ∀ a, Draws view methods (f a)) :
    Draws view methods (step >>= f) := by
  intro state b rest h m hm
  obtain ⟨a, middle, h₁, h₂⟩ := bind_eq_ok h
  exact (hf a middle b rest h₂ m hm).mono (hs.reaches h₁).isSuffix

end

theorem method_draws (imports : Imports) (visibility : Visibility) :
    Draws id (·.method?.toList) (method imports visibility) := by
  refine next_disciplined.bind_draws fun _ => depth_disciplined.bind_draws fun _ =>
    next_disciplined.bind_draws fun _ => (takeToDepth_disciplined _).bind_draws fun _ =>
    (returnType_disciplined imports).bind_draws fun _ => depth_disciplined.bind_draws fun _ =>
    next_disciplined.bind_draws fun t => ?_
  dsimp only
  split
  · intro tape member rest h m hm
    cases h
    obtain rfl := List.mem_singleton.1 hm
    exact .none
  · intro tape member rest h m hm
    obtain ⟨statements, middle, hb, h⟩ := bind_eq_ok h
    cases h
    obtain rfl := List.mem_singleton.1 hm
    exact .body List.suffix_rfl hb

theorem declared_draws (imports : Imports) (visibility : Visibility) (keyword : Keyword) :
    Draws id (·.method?.toList) (declared imports visibility keyword) := by
  unfold declared
  split
  · exact next_disciplined.bind_draws fun _ => (skipNullable_disciplined _).bind_draws fun _ =>
      draws_pure rfl
  · refine next_disciplined.bind_draws fun _ => (skipNullable_disciplined _).bind_draws fun t => ?_
    split
    · exact method_draws imports visibility
    · exact draws_pure rfl
  · exact method_draws imports visibility
  · exact skipStatement_disciplined.bind_draws fun _ => draws_pure rfl

theorem visible_draws (imports : Imports) (visibility : Visibility) :
    Draws id (·.method?.toList) (visible imports visibility) := by
  refine next_disciplined.bind_draws fun _ => (skipAbstract_disciplined _).bind_draws fun _ =>
    (skipNullable_disciplined _).bind_draws fun t => ?_
  split
  · exact draws_pure rfl
  · exact declared_draws imports visibility _
  · exact draws_pure rfl

theorem member_draws (imports : Imports) :
    Draws id (·.method?.toList) (member imports) := by
  refine (takeUntil_disciplined _).bind_draws fun _ => next_disciplined.bind_draws fun t => ?_
  split
  · exact draws_pure rfl
  · exact next_disciplined.bind_draws fun _ => draws_pure rfl
  · split
    · exact visible_draws imports _
    · exact declared_draws imports _ _

theorem members_draws (imports : Imports) (depth : Nat) :
    Draws id (·.flatMap (·.method?.toList)) (members imports depth) := by
  intro tape ms rest h
  unfold members at h
  fun_induction membersFrom imports depth tape generalizing ms rest with
  | case1 =>
    cases h
    intro m hm
    simp at hm
  | case2 => cases h
  | case3 => cases h
  | case4 tape _ first middle hfirst others rest' hr ih =>
    cases h
    intro m hm
    simp only [List.flatMap_cons, List.mem_append] at hm
    rcases hm with hm | hm
    · exact member_draws imports tape first middle hfirst m hm
    · have hstep : Reaches tape middle := (member_disciplined imports).reaches hfirst
      exact (ih others rest' hr m hm).mono hstep.isSuffix

theorem methods_addTo (c : Class) (m : Member) :
    (m.addTo c).methods = c.methods ++ m.method?.toList := by
  rw [addTo_eq]

theorem methods_foldl_addTo (ms : List Member) (c : Class) :
    (ms.foldl Member.addTo c).methods = c.methods ++ ms.flatMap (·.method?.toList) := by
  induction ms generalizing c with
  | nil => simp
  | cons m ms ih => rw [List.foldl_cons, ih, methods_addTo, List.flatMap_cons, List.append_assoc]

theorem mem_methods_complete {imports : Imports} {c : Class} {m : Method} :
    m ∈ (complete imports c).methods ↔ m ∈ c.methods := by
  rw [complete_eq]
  simp

theorem classDeclaration_draws (imports : Imports) (isAbstract : Bool) :
    Draws id Class.methods (classDeclaration imports isAbstract) := by
  refine next_disciplined.bind_draws fun _ => (parent_disciplined imports).bind_draws fun _ =>
    interfaces_disciplined.bind_draws fun _ => depth_disciplined.bind_draws fun _ =>
    next_disciplined.bind_draws fun _ => ?_
  intro tape c rest h m hm
  obtain ⟨ms, middle, hms, h⟩ := bind_eq_ok h
  cases h
  rw [mem_methods_complete, methods_foldl_addTo] at hm
  exact members_draws imports _ tape ms _ hms m (by simpa using hm)

/-! ## Files -/

/-- The methods of the class, if there is one. -/
def methodsOf (class? : Option Class) : List Method := (class?.map (·.methods)).getD []

theorem class_draws (isAbstract : Bool) : Draws State.tape methodsOf (do
    let state ← get
    some <$> onTape (classDeclaration state.imports isAbstract)) := by
  intro state class? rest h
  have hread : (some <$> onTape (classDeclaration state.imports isAbstract)) state =
      .ok class? rest := h
  rw [map_eq_pure_bind] at hread
  obtain ⟨c, middle, hc, hread⟩ := bind_eq_ok hread
  cases hread
  exact classDeclaration_draws _ _ _ _ _ (onTape_eq_ok hc).1

theorem declaration_draws (t : Token) : Draws State.tape methodsOf (declaration t) := by
  have hn : Disciplined State.tape (onTape next) := disciplined_onTape next_disciplined
  unfold declaration
  split
  · split
    · refine (disciplined_onTape (nextIs_disciplined _)).bind_draws fun isMember => ?_
      split
      · exact hn.bind_draws fun _ => hn.bind_draws fun _ => draws_pure rfl
      · exact draws_pure rfl
    · exact hn.bind_draws fun _ => (modifyImports_disciplined _).bind_draws fun _ => draws_pure rfl
    · exact useDeclaration_disciplined.bind_draws fun _ => draws_pure rfl
    · exact hn.bind_draws fun _ => class_draws true
    · exact class_draws false
    · exact class_draws false
    · exact draws_pure rfl
  · exact draws_pure rfl

theorem fileFrom_draws {state rest : State} {c : Class}
    (h : fileFrom state = .ok (some c) rest) :
    ∀ m ∈ c.methods, ReadIn state.tape.left m.statements := by
  fun_induction fileFrom state with
  | case1 => cases h
  | case2 => cases h
  | case3 => cases h
  | case4 state t tape ht c' rest' hd =>
    cases h
    intro m hm
    have hnext : Reaches state.tape tape := next?_disciplined.reaches ht
    exact (declaration_draws t _ _ _ hd m hm).mono hnext.isSuffix
  | case5 state t tape ht rest' hd ih =>
    intro m hm
    have hnext : Reaches state.tape tape := next?_disciplined.reaches ht
    have hstep : Reaches tape rest'.tape := (declaration_disciplined t).reaches hd
    exact (ih h m hm).mono (hnext.trans hstep).isSuffix

end Reading

theorem Class.readIn_of_ofTokens {tokens : List Token} {c : Class}
    (h : ofTokens tokens = .ok (some c)) : ∀ m ∈ c.methods, Reading.ReadIn tokens m.statements := by
  unfold ofTokens at h
  split at h
  · rename_i rest hfile
    cases h
    exact Reading.fileFrom_draws hfile
  · cases h

/-- **The words of a method's statements are tokens of its file**, in the order of the file. -/
theorem Class.sublist_of_ofTokens {tokens : List Token} {c : Class}
    (h : ofTokens tokens = .ok (some c)) :
    ∀ m ∈ c.methods, Statement.wordsOfAll m.statements <+ tokens :=
  fun m hm => (readIn_of_ofTokens h m hm).sublist

end Cyclomatic
