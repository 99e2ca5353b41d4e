import Cyclomatic.Proofs.Reading.Run

/-!
# Brackets nest in what has been read

`nesting tokens`: the brackets that tokens leave open, if each closing bracket among them closes
the innermost open one. A reading step is `Disciplined` if the tokens that it takes nest from the
brackets of its tape to those that it leaves; if it fails, the tokens have ended, or the last one
taken closes no bracket or another one (`Fails`). Steps keep this when they are put together
(`Disciplined.bind`), so one lemma per reading step leads to the file: `file_nests`.
-/

set_option autoImplicit false

namespace Cyclomatic.Reading

/-! ## Nesting -/

/-- The brackets open after a token; none if it closes no bracket or not the innermost one. -/
def nest (brackets : List Bracket) (t : Token) : Option (List Bracket) :=
  match t.kind, brackets with
  | .leftParen, _ => some (.paren :: brackets)
  | .leftBrace, _ => some (.brace :: brackets)
  | .rightParen, .paren :: outer => some outer
  | .rightParen, _ => none
  | .rightBrace, .brace :: outer => some outer
  | .rightBrace, _ => none
  | _, _ => some brackets

/-- The brackets that tokens leave open, the innermost first; none if they do not nest. -/
def nesting (tokens : List Token) : Option (List Bracket) := tokens.foldlM nest []

variable {t : Token} {left : List Token} {brackets opened : List Bracket} {fault : Fault}

theorem nest_of_no_fault (h : fault? t brackets = none) :
    nest brackets t = some (after t brackets) := by
  obtain ⟨kind, line, lexeme⟩ := t
  rcases brackets with - | ⟨- | -, outer⟩ <;> cases kind <;>
    simp_all [nest, fault?, after, opened?, closed?]

theorem nest_of_fault (h : fault? t brackets = some fault) : nest brackets t = none := by
  obtain ⟨kind, line, lexeme⟩ := t
  rcases brackets with - | ⟨- | -, outer⟩ <;> cases kind <;>
    simp_all [nest, fault?, closed?]

theorem nest_eq_some (h : nest brackets t = some opened) :
    fault? t brackets = none ∧ opened = after t brackets := by
  cases hf : fault? t brackets with
  | none =>
    rw [nest_of_no_fault hf] at h
    exact ⟨rfl, (Option.some.inj h).symm⟩
  | some fault =>
    rw [nest_of_fault hf] at h
    cases h

theorem foldlM_nest_cons (h : (t :: left).foldlM nest brackets = some opened) :
    fault? t brackets = none ∧ left.foldlM nest (after t brackets) = some opened := by
  rw [List.foldlM_cons] at h
  obtain ⟨middle, hm, hl⟩ := Option.bind_eq_some_iff.1 h
  obtain ⟨hf, rfl⟩ := nest_eq_some hm
  exact ⟨hf, hl⟩

/-- A token that is no bracket changes nothing. -/
theorem nest_plain (ho : opened? t = none) (hc : closed? t = none) :
    nest brackets t = some brackets := by
  rw [nest_of_no_fault (by simp [fault?, hc]), after_plain ho hc]

theorem foldlM_nest_of_nest (h : nest brackets t = some opened) :
    (t :: left).foldlM nest brackets = left.foldlM nest opened := by
  rw [List.foldlM_cons, h]
  rfl

theorem nest_append {inner : List Bracket} (outer : List Bracket) (h : nest inner t = some opened) :
    nest (inner ++ outer) t = some (opened ++ outer) := by
  obtain ⟨kind, line, lexeme⟩ := t
  rcases inner with - | ⟨- | -, inner⟩ <;> cases kind <;> cases h <;> rfl

theorem foldlM_nest_append {inner : List Bracket} (outer : List Bracket)
    (h : left.foldlM nest inner = some opened) :
    left.foldlM nest (inner ++ outer) = some (opened ++ outer) := by
  induction left generalizing inner with
  | nil =>
    cases h
    rfl
  | cons t left ih =>
    rw [List.foldlM_cons] at h ⊢
    obtain ⟨middle, hm, hl⟩ := Option.bind_eq_some_iff.1 h
    exact Option.bind_eq_some_iff.2 ⟨middle ++ outer, nest_append outer hm, ih hl⟩

theorem nesting_of_plain (h : ∀ t ∈ left, opened? t = none ∧ closed? t = none) :
    nesting left = some [] := by
  unfold nesting
  induction left with
  | nil => rfl
  | cons t left ih =>
    obtain ⟨ho, hc⟩ := h t (by simp)
    rw [foldlM_nest_of_nest (nest_plain ho hc)]
    exact ih fun u hu => h u (List.mem_cons_of_mem t hu)

theorem foldlM_nest_of_plain (h : ∀ t ∈ left, opened? t = none ∧ closed? t = none) :
    left.foldlM nest brackets = some brackets :=
  foldlM_nest_append brackets (nesting_of_plain h)

theorem nesting_append {before rest : List Token} :
    nesting (before ++ rest) = (nesting before).bind (rest.foldlM nest ·) := by
  rw [nesting, List.foldlM_append]
  rfl

theorem nesting_append_of_nesting {others : List Token} (h₁ : nesting left = some [])
    (h₂ : nesting others = some []) : nesting (left ++ others) = some [] := by
  rw [nesting_append, h₁]
  exact h₂

theorem nesting_flatMap {α : Type} {items : List α} {f : α → List Token}
    (h : ∀ a ∈ items, nesting (f a) = some []) : nesting (items.flatMap f) = some [] := by
  induction items with
  | nil => rfl
  | cons a items ih =>
    exact nesting_append_of_nesting (h a (by simp)) (ih fun b hb => h b (List.mem_cons_of_mem a hb))

/-- If every part counts one more than what is in it, the whole counts one more for each part. -/
theorem countP_flatMap_of_one_more {α : Type} {test : Token → Bool} {whole inner : α → List Token}
    (h : ∀ a, (whole a).countP test = 1 + (inner a).countP test) (parts : List α) :
    (parts.flatMap whole).countP test = parts.length + (parts.flatMap inner).countP test := by
  induction parts with
  | nil => rfl
  | cons a parts ih =>
    rw [List.flatMap_cons, List.flatMap_cons, List.countP_append, List.countP_append, ih, h,
      List.length_cons]
    omega

/-- What is taken up to a test: no token of it passes, the next one does, and the brackets nest. -/
theorem takeUntil_eq_ok {test : Token → Bool} {taken : List Token} {rest : Tape}
    (h : takeUntil test ⟨left, brackets⟩ = .ok taken rest) :
    left = taken ++ rest.left ∧ (∀ u ∈ taken, test u = false) ∧
      (∀ u ∈ rest.left.head?, test u = true) ∧
      taken.foldlM nest brackets = some rest.brackets := by
  induction left generalizing brackets taken with
  | nil =>
    cases h
    simp
  | cons t left ih =>
    cases ht : test t with
    | true =>
      rw [takeUntil_run ht] at h
      cases h
      simp [ht]
    | false =>
      cases hf : fault? t brackets with
      | some fault => simp [takeUntil, takeUntilFrom, ht, hf] at h
      | none =>
        rw [takeUntil_pass ht hf] at h
        split at h
        · rename_i taken' tape hread
          cases h
          obtain ⟨rfl, hall, hhead, hn⟩ := ih hread
          refine ⟨rfl, fun u hu => ?_, hhead, ?_⟩
          · obtain rfl | hu := List.mem_cons.1 hu
            · exact ht
            · exact hall u hu
          · rw [List.foldlM_cons, nest_of_no_fault hf]
            exact hn
        · cases h

/-- A list whose brackets nest is taken up to the first token that passes the test. -/
theorem takeUntil_nested {test : Token → Bool} {list : List Token}
    (hl : ∀ u ∈ list, test u = false) (hn : list.foldlM nest brackets = some opened)
    (ht : test t = true) :
    takeUntil test ⟨list ++ t :: left, brackets⟩ = .ok list ⟨t :: left, opened⟩ := by
  induction list generalizing brackets with
  | nil =>
    cases hn
    exact takeUntil_run ht
  | cons u list ih =>
    obtain ⟨hf, hn⟩ := foldlM_nest_cons hn
    refine takeUntilFrom_run (by simpa using hl u (by simp)) hf ?_
    exact ih (fun v hv => hl v (List.mem_cons_of_mem u hv)) hn

/-- A list without brackets is taken up to the first token that passes the test. -/
theorem takeUntil_append {test : Token → Bool} {list : List Token}
    (hl : ∀ u ∈ list, test u = false ∧ opened? u = none ∧ closed? u = none) (h : test t = true) :
    takeUntil test ⟨list ++ t :: left, brackets⟩ = .ok list ⟨t :: left, brackets⟩ :=
  takeUntil_nested (fun u hu => (hl u hu).1) (foldlM_nest_of_plain fun u hu => (hl u hu).2) h

theorem takeUntilFrom_nested {list : List Token} {close : Token} {inner : List Bracket}
    (hn : list.foldlM nest inner = some []) (hc : close.kind = .rightParen) :
    takeUntilFrom (·.depth == brackets.length) (list ++ close :: left)
      (inner ++ .paren :: brackets) = .ok (list ++ [close]) ⟨left, brackets⟩ := by
  have hopen (left : List Token) (inner : List Bracket) :
      (Tape.depth ⟨left, inner ++ .paren :: brackets⟩ == brackets.length) = false := by
    rw [Tape.depth, List.length_append, List.length_cons, beq_eq_false_iff_ne]
    omega
  induction list generalizing inner with
  | nil =>
    cases hn
    have hafter : after close (.paren :: brackets) = brackets := by
      simp [after, opened?, closed?, hc]
    refine takeUntilFrom_run (hopen _ []) (by simp [fault?, closed?, hc]) ?_
    rw [List.nil_append, hafter]
    cases left <;> simp [takeUntilFrom, Tape.depth]
  | cons t list ih =>
    rw [List.foldlM_cons] at hn
    obtain ⟨middle, hm, hl⟩ := Option.bind_eq_some_iff.1 hn
    obtain ⟨hf, hafter⟩ := nest_eq_some (nest_append (.paren :: brackets) hm)
    refine takeUntilFrom_run (hopen _ inner) hf ?_
    rw [← hafter]
    exact ih hl

/-- A list whose brackets nest is taken up to the parenthesis that closes it, which is taken too. -/
theorem takeToDepth_nested {list : List Token} {close : Token} (hn : nesting list = some [])
    (hc : close.kind = .rightParen) :
    takeToDepth brackets.length ⟨list ++ close :: left, .paren :: brackets⟩ =
      .ok (list ++ [close]) ⟨left, brackets⟩ :=
  takeUntilFrom_nested hn hc

/-- The fault says that the tokens have ended. -/
inductive Fault.IsEnd : Fault → Prop
  | unexpectedEnd : IsEnd .unexpectedEnd
  | unclosedSwitch (line : Int) : IsEnd (.unclosedSwitch line)
  | unclosedMatch (line : Int) : IsEnd (.unclosedMatch line)

/-! ## Steps -/

/-- Tokens lead from a tape to another one, and their brackets nest. -/
def Reaches (tape rest : Tape) : Prop :=
  ∃ taken, tape.left = taken ++ rest.left ∧ taken.foldlM nest tape.brackets = some rest.brackets

/-- How reading fails: at the end of the tokens, or by a token that closes wrongly. -/
inductive Fails (tape : Tape) : Fault → Tape → Prop
  | ended {fault : Fault} {brackets : List Bracket} (h : Reaches tape ⟨[], brackets⟩)
      (hf : fault.IsEnd) : Fails tape fault ⟨[], brackets⟩
  | closed {fault : Fault} {t : Token} {left : List Token} {brackets : List Bracket}
      (h : Reaches tape ⟨t :: left, brackets⟩) (hf : fault? t brackets = some fault) :
      Fails tape fault ⟨left, after t brackets⟩

variable {tape middle rest : Tape}

theorem Reaches.refl (tape : Tape) : Reaches tape tape := ⟨[], rfl, rfl⟩

theorem Reaches.trans (h₁ : Reaches tape middle) (h₂ : Reaches middle rest) :
    Reaches tape rest := by
  obtain ⟨taken₁, hl₁, hb₁⟩ := h₁
  obtain ⟨taken₂, hl₂, hb₂⟩ := h₂
  refine ⟨taken₁ ++ taken₂, by rw [hl₁, hl₂, List.append_assoc], ?_⟩
  rw [List.foldlM_append, hb₁]
  exact hb₂

theorem Reaches.one (h : fault? t brackets = none) :
    Reaches ⟨t :: left, brackets⟩ ⟨left, after t brackets⟩ :=
  ⟨[t], rfl, by simp [nest_of_no_fault h]⟩

theorem Fails.after (hf : Fails middle fault rest) (h : Reaches tape middle) :
    Fails tape fault rest := by
  cases hf with
  | ended hr he => exact .ended (h.trans hr) he
  | closed hr he => exact .closed (h.trans hr) he

/-- What a step ends with on a tape: it takes tokens that nest, or it fails as `Fails` says.
`view` is the tape in the step's state. -/
inductive Nests {σ α : Type} (view : σ → Tape) (tape : Tape) : EStateM.Result Fault σ α → Prop
  | ok {a : α} {rest : σ} (h : Reaches tape (view rest)) : Nests view tape (.ok a rest)
  | error {fault : Fault} {rest : σ} (h : Fails tape fault (view rest)) :
      Nests view tape (.error fault rest)

/-- The step ends so wherever it starts. -/
def Disciplined {σ α : Type} (view : σ → Tape) (step : EStateM Fault σ α) : Prop :=
  ∀ state, Nests view (view state) (step state)

section

variable {σ α β : Type} {view : σ → Tape}

theorem Nests.after {result : EStateM.Result Fault σ α} (h : Reaches tape middle)
    (hn : Nests view middle result) : Nests view tape result := by
  cases hn with
  | ok hr => exact .ok (h.trans hr)
  | error hf => exact .error (hf.after h)

theorem Nests.reaches {a : α} {after : σ} (h : Nests view tape (.ok a after)) :
    Reaches tape (view after) := by
  cases h
  assumption

theorem Nests.fails {after : σ} (h : Nests (α := α) view tape (.error fault after)) :
    Fails tape fault (view after) := by
  cases h
  assumption

theorem Disciplined.reaches {step : EStateM Fault σ α} {state after : σ} {a : α}
    (hs : Disciplined view step) (h : step state = .ok a after) :
    Reaches (view state) (view after) :=
  (h ▸ hs state).reaches

theorem Disciplined.fails {step : EStateM Fault σ α} {state after : σ}
    (hs : Disciplined view step) (h : step state = .error fault after) :
    Fails (view state) fault (view after) :=
  (h ▸ hs state).fails

theorem disciplined_pure (a : α) : Disciplined view (pure a) := fun _ => .ok (.refl _)

theorem Disciplined.bind {step : EStateM Fault σ α} {f : α → EStateM Fault σ β}
    (hs : Disciplined view step) (hf : ∀ a, Disciplined view (f a)) :
    Disciplined view (step >>= f) := by
  intro state
  have h := hs state
  change Nests view (view state) (EStateM.bind step f state)
  unfold EStateM.bind
  split
  · rename_i a middle hm
    rw [hm] at h
    cases h with
    | ok hr => exact (hf a middle).after hr
  · rename_i fault middle hm
    rw [hm] at h
    cases h with
    | error he => exact .error he

end

/-! ## Taking tokens -/

theorem next?_disciplined : Disciplined id next? := by
  rintro ⟨_ | ⟨t, left⟩, brackets⟩
  · exact .ok (.refl _)
  · simp only [next?]
    split
    · rename_i hf
      exact .ok (.one hf)
    · rename_i hf
      exact .error (.closed (.refl _) hf)

theorem next_disciplined : Disciplined id next := by
  rintro ⟨_ | ⟨t, left⟩, brackets⟩
  · exact .error (.ended (.refl _) .unexpectedEnd)
  · rw [next_cons]
    split
    · rename_i hf
      exact .ok (.one hf)
    · rename_i hf
      exact .error (.closed (.refl _) hf)

theorem nextIs_disciplined (p : Token → Bool) : Disciplined id (nextIs p) :=
  fun _ => .ok (.refl _)

theorem depth_disciplined : Disciplined id depth := fun _ => .ok (.refl _)

theorem takeUntilFrom_nests (stop : Tape → Bool) (left : List Token) (brackets : List Bracket) :
    Nests id ⟨left, brackets⟩ (takeUntilFrom stop left brackets) := by
  fun_induction takeUntilFrom stop left brackets with
  | case1 => exact .ok (.refl _)
  | case2 => exact .error (.ended (.refl _) .unexpectedEnd)
  | case3 => exact .ok (.refl _)
  | case4 t left brackets _ fault hf => exact .error (.closed (.refl _) hf)
  | case5 t left brackets _ hf taken tape ht ih =>
    rw [ht] at ih
    cases ih with
    | ok hr => exact .ok (.trans (.one hf) hr)
  | case6 t left brackets _ hf fault tape ht ih =>
    rw [ht] at ih
    cases ih with
    | error he => exact .error (he.after (.one hf))

theorem takeUntil_disciplined (p : Token → Bool) : Disciplined id (takeUntil p) :=
  fun _ => takeUntilFrom_nests _ _ _

theorem takeToDepth_disciplined (depth : Nat) : Disciplined id (takeToDepth depth) :=
  fun _ => takeUntilFrom_nests _ _ _

/-! ## Bodies -/

theorem isEnd_endFault (p : Progress) : p.endFault.IsEnd := by
  unfold Progress.endFault
  split
  · exact .unexpectedEnd
  · split
    · exact .unclosedSwitch _
    · exact .unclosedMatch _

/-- The name of a member is passed over without a look at its brackets: it has none. -/
theorem Reaches.identifier (h : t.isIdentifier = true) :
    Reaches ⟨t :: left, brackets⟩ ⟨left, brackets⟩ := by
  have hk : t.kind = .identifier := by simpa [Token.isIdentifier] using h
  have ha : after t brackets = brackets := by simp [after, opened?, closed?, hk]
  have hf : fault? t brackets = none := by simp [fault?, closed?, hk]
  simpa only [ha] using @Reaches.one t left brackets hf

theorem bodyFrom_nests (depth : Nat) (p : Progress) (left : List Token)
    (brackets : List Bracket) : Nests id ⟨left, brackets⟩ (bodyFrom depth p left brackets) := by
  fun_induction bodyFrom depth p left brackets with
  | case1 => exact .ok (.refl _)
  | case2 => exact .error (.ended (.refl _) (isEnd_endFault _))
  | case3 => exact .ok (.refl _)
  | case4 p t left brackets _ fault hf => exact .error (.closed (.refl _) hf)
  | case5 p t brackets _ hf _ _ ih => exact ih.after (.one hf)
  | case6 p t brackets _ hf _ _ u rest hu ih => exact ih.after (.trans (.one hf) (.identifier hu))
  | case7 p t brackets _ hf _ _ u rest _ ih => exact ih.after (.one hf)
  | case8 p t left brackets _ hf _ _ ih => exact ih.after (.one hf)

theorem body_disciplined (depth : Nat) : Disciplined id (body depth) :=
  fun _ => bodyFrom_nests _ _ _ _

/-! ## Members -/

theorem skipNullable_disciplined (t : Token) : Disciplined id (skipNullable t) := by
  unfold skipNullable
  split
  · exact next_disciplined
  · exact disciplined_pure t

theorem skipAbstract_disciplined (t : Token) : Disciplined id (skipAbstract t) := by
  unfold skipAbstract
  split
  · exact next_disciplined
  · exact disciplined_pure t

theorem skipStatement_disciplined : Disciplined id skipStatement :=
  (takeUntil_disciplined _).bind fun _ => next_disciplined.bind fun _ => disciplined_pure _

theorem returnType_disciplined (imports : Imports) : Disciplined id (returnType imports) := by
  refine (nextIs_disciplined _).bind fun isColon => ?_
  split
  · exact next_disciplined.bind fun _ => next_disciplined.bind fun _ =>
      (skipNullable_disciplined _).bind fun _ => (takeUntil_disciplined _).bind fun _ =>
        disciplined_pure _
  · exact disciplined_pure _

theorem method_disciplined (imports : Imports) (visibility : Visibility) :
    Disciplined id (method imports visibility) := by
  refine next_disciplined.bind fun _ => depth_disciplined.bind fun _ =>
    next_disciplined.bind fun _ => (takeToDepth_disciplined _).bind fun _ =>
    (returnType_disciplined imports).bind fun _ => depth_disciplined.bind fun _ =>
    next_disciplined.bind fun t => ?_
  dsimp only
  split
  · exact (disciplined_pure _).bind fun _ => disciplined_pure _
  · exact (body_disciplined _).bind fun _ => disciplined_pure _

theorem declared_disciplined (imports : Imports) (visibility : Visibility) (keyword : Keyword) :
    Disciplined id (declared imports visibility keyword) := by
  unfold declared
  split
  · exact next_disciplined.bind fun _ => (skipNullable_disciplined _).bind fun _ =>
      disciplined_pure _
  · refine next_disciplined.bind fun _ => (skipNullable_disciplined _).bind fun t => ?_
    split
    · exact method_disciplined imports visibility
    · exact disciplined_pure _
  · exact method_disciplined imports visibility
  · exact skipStatement_disciplined.bind fun _ => disciplined_pure _

theorem visible_disciplined (imports : Imports) (visibility : Visibility) :
    Disciplined id (visible imports visibility) := by
  refine next_disciplined.bind fun _ => (skipAbstract_disciplined _).bind fun _ =>
    (skipNullable_disciplined _).bind fun t => ?_
  split
  · exact disciplined_pure _
  · exact declared_disciplined imports visibility _
  · exact disciplined_pure _

theorem member_disciplined (imports : Imports) : Disciplined id (member imports) := by
  refine (takeUntil_disciplined _).bind fun _ => next_disciplined.bind fun t => ?_
  split
  · exact disciplined_pure _
  · exact next_disciplined.bind fun _ => disciplined_pure _
  · split
    · exact visible_disciplined imports _
    · exact declared_disciplined imports _ _

/-! ## Classes -/

theorem membersFrom_nests (imports : Imports) (depth : Nat) (tape : Tape) :
    Nests id tape (membersFrom imports depth tape) := by
  fun_induction membersFrom imports depth tape with
  | case1 => exact .ok (.refl _)
  | case2 tape _ fault rest hm => exact .error ((member_disciplined imports).fails hm)
  | case3 tape _ m middle hm fault rest hr ih =>
    have hstep : Reaches tape middle := (member_disciplined imports).reaches hm
    rw [hr] at ih
    exact .error (ih.fails.after hstep)
  | case4 tape _ m middle hm ms rest hr ih =>
    have hstep : Reaches tape middle := (member_disciplined imports).reaches hm
    rw [hr] at ih
    exact .ok (hstep.trans ih.reaches)

theorem parent_disciplined (imports : Imports) : Disciplined id (parent imports) := by
  refine (nextIs_disciplined _).bind fun extends_ => ?_
  split
  · exact next_disciplined.bind fun _ => next_disciplined.bind fun _ => disciplined_pure _
  · exact disciplined_pure _

theorem interfaces_disciplined : Disciplined id interfaces := by
  refine (nextIs_disciplined _).bind fun implements => ?_
  split
  · exact next_disciplined.bind fun _ => (takeUntil_disciplined _).bind fun _ =>
      disciplined_pure _
  · exact disciplined_pure _

theorem classDeclaration_disciplined (imports : Imports) (isAbstract : Bool) :
    Disciplined id (classDeclaration imports isAbstract) :=
  next_disciplined.bind fun _ => (parent_disciplined imports).bind fun _ =>
    interfaces_disciplined.bind fun _ => depth_disciplined.bind fun _ =>
    next_disciplined.bind fun _ =>
    Disciplined.bind (fun _ => membersFrom_nests _ _ _) fun _ => disciplined_pure _

/-! ## Files -/

theorem disciplined_onTape {α : Type} {step : Read α} (h : Disciplined id step) :
    Disciplined State.tape (onTape step) := by
  intro state
  unfold onTape
  split
  · rename_i a tape hs
    exact .ok (h.reaches hs)
  · rename_i fault tape hs
    exact .error (h.fails hs)

theorem modifyImports_disciplined (f : Imports → Imports) :
    Disciplined State.tape (modifyImports f) := fun _ => .ok (.refl _)

theorem useDeclaration_disciplined : Disciplined State.tape useDeclaration := by
  have hn : Disciplined State.tape (onTape next) := disciplined_onTape next_disciplined
  refine hn.bind fun _ => (disciplined_onTape (nextIs_disciplined _)).bind fun isAlias => ?_
  split
  · exact hn.bind fun _ => hn.bind fun _ => modifyImports_disciplined _
  · exact modifyImports_disciplined _

theorem declaration_disciplined (t : Token) : Disciplined State.tape (declaration t) := by
  have hn : Disciplined State.tape (onTape next) := disciplined_onTape next_disciplined
  have hc (isAbstract : Bool) : Disciplined State.tape (do
      let state ← get
      some <$> onTape (classDeclaration state.imports isAbstract)) := by
    refine Disciplined.bind (fun _ => .ok (.refl _)) fun state => ?_
    exact (disciplined_onTape (classDeclaration_disciplined state.imports isAbstract)).bind
      fun _ => disciplined_pure _
  unfold declaration
  split
  · split
    · refine (disciplined_onTape (nextIs_disciplined _)).bind fun isMember => ?_
      split
      · exact hn.bind fun _ => hn.bind fun _ => disciplined_pure _
      · exact disciplined_pure _
    · exact hn.bind fun _ => (modifyImports_disciplined _).bind fun _ => disciplined_pure _
    · exact useDeclaration_disciplined.bind fun _ => disciplined_pure _
    · exact hn.bind fun _ => hc true
    · exact hc false
    · exact hc false
    · exact disciplined_pure _
  · exact disciplined_pure _

theorem fileFrom_nests (state : State) : Nests State.tape state.tape (fileFrom state) := by
  fun_induction fileFrom state with
  | case1 state fault tape ht => exact .error (next?_disciplined.fails ht)
  | case2 state tape ht => exact .ok (next?_disciplined.reaches ht)
  | case3 state t tape ht fault rest hd =>
    have hstep : Reaches state.tape tape := next?_disciplined.reaches ht
    exact .error (((declaration_disciplined t).fails hd).after hstep)
  | case4 state t tape ht c rest hd =>
    have hstep : Reaches state.tape tape := next?_disciplined.reaches ht
    exact .ok (hstep.trans ((declaration_disciplined t).reaches hd))
  | case5 state t tape ht rest hd ih =>
    have hstep : Reaches state.tape tape := next?_disciplined.reaches ht
    exact ih.after (hstep.trans ((declaration_disciplined t).reaches hd))

theorem left_of_fileFrom {state rest : State} (h : fileFrom state = .ok none rest) :
    rest.tape.left = [] := by
  fun_induction fileFrom state with
  | case1 => cases h
  | case2 state tape ht =>
    cases h
    obtain ⟨⟨_ | ⟨t, left⟩, brackets⟩, imports⟩ := state
    · cases ht
      rfl
    · simp only [next?] at ht
      split at ht <;> cases ht
  | case3 => cases h
  | case4 => cases h
  | case5 state t tape ht rest' hd ih => exact ih h

/-! ## How a file ends -/

/-- The tokens have ended, and their brackets nest. -/
structure EndsEarly (consumed : List Token) (tape : Tape) : Prop where
  left : tape.left = []
  brackets : nesting consumed = some tape.brackets

/-- The brackets nest up to the last token, which closes a bracket although none is open, or one
that is not the innermost; the innermost is dropped all the same. -/
inductive ClosesWrongly : Fault → List Token → Tape → Prop
  | unopened {before left : List Token} {t : Token} {b : Bracket} (hc : closed? t = some b)
      (hn : nesting before = some []) :
      ClosesWrongly (.unopened t.lexeme t.line) (before ++ [t]) ⟨left, []⟩
  | mismatched {before left : List Token} {t : Token} {b top : Bracket} {outer : List Bracket}
      (hc : closed? t = some b) (hb : top ≠ b) (hn : nesting before = some (top :: outer)) :
      ClosesWrongly (.mismatched t.lexeme t.line) (before ++ [t]) ⟨left, outer⟩

theorem closesWrongly_of_fault {before : List Token} (hf : fault? t brackets = some fault)
    (hn : nesting before = some brackets) :
    ClosesWrongly fault (before ++ [t]) ⟨left, after t brackets⟩ := by
  cases hc : closed? t with
  | none => simp [fault?, hc] at hf
  | some b =>
    have ho : opened? t = none := by
      unfold closed? at hc
      unfold opened?
      split at hc <;> simp_all
    have ha : after t brackets = brackets.tail := by simp [after, ho, hc]
    rw [ha]
    cases brackets with
    | nil =>
      obtain rfl : Fault.unopened t.lexeme t.line = fault := by simpa [fault?, hc] using hf
      exact .unopened hc hn
    | cons top outer =>
      simp only [fault?, hc] at hf
      split at hf
      · cases hf
      · rename_i hb
        cases hf
        exact .mismatched hc hb hn

theorem ClosesWrongly.nesting_eq_none {consumed : List Token}
    (h : ClosesWrongly fault consumed tape) : nesting consumed = none := by
  cases h with
  | @unopened before left t b hc hn =>
    have hf : fault? t [] = some (.unopened t.lexeme t.line) := by simp [fault?, hc]
    simp [nesting_append, hn, nest_of_fault hf]
  | @mismatched before left t b top outer hc hb hn =>
    have hf : fault? t (top :: outer) = some (.mismatched t.lexeme t.line) := by
      simp [fault?, hc, hb]
    simp [nesting_append, hn, nest_of_fault hf]

/-- **Brackets nest in what has been read of a file.** A class, or none at the end of the tokens,
is read with exactly those brackets open that the tokens before leave open. Reading fails in one of
two ways: the tokens have ended, or the last one closes wrongly; if the brackets of the whole file
nest, only the former. -/
theorem file_nests (tokens : List Token) :
    match file tokens with
    | .ok class? state => ∃ consumed, tokens = consumed ++ state.tape.left ∧
        nesting consumed = some state.tape.brackets ∧ (class? = none → state.tape.left = [])
    | .error fault state => ∃ consumed, tokens = consumed ++ state.tape.left ∧
        (EndsEarly consumed state.tape ∧ fault.IsEnd ∨ ClosesWrongly fault consumed state.tape) ∧
        ¬ (EndsEarly consumed state.tape ∧ ∃ other, ClosesWrongly other consumed state.tape) ∧
        (nesting tokens ≠ none → EndsEarly consumed state.tape) := by
  have hn : Nests State.tape ⟨tokens, []⟩ (file tokens) :=
    fileFrom_nests { tape := ⟨tokens, []⟩ }
  have hone (consumed : List Token) (tape : Tape) :
      ¬ (EndsEarly consumed tape ∧ ∃ other, ClosesWrongly other consumed tape) := by
    rintro ⟨hend, other, hw⟩
    cases hend.brackets.symm.trans hw.nesting_eq_none
  split
  · rename_i class? state hfile
    rw [hfile] at hn
    obtain ⟨consumed, hl, hb⟩ := hn.reaches
    refine ⟨consumed, hl, hb, fun hc => ?_⟩
    subst hc
    exact left_of_fileFrom hfile
  · rename_i fault state hfile
    rw [hfile] at hn
    have hf := hn.fails
    obtain ⟨tape, imports⟩ := state
    cases hf with
    | @ended brackets h he =>
      obtain ⟨consumed, hl, hb⟩ := h
      have hend : EndsEarly consumed ⟨[], brackets⟩ := ⟨rfl, hb⟩
      exact ⟨consumed, hl, .inl ⟨hend, he⟩, hone _ _, fun _ => hend⟩
    | @closed t left brackets h he =>
      -- the faulty token is taken, too: it is the last one consumed
      obtain ⟨before, hl, hb⟩ := h
      have hw : ClosesWrongly fault (before ++ [t]) ⟨left, after t brackets⟩ :=
        closesWrongly_of_fault he hb
      have hl' : tokens = before ++ [t] ++ left := by simpa using hl
      refine ⟨before ++ [t], hl', .inr hw, hone _ _, fun hs => ?_⟩
      rw [hl', nesting_append, hw.nesting_eq_none] at hs
      exact absurd rfl hs

end Cyclomatic.Reading
