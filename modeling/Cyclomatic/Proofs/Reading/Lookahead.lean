import Cyclomatic.Proofs.Reading.Completion

/-!
# How far reading looks ahead

No reading step looks further than one token behind those that it takes (`Peeks`), and a step that
ends by taking a token looks no further than that (`Settled`). A step that peeks and then goes on
has taken what it peeked at (`Peeks.bind_settled`); so all that was peeked at on the way to the
closing brace of a class has been taken, and what follows the class does not matter
(`file_of_consumed`).
-/

set_option autoImplicit false

namespace Cyclomatic.Reading

/-! ## Steps -/

/-- States of reading in which other tokens can be put for those left. -/
class Exchange (σ : Type) where
  left : σ → List Token
  put : List Token → σ → σ

open Exchange

instance : Exchange Tape := ⟨Tape.left, fun left tape => { tape with left }⟩

instance : Exchange State :=
  ⟨fun state => state.tape.left, fun left state => { state with tape := put left state.tape }⟩

section

variable {σ α β : Type} [Exchange σ]

/-- The step takes some tokens and looks at none behind them. -/
def Settled (step : EStateM Fault σ α) : Prop :=
  ∀ state a rest, step state = .ok a rest → ∃ taken, left state = taken ++ left rest ∧
    ∀ others, step (put (taken ++ others) state) = .ok a (put others rest)

/-- The step takes some tokens and looks at one behind them, at most. -/
def Peeks (step : EStateM Fault σ α) : Prop :=
  ∀ state a rest, step state = .ok a rest → ∃ taken, left state = taken ++ left rest ∧
    ∀ others, others.head? = (left rest).head? →
      step (put (taken ++ others) state) = .ok a (put others rest)

variable {step : EStateM Fault σ α} {f : α → EStateM Fault σ β}

theorem Settled.peeks (h : Settled step) : Peeks step := by
  intro state a rest he
  obtain ⟨taken, hl, ht⟩ := h state a rest he
  exact ⟨taken, hl, fun others _ => ht others⟩

theorem settled_pure (a : α) : Settled (pure a : EStateM Fault σ α) := by
  intro state b rest h
  cases h
  exact ⟨[], rfl, fun others => rfl⟩

theorem Settled.bind (hs : Settled step) (hf : ∀ a, Settled (f a)) : Settled (step >>= f) := by
  intro state b rest h
  obtain ⟨a, middle, h₁, h₂⟩ := bind_eq_ok h
  obtain ⟨taken₁, hl₁, ht₁⟩ := hs state a middle h₁
  obtain ⟨taken₂, hl₂, ht₂⟩ := hf a middle b rest h₂
  refine ⟨taken₁ ++ taken₂, by rw [hl₁, hl₂, List.append_assoc], fun others => ?_⟩
  rw [List.append_assoc, bind_run (ht₁ (taken₂ ++ others))]
  exact ht₂ others

theorem Peeks.bind (hs : Peeks step) (hf : ∀ a, Peeks (f a)) : Peeks (step >>= f) := by
  intro state b rest h
  obtain ⟨a, middle, h₁, h₂⟩ := bind_eq_ok h
  obtain ⟨taken₁, hl₁, ht₁⟩ := hs state a middle h₁
  obtain ⟨taken₂, hl₂, ht₂⟩ := hf a middle b rest h₂
  refine ⟨taken₁ ++ taken₂, by rw [hl₁, hl₂, List.append_assoc], fun others ho => ?_⟩
  have hhead : (taken₂ ++ others).head? = (left middle).head? := by
    rw [hl₂, List.head?_append, List.head?_append, ho]
  rw [List.append_assoc, bind_run (ht₁ _ hhead)]
  exact ht₂ others ho

end

/-- What a step peeks at is taken by the one that goes on behind it. -/
theorem Peeks.bind_settled {α β : Type} {step : Read α} {f : α → Read β} (hs : Peeks step)
    (hf : ∀ a, Settled (f a)) (ht : ∀ a, Takes (f a)) : Settled (step >>= f) := by
  intro tape b rest h
  obtain ⟨a, middle, h₁, h₂⟩ := bind_eq_ok h
  obtain ⟨taken₁, hl₁, ht₁⟩ := hs tape a middle h₁
  obtain ⟨taken₂, hl₂, ht₂⟩ := hf a middle b rest h₂
  have hlt : rest.left.length < middle.left.length := ht a middle b rest h₂
  have hne : taken₂ ≠ [] := by
    rintro rfl
    rw [show middle.left = rest.left from hl₂] at hlt
    omega
  refine ⟨taken₁ ++ taken₂, by rw [hl₁, hl₂, List.append_assoc], fun others => ?_⟩
  have hhead : (taken₂ ++ others).head? = (left middle).head? := by
    obtain ⟨t, taken, rfl⟩ := List.exists_cons_of_ne_nil hne
    rw [hl₂]
    rfl
  rw [List.append_assoc, bind_run (ht₁ _ hhead)]
  exact ht₂ others

/-! ## Taking tokens -/

theorem next_settled : Settled next := by
  rintro ⟨left, brackets⟩ t ⟨rest, opened⟩ h
  obtain ⟨rfl, hf, rfl⟩ := next_eq_ok h
  exact ⟨[t], rfl, fun others => next_run hf⟩

theorem depth_settled : Settled depth := by
  intro tape n rest h
  cases h
  exact ⟨[], rfl, fun others => rfl⟩

theorem nextIs_peeks (p : Token → Bool) : Peeks (nextIs p) := by
  intro tape b rest h
  cases h
  refine ⟨[], rfl, fun others ho => ?_⟩
  change EStateM.Result.ok (others.head?.any p) _ = _
  rw [ho]
  rfl

/-- Tokens are taken up to the same place if the test comes out the same where they end. -/
theorem takeUntilFrom_exchange {stop : Tape → Bool}
    (hstop : ∀ left others brackets, left.head? = others.head? →
      stop ⟨left, brackets⟩ = stop ⟨others, brackets⟩)
    {left taken others : List Token} {brackets : List Bracket} {rest : Tape}
    (h : takeUntilFrom stop left brackets = .ok taken rest)
    (hend : stop ⟨others, rest.brackets⟩ = stop rest) :
    left = taken ++ rest.left ∧
      takeUntilFrom stop (taken ++ others) brackets = .ok taken ⟨others, rest.brackets⟩ := by
  fun_induction takeUntilFrom stop left brackets generalizing taken rest with
  | case1 brackets hs =>
    cases h
    have ho : stop ⟨others, brackets⟩ = true := hend.trans hs
    exact ⟨rfl, by cases others <;> simp [takeUntilFrom, ho]⟩
  | case2 => cases h
  | case3 t left brackets hs =>
    cases h
    have ho : stop ⟨others, brackets⟩ = true := hend.trans hs
    exact ⟨rfl, by cases others <;> simp [takeUntilFrom, ho]⟩
  | case4 => cases h
  | case5 t left brackets hs hf taken' tape ht ih =>
    cases h
    obtain ⟨hl, hr⟩ := ih ht hend
    have hs' : stop ⟨t :: (taken' ++ others), brackets⟩ = false :=
      (hstop (t :: (taken' ++ others)) (t :: left) brackets rfl).trans (by simpa using hs)
    exact ⟨by rw [hl, List.cons_append], takeUntilFrom_run hs' hf hr⟩
  | case6 => cases h

theorem takeUntil_peeks (p : Token → Bool) : Peeks (takeUntil p) := by
  intro tape taken rest h
  have hstop (l l' : List Token) (b : List Bracket) (hh : l.head? = l'.head?) :
      (Tape.mk l b).left.head?.all p = (Tape.mk l' b).left.head?.all p := by
    dsimp only
    rw [hh]
  refine ⟨taken, (takeUntilFrom_exchange hstop h rfl).1, fun others ho => ?_⟩
  exact (takeUntilFrom_exchange hstop h (hstop others rest.left rest.brackets ho)).2

theorem takeToDepth_settled (depth : Nat) : Settled (takeToDepth depth) := by
  intro tape taken rest h
  have hstop (l l' : List Token) (b : List Bracket) (_ : l.head? = l'.head?) :
      ((Tape.mk l b).depth == depth) = ((Tape.mk l' b).depth == depth) := rfl
  refine ⟨taken, (takeUntilFrom_exchange hstop h rfl).1, fun others => ?_⟩
  exact (@takeUntilFrom_exchange _ hstop _ _ others _ _ h rfl).2

/-! ## Bodies -/

section

variable {depth : Nat} {p : Progress} {left : List Token} {brackets : List Bracket}
  {statements : List Statement} {rest : Tape}

/-- A body that is not at its end yet takes a token. -/
theorem bodyFrom_takes (he : (p.choices.isEmpty && brackets.length == depth) = false)
    (h : bodyFrom depth p left brackets = .ok statements rest) :
    rest.left.length < left.length := by
  cases left with
  | nil => simp [bodyFrom, he] at h
  | cons t left =>
    have hlt {p : Progress} {behind : List Token} {brackets : List Bracket}
        (h : bodyFrom depth p behind brackets = .ok statements rest)
        (hb : behind.length ≤ left.length) : rest.left.length < (t :: left).length := by
      have hle := bodyFrom_length h
      rw [List.length_cons]
      omega
    rw [bodyFrom, he, if_neg (by simp)] at h
    split at h
    · cases h
    · dsimp only at h
      split at h
      · split at h
        · exact hlt h (Nat.le_refl _)
        · split at h
          · exact hlt h (Nat.le_succ _)
          · exact hlt h (Nat.le_refl _)
      · exact hlt h (Nat.le_refl _)

/-- A selection of a member leaves the brackets as they are, so the body goes on behind it: the
token that is looked at there is taken. -/
theorem goes_on_of_skipsMember {t : Token} (h : p.skipsMember t = true)
    (he : ¬ (p.choices.isEmpty && brackets.length == depth) = true) :
    (p.choices.isEmpty && (after t brackets).length == depth) = false := by
  have hk : t.kind = .thinArrow ∨ t.kind = .colonColon := by
    simp only [Progress.skipsMember, Bool.and_eq_true] at h
    simpa [Token.isMemberAccess] using h.1
  have hafter : after t brackets = brackets := by
    rcases hk with hk | hk <;> simp [after, opened?, closed?, hk]
  rw [hafter]
  exact Bool.eq_false_iff.2 he

theorem bodyFrom_settled (h : bodyFrom depth p left brackets = .ok statements rest) :
    ∃ taken, left = taken ++ rest.left ∧ ∀ others,
      bodyFrom depth p (taken ++ others) brackets = .ok statements ⟨others, rest.brackets⟩ := by
  fun_induction bodyFrom depth p left brackets with
  | case1 p brackets he =>
    cases h
    exact ⟨[], rfl, fun others => by cases others <;> simp [bodyFrom, he]⟩
  | case2 => cases h
  | case3 p t left brackets he =>
    cases h
    exact ⟨[], rfl, fun others => by cases others <;> simp [bodyFrom, he]⟩
  | case4 => cases h
  | case5 p t brackets he hf _ hskip ih =>
    have hlt := bodyFrom_takes (goes_on_of_skipsMember hskip he) h
    simp at hlt
  | case6 p t brackets he hf _ hskip u left hu ih =>
    obtain ⟨taken, hl, ht⟩ := ih h
    refine ⟨t :: u :: taken, by rw [hl]; rfl, fun others => ?_⟩
    rw [List.cons_append, bodyFrom]
    simp only [he, hf, hskip, List.cons_append, hu, if_true]
    exact ht others
  | case7 p t brackets he hf _ hskip u left hu ih =>
    have hlt := bodyFrom_takes (goes_on_of_skipsMember hskip he) h
    obtain ⟨taken, hl, ht⟩ := ih h
    obtain - | ⟨v, taken⟩ := taken
    · rw [hl] at hlt
      simp at hlt
    · obtain ⟨rfl, hl⟩ := List.cons.inj hl
      refine ⟨t :: u :: taken, by rw [hl]; rfl, fun others => ?_⟩
      rw [List.cons_append, bodyFrom]
      simp only [he, hf, hskip, List.cons_append, hu, if_true]
      exact ht others
  | case8 p t left brackets he hf _ hskip ih =>
    obtain ⟨taken, hl, ht⟩ := ih h
    refine ⟨t :: taken, by rw [hl]; rfl, fun others => ?_⟩
    rw [List.cons_append, bodyFrom]
    simp only [he, hf, hskip]
    exact ht others

theorem body_settled (outside : Nat) : Settled (body outside) := fun _ _ _ h => bodyFrom_settled h

end

/-! ## Members -/

theorem skipNullable_settled (t : Token) : Settled (skipNullable t) := by
  unfold skipNullable
  split
  · exact next_settled
  · exact settled_pure t

theorem skipAbstract_settled (t : Token) : Settled (skipAbstract t) := by
  unfold skipAbstract
  split
  · exact next_settled
  · exact settled_pure t

theorem skipStatement_settled : Settled skipStatement :=
  (takeUntil_peeks _).bind_settled (fun _ => next_settled.bind fun _ => settled_pure _)
    fun _ => next_takes.bind fun _ => advances_pure _

/-- A return type ends before the body; that a body follows is looked at, but not taken. -/
theorem returnType_peeks (imports : Imports) : Peeks (returnType imports) := by
  refine (nextIs_peeks _).bind fun isColon => ?_
  split
  · exact next_settled.peeks.bind fun _ => next_settled.peeks.bind fun _ =>
      (skipNullable_settled _).peeks.bind fun _ => (takeUntil_peeks _).bind fun _ =>
        (settled_pure _).peeks
  · exact (settled_pure _).peeks

theorem method_settled (imports : Imports) (visibility : Visibility) :
    Settled (method imports visibility) := by
  refine next_settled.bind fun _ => depth_settled.bind fun _ => next_settled.bind fun _ =>
    (takeToDepth_settled _).bind fun _ => (returnType_peeks imports).bind_settled ?_ ?_
  · intro returnType?
    refine depth_settled.bind fun _ => next_settled.bind fun t => ?_
    dsimp only
    split
    · exact (settled_pure _).bind fun _ => settled_pure _
    · exact (body_settled _).bind fun _ => settled_pure _
  · intro returnType?
    refine depth_advances.bind_takes fun _ => next_takes.bind fun t => ?_
    dsimp only
    split
    · exact (advances_pure _).bind fun _ => advances_pure _
    · exact (body_advances _).bind fun _ => advances_pure _

theorem declared_settled (imports : Imports) (visibility : Visibility) (keyword : Keyword) :
    Settled (declared imports visibility keyword) := by
  unfold declared
  split
  · exact next_settled.bind fun _ => (skipNullable_settled _).bind fun _ => settled_pure _
  · refine next_settled.bind fun _ => (skipNullable_settled _).bind fun t => ?_
    split
    · exact method_settled imports visibility
    · exact settled_pure _
  · exact method_settled imports visibility
  · exact skipStatement_settled.bind fun _ => settled_pure _

theorem visible_settled (imports : Imports) (visibility : Visibility) :
    Settled (visible imports visibility) := by
  refine next_settled.bind fun _ => (skipAbstract_settled _).bind fun _ =>
    (skipNullable_settled _).bind fun t => ?_
  split
  · exact settled_pure _
  · exact declared_settled imports visibility _
  · exact settled_pure _

theorem member_settled (imports : Imports) : Settled (member imports) := by
  refine (takeUntil_peeks _).bind_settled (fun _ => next_settled.bind fun t => ?_)
    fun _ => next_takes.bind fun t => ?_
  · split
    · exact settled_pure _
    · exact next_settled.bind fun _ => settled_pure _
    · split
      · exact visible_settled imports _
      · exact declared_settled imports _ _
  · split
    · exact advances_pure _
    · exact next_takes.advances.bind fun _ => advances_pure _
    · split
      · exact visible_advances imports _
      · exact declared_advances imports _ _

/-! ## Classes -/

theorem members_settled (imports : Imports) (depth : Nat) : Settled (members imports depth) := by
  intro tape ms rest h
  unfold members at h ⊢
  fun_induction membersFrom imports depth tape generalizing ms rest with
  | case1 tape hd =>
    cases h
    refine ⟨[], rfl, fun others => ?_⟩
    rw [membersFrom, if_pos (by exact hd)]
    rfl
  | case2 => cases h
  | case3 => cases h
  | case4 tape hd m middle hm ms' rest' hr ih =>
    cases h
    obtain ⟨taken₁, hl₁, ht₁⟩ := member_settled imports tape m middle hm
    obtain ⟨taken₂, hl₂, ht₂⟩ := ih ms' rest' hr
    refine ⟨taken₁ ++ taken₂, by rw [hl₁, hl₂, List.append_assoc], fun others => ?_⟩
    rw [List.append_assoc]
    exact membersFrom_cons (by exact hd) (ht₁ _) (ht₂ others)

theorem parent_peeks (imports : Imports) : Peeks (parent imports) := by
  refine (nextIs_peeks _).bind fun extends_ => ?_
  split
  · exact (next_settled.bind fun _ => next_settled.bind fun _ => settled_pure _).peeks
  · exact (settled_pure _).peeks

theorem interfaces_peeks : Peeks interfaces := by
  refine (nextIs_peeks _).bind fun implements => ?_
  split
  · exact next_settled.peeks.bind fun _ => (takeUntil_peeks _).bind fun _ => (settled_pure _).peeks
  · exact (settled_pure _).peeks

theorem classDeclaration_settled (imports : Imports) (isAbstract : Bool) :
    Settled (classDeclaration imports isAbstract) := by
  refine next_settled.bind fun _ => (parent_peeks imports).bind_settled
    (fun _ => interfaces_peeks.bind_settled ?_ ?_) fun _ => interfaces_advances.bind_takes ?_
  · exact fun _ => depth_settled.bind fun _ => next_settled.bind fun _ =>
      (members_settled imports _).bind fun _ => settled_pure _
  all_goals
    exact fun _ => depth_advances.bind_takes fun _ => next_takes.bind fun _ =>
      Advances.bind (fun _ _ _ h => membersFrom_length h) fun _ => advances_pure _

/-! ## Files -/

section

variable {α : Type} {step : Read α}

theorem onTape_put {taken others : List Token} {state rest : State} {a : α}
    (hr : rest.imports = state.imports)
    (h : step (put (taken ++ others) state.tape) = .ok a (put others rest.tape)) :
    onTape step (put (taken ++ others) state) = .ok a (put others rest) := by
  have hrun := @onTape_run _ (put (taken ++ others) state) _ step a h
  obtain ⟨tape, imports⟩ := rest
  obtain rfl : imports = state.imports := hr
  exact hrun

theorem Settled.onTape (h : Settled step) : Settled (onTape step) := by
  intro state a rest he
  obtain ⟨hs, hr⟩ := onTape_eq_ok he
  obtain ⟨taken, hl, ht⟩ := h _ _ _ hs
  exact ⟨taken, hl, fun others => onTape_put hr (ht others)⟩

theorem Peeks.onTape (h : Peeks step) : Peeks (onTape step) := by
  intro state a rest he
  obtain ⟨hs, hr⟩ := onTape_eq_ok he
  obtain ⟨taken, hl, ht⟩ := h _ _ _ hs
  exact ⟨taken, hl, fun others ho => onTape_put hr (ht others ho)⟩

end

theorem modifyImports_settled (f : Imports → Imports) : Settled (modifyImports f) := by
  intro state a rest h
  cases h
  exact ⟨[], rfl, fun others => rfl⟩

theorem useDeclaration_peeks : Peeks useDeclaration := by
  have hn : Peeks (onTape next) := next_settled.onTape.peeks
  refine hn.bind fun _ => (nextIs_peeks _).onTape.bind fun isAlias => ?_
  split
  · exact hn.bind fun _ => hn.bind fun _ => (modifyImports_settled _).peeks
  · exact (modifyImports_settled _).peeks

theorem class_settled (isAbstract : Bool) : Settled (do
    let state ← get
    some <$> onTape (classDeclaration state.imports isAbstract) : FileRead (Option Class)) := by
  intro state c rest h
  have hs : Settled (some <$> onTape (classDeclaration state.imports isAbstract)) := by
    rw [map_eq_pure_bind]
    exact (classDeclaration_settled _ _).onTape.bind fun _ => settled_pure _
  exact hs state c rest h

theorem declaration_peeks (t : Token) : Peeks (declaration t) := by
  have hn : Peeks (onTape next) := next_settled.onTape.peeks
  have hp : Peeks (pure none : FileRead (Option Class)) := (settled_pure _).peeks
  unfold declaration
  split
  · split
    · refine (nextIs_peeks _).onTape.bind fun isMember => ?_
      split
      · exact hn.bind fun _ => hn.bind fun _ => hp
      · exact hp
    · exact hn.bind fun _ => (modifyImports_settled _).peeks.bind fun _ => hp
    · exact useDeclaration_peeks.bind fun _ => hp
    · exact hn.bind fun _ => (class_settled true).peeks
    · exact (class_settled false).peeks
    · exact (class_settled false).peeks
    · exact hp
  · exact hp

/-- The step does not come to a class. -/
def Classless (step : FileRead (Option Class)) : Prop :=
  ∀ state c rest, step state ≠ .ok (some c) rest

theorem classless_none : Classless (pure none) := by
  intro state c rest h
  cases h

theorem Classless.after {α : Type} {step : FileRead α} {f : α → FileRead (Option Class)}
    (hf : ∀ a, Classless (f a)) : Classless (step >>= f) := by
  intro state c rest h
  obtain ⟨a, middle, -, h⟩ := bind_eq_ok h
  exact hf a middle c rest h

/-- A token either starts a class, which looks at nothing behind itself, or comes to none. -/
theorem declaration_settled (t : Token) : Settled (declaration t) ∨ Classless (declaration t) := by
  unfold declaration
  split
  · split
    · refine .inr (.after fun isMember => ?_)
      split
      · exact .after fun _ => .after fun _ => classless_none
      · exact classless_none
    · exact .inr (.after fun _ => .after fun _ => classless_none)
    · exact .inr (.after fun _ => classless_none)
    · exact .inl (next_settled.onTape.bind fun _ => class_settled true)
    · exact .inl (class_settled false)
    · exact .inl (class_settled false)
    · exact .inr classless_none
  · exact .inr classless_none

theorem next?_eq_ok {tape rest : Tape} {t : Token} (h : next? tape = .ok (some t) rest) :
    tape.left = t :: rest.left ∧
      ∀ others, next? (put (t :: others) tape) = .ok (some t) (put others rest) := by
  obtain ⟨_ | ⟨u, left⟩, brackets⟩ := tape
  · cases h
  · simp only [next?] at h
    split at h
    · rename_i hf
      cases h
      exact ⟨rfl, fun others => next?_run hf⟩
    · cases h

/-- The tokens up to the end of the class are read alike before any others. -/
theorem fileFrom_settled {state rest : State} {c : Class}
    (h : fileFrom state = .ok (some c) rest) :
    ∃ t taken, left state = t :: taken ++ left rest ∧ ∀ others,
      fileFrom (put (t :: taken ++ others) state) = .ok (some c) (put others rest) := by
  fun_induction fileFrom state with
  | case1 => cases h
  | case2 => cases h
  | case3 => cases h
  | case4 state t tape ht c' rest' hd =>
    cases h
    obtain ⟨hl, hn⟩ := next?_eq_ok ht
    obtain hs | hc := declaration_settled t
    · obtain ⟨taken, hl', ht'⟩ := hs _ _ _ hd
      refine ⟨t, taken, ?_, fun others => ?_⟩
      · rw [show left state = t :: tape.left from hl]
        exact congrArg (t :: ·) hl'
      · exact fileFrom_class (hn _) (ht' others)
    · exact absurd hd (hc _ _ _)
  | case5 state t tape ht rest' hd ih =>
    obtain ⟨hl, hn⟩ := next?_eq_ok ht
    obtain ⟨taken₁, hl₁, ht₁⟩ := declaration_peeks t _ _ _ hd
    obtain ⟨u, taken₂, hl₂, ht₂⟩ := ih h
    refine ⟨t, taken₁ ++ u :: taken₂, ?_, fun others => ?_⟩
    · calc left state = t :: left (State.mk tape state.imports) := hl
        _ = t :: (taken₁ ++ left rest') := by rw [hl₁]
        _ = t :: (taken₁ ++ u :: taken₂) ++ left rest := by simp [hl₂]
    · -- what the declaration peeked at is the token after it, which is taken
      have hhead : (u :: taken₂ ++ others).head? = (left rest').head? := by
        rw [hl₂]
        rfl
      rw [List.cons_append, List.append_assoc, ← ht₂ others]
      apply fileFrom_pass
      · exact hn _
      · exact ht₁ _ hhead

/-- **What follows the class does not matter.** If reading a file comes to a class, then whatever
stands behind the tokens taken is left, and the class, the imports and the open brackets are the
same. -/
theorem file_of_consumed {tokens : List Token} {c : Class} {state : State}
    (h : file tokens = .ok (some c) state) :
    ∃ consumed, tokens = consumed ++ state.tape.left ∧ ∀ rest,
      file (consumed ++ rest) =
        .ok (some c) { state with tape := { state.tape with left := rest } } := by
  obtain ⟨t, taken, hl, ht⟩ := fileFrom_settled h
  exact ⟨t :: taken, hl, ht⟩

/-- `class A { function f(): T { -> } }` and a parenthesis that closes nothing. -/
def classAndParen : List Token :=
  [⟨.identifier, 1, "class"⟩, ⟨.identifier, 1, "A"⟩, ⟨.leftBrace, 1, "\x7b"⟩,
    ⟨.identifier, 1, "function"⟩, ⟨.identifier, 1, "f"⟩, ⟨.leftParen, 1, "("⟩,
    ⟨.rightParen, 1, ")"⟩, ⟨.colon, 1, ":"⟩, ⟨.identifier, 1, "T"⟩, ⟨.leftBrace, 1, "\x7b"⟩,
    ⟨.thinArrow, 1, "->"⟩, ⟨.rightBrace, 1, "\x7d"⟩, ⟨.rightBrace, 1, "\x7d"⟩,
    ⟨.rightParen, 1, ")"⟩]

theorem file_of_consumed_of_classAndParen :
    ∃ c state, file classAndParen = .ok (some c) state ∧ c.name = "\\A" ∧
      state.tape.left = [⟨.rightParen, 1, ")"⟩] ∧
      ∃ consumed, classAndParen = consumed ++ state.tape.left ∧ ∀ rest,
        file (consumed ++ rest) =
          .ok (some c) { state with tape := { state.tape with left := rest } } := by
  have h : (classRead? (file classAndParen)).map (fun read => (read.1.name, read.2.tape.left)) =
      some ("\\A", [⟨.rightParen, 1, ")"⟩]) := by decide +kernel
  obtain ⟨⟨c, state⟩, hr, hc⟩ := Option.map_eq_some_iff.1 h
  obtain ⟨hn, hl⟩ := Prod.mk.inj hc
  have hread := eq_of_classRead? hr
  exact ⟨c, state, hread, hn, hl, file_of_consumed hread⟩

end Cyclomatic.Reading
