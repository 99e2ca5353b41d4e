import Cyclomatic.Proofs.Reading.Lookahead
import Cyclomatic.Proofs.Reading.Origins

/-!
# Places between the members of a class

A `Place` is where reading has come to in the body of a class: with which imports, what the class is so
far, and which brackets are open. `before` leads there if, whatever stands behind it, the file is read as
`Place.resume` goes on (`StandsBehind`).

Reading never looks back, and no further ahead than it takes. So whenever a class is read, its opening
brace leads to a place (`exists_place`), and every member leads from one place to the next
(`StandsBehind.member`).
-/

set_option autoImplicit false

namespace Cyclomatic.Reading

open Exchange

/-- Where reading has come to in the body of a class. -/
structure Place where
  imports : Imports
  /-- The class, with all members before the place. -/
  soFar : Class
  /-- How many brackets are open around the class. -/
  outside : Nat
  brackets : List Bracket

namespace Place

variable {p : Place} {before after rest : List Token} {opened : List Bracket} {m : Member}

/-- What reading comes to if `after` stands at the place. -/
def resume (p : Place) (after : List Token) : EStateM.Result Fault State (Option Class) :=
  match membersFrom p.imports p.outside ⟨after, p.brackets⟩ with
  | .ok ms tape => .ok (some (complete p.imports (ms.foldl Member.addTo p.soFar))) ⟨tape, p.imports⟩
  | .error fault tape => .error fault ⟨tape, p.imports⟩

/-- The body of the class is still open. -/
def Inside (p : Place) : Prop := p.brackets.length ≠ p.outside

/-- The place behind a member, after which `opened` are open. -/
def next (p : Place) (m : Member) (opened : List Bracket) : Place :=
  { p with soFar := m.addTo p.soFar, brackets := opened }

/-! ## Members -/

/-- Where the body is open, a member is read, and then the others. -/
theorem membersFrom_inside (hi : p.Inside) (after : List Token) :
    membersFrom p.imports p.outside ⟨after, p.brackets⟩ =
      match member p.imports ⟨after, p.brackets⟩ with
      | .error fault rest => .error fault rest
      | .ok m behind =>
        match membersFrom p.imports p.outside behind with
        | .error fault rest => .error fault rest
        | .ok ms rest => .ok (m :: ms) rest := by
  rw [membersFrom, if_neg (by exact hi)]
  cases member p.imports ⟨after, p.brackets⟩ with
  | error fault rest => rfl
  | ok m behind =>
    cases hms : membersFrom p.imports p.outside behind with
    | error fault rest => simp only [hms]
    | ok ms rest => simp only [hms]

theorem resume_member (hi : p.Inside)
    (hm : member p.imports ⟨after, p.brackets⟩ = .ok m ⟨rest, opened⟩) :
    p.resume after = (p.next m opened).resume rest := by
  unfold resume
  rw [membersFrom_inside hi, hm]
  dsimp only [next]
  cases membersFrom p.imports p.outside ⟨rest, opened⟩ <;> rfl

/-- A member that adds nothing leaves no trace. -/
theorem resume_of_empty (hi : p.Inside)
    (hm : member p.imports ⟨after, p.brackets⟩ = .ok {} ⟨rest, p.brackets⟩) :
    p.resume after = p.resume rest :=
  resume_member hi hm

/-- Only the member that starts at the place matters. -/
theorem resume_congr {others : List Token} (hi : p.Inside)
    (h : member p.imports ⟨after, p.brackets⟩ = member p.imports ⟨others, p.brackets⟩) :
    p.resume after = p.resume others := by
  unfold resume
  rw [membersFrom_inside hi, membersFrom_inside hi, h]

/-- A class that is read on from the place starts with a member there. -/
theorem exists_member {c : Class} {state : State} (hi : p.Inside)
    (h : p.resume after = .ok (some c) state) :
    ∃ m rest opened, member p.imports ⟨after, p.brackets⟩ = .ok m ⟨rest, opened⟩ ∧
      (p.next m opened).resume rest = .ok (some c) state := by
  cases hm : member p.imports ⟨after, p.brackets⟩ with
  | ok m behind =>
    obtain ⟨rest, opened⟩ := behind
    exact ⟨m, rest, opened, rfl, resume_member hi hm ▸ h⟩
  | error fault behind =>
    rw [resume, membersFrom_inside hi, hm] at h
    cases h

/-- What has been recorded at the place stays. -/
theorem resume_eq_class {c : Class} {state : State} (h : p.resume after = .ok (some c) state) :
    (∀ name ∈ p.soFar.dependencies, p.imports.realName name ∈ c.dependencies) ∧
      ∀ f ∈ p.soFar.methods, f ∈ c.methods := by
  unfold resume at h
  split at h
  · rename_i ms tape _
    cases h
    refine ⟨fun name hn => ?_, fun f hf => ?_⟩
    · rw [complete_eq]
      refine List.mem_map_of_mem ?_
      rw [recorded, dependencies_foldl_addTo, Class.mem_foldl_offer, Class.mem_foldl_offer]
      exact .inl (.inl hn)
    · rw [mem_methods_complete, methods_foldl_addTo]
      exact List.mem_append_left _ hf
  · cases h

/-- In place of a member that records some names more, another one is read on from alike, and just
these names are missing. -/
theorem resume_without {c : Class} {state : State} {other : Member} {more : String → Prop}
    (hm : ∀ n, n ∈ (m.addTo p.soFar).dependencies ↔
      n ∈ (other.addTo p.soFar).dependencies ∨ more n)
    (h : (p.next m opened).resume after = .ok (some c) state) :
    ∃ d, (p.next other opened).resume after = .ok (some d) state ∧ ∀ name,
      name ∈ c.dependencies ↔
        name ∈ d.dependencies ∨ ∃ n, more n ∧ p.imports.realName n = name := by
  unfold resume next at h ⊢
  dsimp only at h ⊢
  split at h
  · rename_i ms tape _
    cases h
    refine ⟨_, rfl, fun name => ?_⟩
    simp only [complete_eq, List.mem_map, recorded, dependencies_foldl_addTo, Class.mem_foldl_offer, hm]
    grind
  · cases h

/-! ## Places in a file -/

/-- Whatever stands behind `before`, the file is read on from the place. -/
def StandsBehind (p : Place) (before : List Token) : Prop :=
  ∀ after, file (before ++ after) = p.resume after

/-- **Every member leads from a place to the next.** -/
theorem StandsBehind.member (h : p.StandsBehind before) (hi : p.Inside)
    (hm : member p.imports ⟨after, p.brackets⟩ = .ok m ⟨rest, opened⟩) :
    ∃ taken, after = taken ++ rest ∧ (p.next m opened).StandsBehind (before ++ taken) := by
  obtain ⟨taken, hl, ht⟩ := member_settled p.imports _ _ _ hm
  refine ⟨taken, hl, fun others => ?_⟩
  rw [List.append_assoc, h]
  exact resume_member hi (ht others)

end Place

/-! ## The opening of a class -/

/-- Reads a class up to its opening brace, and how many brackets are open around it. -/
def header (imports : Imports) (isAbstract : Bool) : Read (Class × Nat) := do
  let name ← next
  let parent? ← parent imports
  let interfaces ← interfaces
  let outside ← depth
  let _ ← next
  pure ({ name := imports.inNamespace name.lexeme, parent?, interfaces, isAbstract }, outside)

theorem classDeclaration_eq_header (imports : Imports) (isAbstract : Bool) :
    classDeclaration imports isAbstract = (do
      let h ← header imports isAbstract
      let ms ← members imports h.2
      pure (complete imports (ms.foldl Member.addTo h.1))) := by
  simp only [classDeclaration, header, bind_assoc, pure_bind]

theorem header_settled (imports : Imports) (isAbstract : Bool) :
    Settled (header imports isAbstract) := by
  refine next_settled.bind fun _ => (parent_peeks imports).bind_settled
    (fun _ => interfaces_peeks.bind_settled ?_ ?_) fun _ => interfaces_advances.bind_takes ?_
  · exact fun _ => depth_settled.bind fun _ => next_settled.bind fun _ => settled_pure _
  all_goals
    exact fun _ => depth_advances.bind_takes fun _ => next_takes.bind fun _ => advances_pure _

variable {imports : Imports} {isAbstract : Bool} {tape : Tape} {t : Token} {state : State}

/-- Behind its header, a class is read on from the place with nothing in it. -/
theorem class_resume {d : Class} {outside : Nat} {after : List Token} {opened : List Bracket}
    (h : header imports isAbstract tape = .ok (d, outside) ⟨after, opened⟩) :
    (do
      let state ← get
      some <$> onTape (classDeclaration state.imports isAbstract) : FileRead (Option Class))
        ⟨tape, imports⟩ = Place.resume ⟨imports, d, outside, opened⟩ after := by
  change (some <$> onTape (classDeclaration imports isAbstract)) ⟨tape, imports⟩ = _
  have hd : classDeclaration imports isAbstract tape =
      (do
        let ms ← members imports outside
        pure (complete imports (ms.foldl Member.addTo d)) : Read Class) ⟨after, opened⟩ := by
    rw [classDeclaration_eq_header]
    exact bind_run h
  unfold Place.resume
  dsimp only
  cases hm : membersFrom imports outside ⟨after, opened⟩ with
  | ok ms rest =>
    have hms : members imports outside ⟨after, opened⟩ = .ok ms rest := hm
    rw [bind_run hms] at hd
    exact map_run some (onTape_run hd)
  | error fault rest =>
    have hms : members imports outside ⟨after, opened⟩ = .error fault rest := hm
    have hf : classDeclaration imports isAbstract tape = .error fault rest := by
      rw [hd]
      simp [bind, EStateM.bind, hms]
    simp [Functor.map, EStateM.map, onTape, hf]

/-- Reading does not end before the class does. -/
theorem fileFrom_resume {p : Place} {after : List Token} (ht : next? state.tape = .ok (some t) tape)
    (hd : declaration t { state with tape } = p.resume after) : fileFrom state = p.resume after := by
  rw [fileFrom_run ht, hd]
  unfold Place.resume
  cases membersFrom p.imports p.outside ⟨after, p.brackets⟩ <;> rfl

/-- The header of a class leads to the place with nothing in it, if the file is read on from there
whatever follows. -/
theorem standsBehind_header {front tokens : List Token} {d : Class} {outside : Nat}
    {opened : List Bracket} (hf : ∀ left, file (front ++ left) = fileFrom ⟨⟨left, []⟩, imports⟩)
    (hk : t.keyword? = some .class_)
    (hh : header imports false ⟨tokens, []⟩ = .ok (d, outside) ⟨[], opened⟩) :
    Place.StandsBehind ⟨imports, d, outside, opened⟩ (front ++ t :: tokens) := by
  intro after
  obtain ⟨taken, hl, ht⟩ := header_settled imports false _ _ _ hh
  obtain rfl : taken = tokens := by simpa [left] using hl.symm
  have hi := Token.isIdentifier_of_keyword? hk
  rw [List.append_assoc, hf, List.cons_append]
  refine fileFrom_resume (next?_name hi) ?_
  simp only [declaration, hi, hk, if_true]
  exact class_resume (ht after)

/-- `namespace N; class A {`. -/
def openingOfA : List Token :=
  [⟨.identifier, 1, "namespace"⟩, ⟨.identifier, 1, "N"⟩, ⟨.semicolon, 1, ";"⟩,
    ⟨.identifier, 1, "class"⟩, ⟨.identifier, 1, "A"⟩, ⟨.leftBrace, 1, "\x7b"⟩]

/-- The place behind `openingOfA`. -/
def insideA : Place := ⟨{ base := "N" }, { name := "N\\A" }, 0, [.brace]⟩

theorem insideA_inside : insideA.Inside := by
  unfold Place.Inside
  decide

theorem insideA_standsBehind : insideA.StandsBehind openingOfA := by
  have hfront (left : List Token) : file (openingOfA.take 3 ++ left) =
      fileFrom ⟨⟨left, []⟩, { base := "N" }⟩ :=
    (fileFrom_namespace (Token.reserved .namespace_) (Token.name "N")).trans
      (fileFrom_sign (Token.sign .semicolon ";").2 (by decide) (by decide))
  exact standsBehind_header hfront (Token.reserved .class_).2 rfl

/-- A file whose class is read has a place behind the first tokens that the step takes. -/
def Opens (step : FileRead (Option Class)) : Prop :=
  ∀ state c rest, step state = .ok (some c) rest → ∃ (p : Place) (taken after : List Token),
    left state = taken ++ after ∧ p.soFar.methods = [] ∧ p.soFar.dependencies = [] ∧
      ∀ others, step (put (taken ++ others) state) = p.resume others

theorem opens_class (isAbstract : Bool) : Opens (do
    let state ← get
    some <$> onTape (classDeclaration state.imports isAbstract) : FileRead (Option Class)) := by
  rintro ⟨tape, imports⟩ c rest h
  have hread : (some <$> onTape (classDeclaration imports isAbstract)) ⟨tape, imports⟩ =
      .ok (some c) rest := h
  rw [map_eq_pure_bind] at hread
  obtain ⟨d, middle, hd, -⟩ := bind_eq_ok hread
  have hd := (onTape_eq_ok hd).1
  rw [classDeclaration_eq_header] at hd
  obtain ⟨⟨declared, outside⟩, ⟨after, opened⟩, hh, -⟩ := bind_eq_ok hd
  obtain ⟨taken, hl, ht⟩ := header_settled imports isAbstract _ _ _ hh
  refine ⟨⟨imports, declared, outside, opened⟩, taken, after, hl, ?_, ?_, fun others =>
    class_resume (ht others)⟩
  all_goals
    obtain ⟨name, _, -, hh⟩ := bind_eq_ok hh
    obtain ⟨parent?, _, -, hh⟩ := bind_eq_ok hh
    obtain ⟨interfaces, _, -, hh⟩ := bind_eq_ok hh
    obtain ⟨_, _, -, hh⟩ := bind_eq_ok hh
    obtain ⟨_, _, -, hh⟩ := bind_eq_ok hh
    cases hh
    rfl

theorem Opens.after_settled {α : Type} {step : FileRead α} {f : α → FileRead (Option Class)}
    (hs : Settled step) (hf : ∀ a, Opens (f a)) : Opens (step >>= f) := by
  intro state c rest h
  obtain ⟨a, middle, h₁, h₂⟩ := bind_eq_ok h
  obtain ⟨taken₁, hl₁, ht₁⟩ := hs state a middle h₁
  obtain ⟨p, taken₂, after, hl₂, hm, hd, ht₂⟩ := hf a middle c rest h₂
  refine ⟨p, taken₁ ++ taken₂, after, by rw [hl₁, hl₂, List.append_assoc], hm, hd, fun others => ?_⟩
  rw [List.append_assoc, bind_run (ht₁ _)]
  exact ht₂ others

theorem Classless.opens {step : FileRead (Option Class)} (h : Classless step) : Opens step :=
  fun state c rest hs => absurd hs (h state c rest)

theorem declaration_opens (t : Token) : Opens (declaration t) := by
  unfold declaration
  split
  · split
    · refine Classless.opens (.after fun isMember => ?_)
      split
      · exact .after fun _ => .after fun _ => classless_none
      · exact classless_none
    · exact Classless.opens (.after fun _ => .after fun _ => classless_none)
    · exact Classless.opens (.after fun _ => classless_none)
    · exact .after_settled next_settled.onTape fun _ => opens_class true
    · exact opens_class false
    · exact opens_class false
    · exact classless_none.opens
  · exact classless_none.opens

theorem fileFrom_opens {rest : State} {c : Class} (h : fileFrom state = .ok (some c) rest) :
    ∃ (p : Place) (t : Token) (taken after : List Token), left state = t :: taken ++ after ∧
      p.soFar.methods = [] ∧ p.soFar.dependencies = [] ∧
        ∀ others, fileFrom (put (t :: taken ++ others) state) = p.resume others := by
  fun_induction fileFrom state with
  | case1 => cases h
  | case2 => cases h
  | case3 => cases h
  | case4 state t tape ht c' rest' hd =>
    cases h
    obtain ⟨hl, hn⟩ := next?_eq_ok ht
    obtain ⟨p, taken, after, hl', hm, hdep, ht'⟩ := declaration_opens t _ _ _ hd
    refine ⟨p, t, taken, after, ?_, hm, hdep, fun others => fileFrom_resume (hn _) (ht' others)⟩
    rw [show left state = t :: tape.left from hl]
    exact congrArg (t :: ·) hl'
  | case5 state t tape ht rest' hd ih =>
    obtain ⟨hl, hn⟩ := next?_eq_ok ht
    obtain ⟨taken₁, hl₁, ht₁⟩ := declaration_peeks t _ _ _ hd
    obtain ⟨p, u, taken₂, after, hl₂, hm, hdep, ht₂⟩ := ih h
    refine ⟨p, t, taken₁ ++ u :: taken₂, after, ?_, hm, hdep, fun others => ?_⟩
    · calc left state = t :: left (State.mk tape state.imports) := hl
        _ = t :: (taken₁ ++ left rest') := by rw [hl₁]
        _ = t :: (taken₁ ++ u :: taken₂) ++ after := by simp [hl₂]
    · -- what the declaration peeked at is the token after it, which is taken
      have hhead : (u :: taken₂ ++ others).head? = (left rest').head? := by
        rw [hl₂]
        rfl
      rw [List.cons_append, List.append_assoc, ← ht₂ others]
      apply fileFrom_pass
      · exact hn _
      · exact ht₁ _ hhead

/-- **Every class that is read opens at a place.** -/
theorem exists_place {tokens : List Token} {c : Class} (h : file tokens = .ok (some c) state) :
    ∃ (p : Place) (before after : List Token), tokens = before ++ after ∧ p.StandsBehind before ∧
      p.soFar.methods = [] ∧ p.soFar.dependencies = [] := by
  obtain ⟨p, t, taken, after, hl, hm, hd, ht⟩ := fileFrom_opens h
  exact ⟨p, t :: taken, after, hl, ht, hm, hd⟩

end Cyclomatic.Reading
