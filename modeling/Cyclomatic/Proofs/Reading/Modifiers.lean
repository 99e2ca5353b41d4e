import Cyclomatic.Proofs.Reading.Mentions
import Cyclomatic.Proofs.Reading.Place
import Cyclomatic.Proofs.Reading.Tally

/-!
# The order of modifiers

A member starts with modifiers: a visibility, `static`, `abstract` or `readonly`. What stands behind
`static` or `readonly` is taken for the type of a property, or for the word `function`. If it is another
modifier, the member ends there and the next one starts behind it: only the modifiers that are left
count for it (`remembered`).

A method has the visibility that the remembered modifiers declare, and the type of a property is
recorded if all its modifiers are remembered; else the property leaves no trace (`file_of_modifiers`).
-/

set_option autoImplicit false

namespace Cyclomatic.Reading

open Token

/-! ## Modifiers -/

inductive Modifier where
  | visibility (word : VisibilityWord)
  | static (word : Reserved .static_)
  | abstract (word : Reserved .abstract_)
  | readonly (word : Reserved .readonly_)

namespace Modifier

/-- What a member says at most once. -/
inductive Slot where
  | visibility | static | abstract | readonly
  deriving DecidableEq

/-- What a modifier says. -/
def slot : Modifier → Slot
  | visibility _ => .visibility
  | static _ => .static
  | abstract _ => .abstract
  | readonly _ => .readonly

/-- The word of a modifier. -/
def token : Modifier → Token
  | visibility word => word.1
  | static word => word.1
  | abstract word => word.1
  | readonly word => word.1

def visibility? : Modifier → Option Visibility
  | visibility word => some word.visibility
  | _ => none

/-- Whether the token behind the modifier is read as a type, or as the word `function`. -/
def takesNext (m : Modifier) : Bool := m.slot = .static || m.slot = .readonly

end Modifier

open Modifier

/-- The visibility that modifiers declare. -/
def declaredVisibility (ms : List Modifier) : Visibility := (ms.findSome? visibility?).getD .public_

/-- The modifiers that count for the member behind them. -/
def remembered (ms : List Modifier) : List Modifier :=
  match ms.dropWhile (!·.takesNext) with
  | _ :: _ :: behind => behind
  | _ => ms

def KeepsVisibility (ms : List Modifier) : Prop :=
  declaredVisibility (remembered ms) = declaredVisibility ms

/-- The modifiers that a method can have. -/
structure OfMethod (ms : List Modifier) : Prop where
  once : (ms.map slot).Nodup
  plain : ∀ m ∈ ms, m.slot ≠ .readonly

/-- The modifiers that a property can have. -/
structure OfProperty (ms : List Modifier) : Prop where
  once : (ms.map slot).Nodup
  plain : ∀ m ∈ ms, m.slot ≠ .abstract
  apart : .static ∈ ms.map slot → .readonly ∉ ms.map slot
  nonempty : ms ≠ []

variable {ms others : List Modifier} {imports : Imports} {t : Token} {left rest : List Token}
  {brackets opened : List Bracket} {v : Visibility} {k : Keyword}

theorem slot_eq_of_visibility? {m : Modifier} (h : m.visibility? = some v) : m.slot = .visibility := by
  cases m <;> first | rfl | cases h

theorem eq_visibility {m : Modifier} (h : m.slot = .visibility) : ∃ word, m = .visibility word := by
  cases m with
  | visibility word => exact ⟨word, rfl⟩
  | _ => cases h

theorem Modifier.keyword? (m : Modifier) : ∃ k, m.token.keyword? = some k ∧ k ≠ .function_ := by
  cases m with
  | visibility word =>
    obtain ⟨k, hk, hv⟩ := word.keyword?
    exact ⟨k, hk, by rintro rfl; cases hv⟩
  | static word => exact ⟨_, word.2, by decide⟩
  | abstract word => exact ⟨_, word.2, by decide⟩
  | readonly word => exact ⟨_, word.2, by decide⟩

/-- The visibility that is declared does not depend on the order. -/
theorem declaredVisibility_of_perm (hn : (ms.map slot).Nodup) (hp : ms.Perm others) :
    declaredVisibility ms = declaredVisibility others := by
  cases hm : ms.findSome? visibility? with
  | none =>
    have ho : others.findSome? visibility? = none := by
      rw [List.findSome?_eq_none_iff] at hm ⊢
      exact fun m ho => hm m (hp.mem_iff.2 ho)
    rw [declaredVisibility, declaredVisibility, hm, ho]
  | some v =>
    obtain ⟨m, hmem, hv⟩ := List.exists_of_findSome?_eq_some hm
    cases ho : others.findSome? visibility? with
    | none =>
      rw [List.findSome?_eq_none_iff] at ho
      cases hv.symm.trans (ho m (hp.mem_iff.1 hmem))
    | some w =>
      obtain ⟨m', hmem', hw⟩ := List.exists_of_findSome?_eq_some ho
      have heq : m = m' := List.inj_on_of_nodup_map hn hmem (hp.mem_iff.2 hmem')
        ((slot_eq_of_visibility? hv).trans (slot_eq_of_visibility? hw).symm)
      rw [declaredVisibility, declaredVisibility, hm, ho, ← hv, ← hw, heq]

/-! ## Reading modifiers -/

/-- The word `abstract` is passed over. -/
theorem member_abstract (word : Reserved .abstract_) :
    member imports ⟨word.1 :: left, brackets⟩ = member imports ⟨left, brackets⟩ := by
  obtain ⟨ho, hc⟩ := plain_of_isIdentifier (isIdentifier_of_keyword? word.2)
  have hf : fault? word.1 brackets = none := by simp [fault?, hc]
  simp only [member, bind, EStateM.bind]
  rw [takeUntil_pass (by simp [word.2]) hf, after_plain ho hc]
  cases takeUntil (fun t => t.keyword? ≠ some .abstract_) ⟨left, brackets⟩ <;> rfl

theorem visible_abstract (word : Reserved .abstract_) (hk : t.keyword? = some k) :
    visible imports v ⟨word.1 :: t :: left, brackets⟩ =
      declared imports v k ⟨left, brackets⟩ := by
  have hi := isIdentifier_of_keyword? hk
  have hskip : skipAbstract word.1 ⟨t :: left, brackets⟩ = .ok t ⟨left, brackets⟩ := by
    rw [skipAbstract, if_pos word.2]
    exact next_name hi
  rw [visible, bind_run (next_name (isIdentifier_of_keyword? word.2)), bind_run hskip,
    bind_run (skipNullable_name hi _), type?_of_keyword? hk, hk]

/-- Only one modifier can be in a slot. -/
theorem eq_of_slot {s : Slot} (hn : (ms.map slot).Nodup) (h : ∀ m ∈ ms, m.slot = s) :
    ms = [] ∨ ∃ m, m.slot = s ∧ ms = [m] := by
  cases ms with
  | nil => exact .inl rfl
  | cons m ms =>
    cases ms with
    | nil => exact .inr ⟨m, h m (by simp), rfl⟩
    | cons m' ms => simp [h m, h m'] at hn

/-- Behind a visibility and `abstract`, in any order, a keyword goes on with the member. -/
theorem member_words (hn : (ms.map slot).Nodup) (hp : ∀ m ∈ ms, m.takesNext = false)
    (hk : t.keyword? = some k) (ha : k ≠ .abstract_) (hu : k ≠ .use_) (hv : k.visibility? = none) :
    member imports ⟨ms.map token ++ t :: left, brackets⟩ =
      declared imports (declaredVisibility ms) k ⟨left, brackets⟩ := by
  induction ms with
  | nil => exact (member_keyword hk ha hu).trans (by rw [hv]; rfl)
  | cons m ms ih =>
    obtain ⟨hnew, hrest⟩ := List.nodup_cons.1 hn
    have htail : ∀ m ∈ ms, m.takesNext = false := fun m hm => hp m (List.mem_cons_of_mem _ hm)
    cases m with
    | abstract word => exact (member_abstract word).trans (ih hrest htail)
    | static word | readonly word => simp [takesNext, slot] at hp
    | visibility word =>
      have habstract : ∀ m ∈ ms, m.slot = .abstract := by
        intro m hmem
        have hne : m.slot ≠ .visibility := fun heq => hnew (List.mem_map.2 ⟨m, hmem, heq⟩)
        have hplain := htail m hmem
        cases m <;> simp_all [takesNext, slot]
      refine (member_visibilityWord imports word _ _).trans ?_
      obtain rfl | ⟨m, hm, rfl⟩ := eq_of_slot hrest habstract
      · exact visible_keyword hk ha
      · cases m with
        | abstract a => exact visible_abstract a hk
        | _ => cases hm

/-- A modifier behind `static` or `readonly` is taken for a type that is no user's, or for what is not
the word `function`. -/
theorem declared_modifier (m : Modifier) (hk : k = .static_ ∨ k = .readonly_) :
    declared imports v k ⟨m.token :: left, brackets⟩ = .ok {} ⟨left, brackets⟩ := by
  obtain ⟨word, hm, hf⟩ := m.keyword?
  have hi := isIdentifier_of_keyword? hm
  have htyped : typed imports m.token = {} := by rw [typed, type?_of_keyword? hm]; rfl
  rcases hk with rfl | rfl
  · refine (bind_run (next_name hi)).trans ((bind_run (skipNullable_name hi _)).trans ?_)
    rw [if_neg (by simpa [hm] using hf), htyped]
    rfl
  · refine (bind_run (next_name hi)).trans ((bind_run (skipNullable_name hi _)).trans ?_)
    rw [htyped]
    rfl

/-! ## What is remembered -/

theorem keyword?_of_takesNext {m : Modifier} (h : m.takesNext = true) :
    ∃ k, m.token.keyword? = some k ∧ (k = .static_ ∨ k = .readonly_) := by
  cases m with
  | static word => exact ⟨_, word.2, .inl rfl⟩
  | readonly word => exact ⟨_, word.2, .inr rfl⟩
  | _ => cases h

/-- Modifiers start with those that take nothing, which may be all. If one is left, it is the last one,
or it takes the one behind it. -/
theorem exists_remembered (ms : List Modifier) : ∃ before, (∀ m ∈ before, m.takesNext = false) ∧
    (ms = before ∧ remembered ms = ms ∨
      (∃ m, m.takesNext = true ∧ ms = before ++ [m] ∧ remembered ms = ms) ∨
      ∃ m taken behind, m.takesNext = true ∧ ms = before ++ m :: taken :: behind ∧
        remembered ms = behind) := by
  have hsplit := List.takeWhile_append_dropWhile (p := fun m : Modifier => !m.takesNext) (l := ms)
  have hfirst := List.head?_dropWhile_not (fun m : Modifier => !m.takesNext) ms
  have hbefore : ∀ m ∈ ms.takeWhile (!·.takesNext), (!m.takesNext) = true := by
    rw [← List.all_eq_true, List.all_takeWhile]
  refine ⟨ms.takeWhile (!·.takesNext), fun m hm => by simpa using hbefore m hm, ?_⟩
  cases hd : ms.dropWhile (!·.takesNext) with
  | nil =>
    rw [hd, List.append_nil] at hsplit
    exact .inl ⟨hsplit.symm, by rw [remembered, hd]⟩
  | cons m behind =>
    rw [hd] at hsplit hfirst
    have hm : m.takesNext = true := by simpa using hfirst
    cases behind with
    | nil => exact .inr (.inl ⟨m, hm, hsplit.symm, by rw [remembered, hd]⟩)
    | cons taken behind =>
      exact .inr (.inr ⟨m, taken, behind, hm, hsplit.symm, by rw [remembered, hd]⟩)

/-- Behind words that take nothing, `static` or `readonly` goes on with the member. -/
theorem exists_declared {before : List Modifier} {m : Modifier} (hn : (before.map slot).Nodup)
    (hp : ∀ m ∈ before, m.takesNext = false) (hm : m.takesNext = true) :
    ∃ k, (k = .static_ ∨ k = .readonly_) ∧ ∀ imports left brackets,
      member imports ⟨before.map token ++ m.token :: left, brackets⟩ =
        declared imports (declaredVisibility before) k ⟨left, brackets⟩ := by
  obtain ⟨k, hk, rfl | rfl⟩ := keyword?_of_takesNext hm
  · exact ⟨_, .inl rfl, fun _ _ _ => member_words hn hp hk (by decide) (by decide) rfl⟩
  · exact ⟨_, .inr rfl, fun _ _ _ => member_words hn hp hk (by decide) (by decide) rfl⟩

variable {p : Place}

/-- What is not remembered leaves no trace. -/
theorem resume_remembered (hi : p.Inside) (hn : (ms.map slot).Nodup) (left : List Token) :
    p.resume (ms.map token ++ left) = p.resume ((remembered ms).map token ++ left) := by
  obtain ⟨before, hb, ⟨-, hr⟩ | ⟨m, -, -, hr⟩ | ⟨m, taken, behind, hm, rfl, hr⟩⟩ :=
    exists_remembered ms
  · rw [hr]
  · rw [hr]
  · rw [List.map_append] at hn
    obtain ⟨k, hk, hread⟩ := exists_declared hn.of_append_left hb hm
    have hlist : (before ++ m :: taken :: behind).map token ++ left =
        before.map token ++ m.token :: taken.token :: (behind.map token ++ left) := by simp
    rw [hr, hlist]
    exact Place.resume_of_empty hi ((hread _ _ _).trans (declared_modifier taken hk))

/-- Only one modifier takes the next one. -/
theorem takesNext_behind {before behind : List Modifier} {m : Modifier}
    (hn : ((before ++ m :: behind).map slot).Nodup)
    (ha : .static ∈ (before ++ m :: behind).map slot → .readonly ∉ (before ++ m :: behind).map slot)
    (hm : m.takesNext = true) : ∀ m' ∈ behind, m'.takesNext = false := by
  intro m' hm'
  rw [Bool.eq_false_iff]
  intro ht
  rw [List.map_append, List.map_cons] at hn ha
  have hmem : m'.slot ∈ behind.map slot := List.mem_map_of_mem hm'
  have hne : m.slot ≠ m'.slot := fun heq =>
    (List.nodup_cons.1 hn.of_append_right).1 (heq ▸ hmem)
  have hslot {n : Modifier} (hn : n.takesNext = true) : n.slot = .static ∨ n.slot = .readonly := by
    simpa [takesNext] using hn
  have hfirst : m.slot ∈ before.map slot ++ m.slot :: behind.map slot := by simp
  have hsecond : m'.slot ∈ before.map slot ++ m.slot :: behind.map slot :=
    List.mem_append_right _ (List.mem_cons_of_mem _ hmem)
  rcases hslot hm with hs | hs <;> rcases hslot ht with hs' | hs'
  · exact hne (hs.trans hs'.symm)
  · exact ha (hs ▸ hfirst) (hs' ▸ hsecond)
  · exact ha (hs' ▸ hsecond) (hs ▸ hfirst)
  · exact hne (hs.trans hs'.symm)

/-! ## Methods -/

theorem OfMethod.apart (h : OfMethod ms) : .static ∈ ms.map slot → .readonly ∉ ms.map slot := by
  intro _ hm
  obtain ⟨m, hm, hs⟩ := List.mem_map.1 hm
  exact h.plain m hm hs

theorem OfMethod.eq_static (h : OfMethod ms) {m : Modifier} (hm : m ∈ ms) (ht : m.takesNext = true) :
    ∃ word, m = .static word := by
  have hne := h.plain m hm
  cases m with
  | static word => exact ⟨word, rfl⟩
  | readonly word => exact absurd rfl hne
  | visibility _ | abstract _ => cases ht

theorem member_method (hn : (ms.map slot).Nodup) (hp : ∀ m ∈ ms, m.takesNext = false)
    (fn : Reserved .function_) : member imports ⟨ms.map token ++ fn.1 :: left, brackets⟩ =
      method imports (declaredVisibility ms) ⟨left, brackets⟩ :=
  member_words hn hp fn.2 (by decide) (by decide) rfl

/-- **A method is read with the visibility that the remembered modifiers declare.** -/
theorem OfMethod.member_remembered (h : OfMethod ms) (fn : Reserved .function_) :
    member imports ⟨(remembered ms).map token ++ fn.1 :: left, brackets⟩ =
      method imports (declaredVisibility (remembered ms)) ⟨left, brackets⟩ := by
  have hn := h.once
  obtain ⟨before, hb, ⟨rfl, hr⟩ | ⟨m, hm, rfl, hr⟩ | ⟨m, taken, behind, hm, rfl, hr⟩⟩ :=
    exists_remembered ms
  · rw [hr]
    exact member_method hn hb fn
  · obtain ⟨word, rfl⟩ := h.eq_static (by simp) hm
    rw [List.map_append] at hn
    have hv : declaredVisibility (before ++ [.static word]) = declaredVisibility before := by
      simp [declaredVisibility, List.findSome?_append, visibility?]
    have hi := isIdentifier_of_keyword? fn.2
    rw [hr, hv, List.map_append, List.append_assoc]
    refine (member_words hn.of_append_left hb word.2 (by decide) (by decide) rfl).trans ?_
    refine (bind_run (next_name hi)).trans ((bind_run (skipNullable_name hi _)).trans ?_)
    rw [if_pos fn.2]
  · have hplain := takesNext_behind hn h.apart hm
    rw [List.map_append, List.map_cons, List.map_cons] at hn
    have hrest : (behind.map slot).Nodup := hn.of_append_right.of_cons.of_cons
    rw [hr]
    exact member_method hrest (fun m' hm' => hplain m' (List.mem_cons_of_mem _ hm')) fn

theorem OfMethod.resume_method {m : Member} (h : OfMethod ms) (hi : p.Inside) (fn : Reserved .function_)
    (hm : method p.imports (declaredVisibility (remembered ms)) ⟨left, p.brackets⟩ =
      .ok m ⟨rest, opened⟩) :
    p.resume (ms.map token ++ fn.1 :: left) = (p.next m opened).resume rest := by
  rw [resume_remembered hi h.once]
  exact Place.resume_member hi ((h.member_remembered fn).trans hm)

theorem OfMethod.exists_method {c : Class} {state : State} (h : OfMethod ms) (hi : p.Inside)
    (fn : Reserved .function_) (hc : p.resume (ms.map token ++ fn.1 :: left) = .ok (some c) state) :
    ∃ m rest opened, method p.imports (declaredVisibility (remembered ms)) ⟨left, p.brackets⟩ =
        .ok m ⟨rest, opened⟩ ∧ (p.next m opened).resume rest = .ok (some c) state := by
  rw [resume_remembered hi h.once] at hc
  obtain ⟨m, rest, opened, hm, hc⟩ := Place.exists_member hi hc
  exact ⟨m, rest, opened, (h.member_remembered fn).symm.trans hm, hc⟩

/-- The orders in which no visibility is lost are read alike. -/
theorem OfMethod.resume_of_perm (h : OfMethod ms) (hp : ms.Perm others) (hk : KeepsVisibility ms)
    (ho : KeepsVisibility others) (hi : p.Inside) (fn : Reserved .function_) (left : List Token) :
    p.resume (ms.map token ++ fn.1 :: left) = p.resume (others.map token ++ fn.1 :: left) := by
  have hothers : OfMethod others :=
    ⟨(hp.map slot).nodup_iff.1 h.once, fun m hm => h.plain m (hp.mem_iff.2 hm)⟩
  rw [resume_remembered hi h.once, resume_remembered hi hothers.once]
  refine Place.resume_congr hi ?_
  rw [h.member_remembered, hothers.member_remembered, hk, ho, declaredVisibility_of_perm h.once hp]

/-- A method has the name that is read first, and the visibility that it is read with. -/
theorem named_of_method {m : Member} {tape : Tape}
    (h : method imports v ⟨left, brackets⟩ = .ok m tape) :
    ∃ f, m.method? = some f ∧ left.head?.map (·.lexeme) = some f.name ∧ f.visibility = v := by
  obtain ⟨sig, opening, inner, outer, statements, hsig, rfl, -⟩ := method_eq_ok h
  obtain ⟨name, ⟨rest, opened⟩, hname, hrest⟩ := bind_eq_ok hsig
  obtain ⟨rfl, -, -⟩ := next_eq_ok hname
  obtain ⟨_, _, -, hrest⟩ := bind_eq_ok hrest
  obtain ⟨_, _, -, hrest⟩ := bind_eq_ok hrest
  obtain ⟨_, _, -, hrest⟩ := bind_eq_ok hrest
  obtain ⟨_, _, -, hrest⟩ := bind_eq_ok hrest
  cases hrest
  exact ⟨_, rfl, rfl, rfl⟩

/-! ## Properties -/

theorem resume_idle {ts : List Token} (hi : p.Inside) (h : ∀ t ∈ ts, Idle t) (left : List Token) :
    p.resume (ts ++ left) = p.resume left := by
  induction ts with
  | nil => rfl
  | cons t ts ih =>
    rw [List.cons_append, Place.resume_of_empty hi (member_idle (h t (by simp)))]
    exact ih fun u hu => h u (List.mem_cons_of_mem t hu)

theorem resume_ending (hi : p.Inside) (w : Token.Variable) {value : List Token}
    (hv : ∀ t ∈ value, Idle t ∧ t.kind ≠ .semicolon) (s : Sign .semicolon) (left : List Token) :
    p.resume (w.1 :: (value ++ s.1 :: left)) = p.resume left := by
  have h := resume_idle hi (idle_ending w hv s) left
  simpa using h

/-- A property starts with a visibility, with `static` or `readonly` behind it or without, or with
`static` or `readonly` alone. In any other order nothing is remembered. -/
theorem OfProperty.shape (h : OfProperty ms) :
    (remembered ms = ms ∧ ((∃ word, ms = [.visibility word]) ∨ ∃ before m, ms = before ++ [m] ∧
      (before.map slot).Nodup ∧ (∀ m ∈ before, m.takesNext = false) ∧ m.takesNext = true)) ∨
    (remembered ms ≠ ms ∧ remembered ms = []) := by
  have hn := h.once
  have hvisible {m : Modifier} (hm : m ∈ ms) (ht : m.takesNext = false) : m.slot = .visibility := by
    have hne := h.plain m hm
    cases m <;> simp_all [takesNext, slot]
  obtain ⟨before, hb, ⟨rfl, hr⟩ | ⟨m, hm, rfl, hr⟩ | ⟨m, taken, behind, hm, rfl, hr⟩⟩ :=
    exists_remembered ms
  · obtain rfl | ⟨m, hm, rfl⟩ := eq_of_slot hn fun m hm => hvisible hm (hb m hm)
    · exact absurd rfl h.nonempty
    · obtain ⟨word, rfl⟩ := eq_visibility hm
      exact .inl ⟨hr, .inl ⟨word, rfl⟩⟩
  · rw [List.map_append] at hn
    exact .inl ⟨hr, .inr ⟨before, m, rfl, hn.of_append_left, hb, hm⟩⟩
  · -- the others are visibilities, and there is only one
    have hplain := takesNext_behind hn h.apart hm
    have hsub : (before ++ taken :: behind).Sublist (before ++ m :: taken :: behind) :=
      (List.Sublist.refl before).append (List.sublist_cons_self m _)
    have hothers : ∀ m' ∈ before ++ taken :: behind, m'.slot = .visibility := by
      intro m' hm'
      refine hvisible (hsub.subset hm') ?_
      exact (List.mem_append.1 hm').elim (hb m') (hplain m')
    have hone := eq_of_slot (hn.sublist (hsub.map slot)) hothers
    obtain ⟨_, -, hw⟩ := hone.resolve_left (by simp)
    cases before with
    | nil =>
      obtain ⟨-, rfl⟩ := List.cons.inj hw
      exact .inr ⟨by rw [hr]; simp, hr⟩
    | cons first before => simp at hw

/-- Behind `static` or `readonly`, a type is read. -/
theorem member_typed {before : List Modifier} {m : Modifier} (hn : (before.map slot).Nodup)
    (hp : ∀ m ∈ before, m.takesNext = false) (hm : m.takesNext = true) (imports : Imports)
    (type : TypeText) (left : List Token) (brackets : List Bracket) :
    member imports ⟨(before ++ [m]).map token ++ (type.tokens ++ left), brackets⟩ =
      .ok (typed imports type.name.1) ⟨left, brackets⟩ := by
  obtain ⟨k, hk, hread⟩ := exists_declared hn hp hm
  rw [List.map_append, List.append_assoc]
  refine (hread _ _ _).trans ?_
  rcases hk with rfl | rfl
  · exact declared_static _ type
  · exact declared_readonly _ type

/-- Behind modifiers that are all remembered, a type is read that is not part of the language. -/
theorem OfProperty.member_type (h : OfProperty ms) (hr : remembered ms = ms) (type : TypeText)
    (hb : type.name.1.isBuiltInType = false) :
    member imports ⟨ms.map token ++ (type.tokens ++ left), brackets⟩ =
      .ok { types := [imports.resolve type.name.1] } ⟨left, brackets⟩ := by
  have htype : imports.type? type.name.1 = some (imports.resolve type.name.1) :=
    type?_of_isTypeName type.name.2 hb
  obtain ⟨-, ⟨word, rfl⟩ | ⟨before, m, rfl, hn, hp, hm⟩⟩ | ⟨hne, -⟩ := h.shape
  · refine (member_visibilityWord imports word _ _).trans ((visible_type _ type).trans ?_)
    rw [htype]
    rfl
  · rw [member_typed hn hp hm imports type left brackets, typed, htype]
    rfl
  · exact absurd hr hne

theorem idle_typeName {type : TypeName} (hb : type.1.isBuiltInType = false) : Idle type.1 := by
  have hk : type.1.keyword? = none := by
    have h := type.2
    simp_all [isTypeName]
  obtain ⟨ho, hc⟩ := plain_of_isIdentifier (isIdentifier_of_isTypeName type.2)
  exact ⟨hk, ho, hc⟩

theorem idle_question (s : Sign .question) : Idle s.1 := by
  obtain ⟨ho, hc⟩ := plain_of_kind s.2 (by decide)
  exact ⟨keyword?_of_kind s.2 (by decide), ho, hc⟩

/-- A type that is read where a member may start is passed over, if it is not part of the language. -/
theorem resume_type (hi : p.Inside) (type : TypeText) (hb : type.name.1.isBuiltInType = false)
    (left : List Token) : p.resume (type.tokens ++ left) = p.resume left := by
  refine resume_idle hi (fun t ht => ?_) left
  simp only [TypeText.tokens, List.mem_append, List.mem_map, List.mem_singleton] at ht
  obtain ⟨s, -, rfl⟩ | rfl := ht
  · exact idle_question s
  · exact idle_typeName hb

/-- A built-in type that is read where a member may start is passed over, with what is behind it. -/
theorem resume_builtIn (hi : p.Inside) (type : TypeText) (hb : type.name.1.isBuiltInType = true)
    (w : Token.Variable) {value : List Token} (hv : ∀ t ∈ value, Idle t ∧ t.kind ≠ .semicolon)
    (s : Sign .semicolon) (left : List Token) :
    p.resume (type.tokens ++ w.1 :: (value ++ s.1 :: left)) = p.resume left := by
  have hending := resume_ending hi w hv s left
  have hname : p.resume (type.name.1 :: w.1 :: (value ++ s.1 :: left)) = p.resume left := by
    have hn := isIdentifier_of_isTypeName type.name.2
    cases hk : type.name.1.keyword? with
    | none =>
      obtain ⟨ho, hc⟩ := plain_of_isIdentifier hn
      exact (Place.resume_of_empty hi (member_idle ⟨hk, ho, hc⟩)).trans hending
    | some k =>
      have hbuiltIn := mem_builtInKeywords hb hk
      have hstart : ∀ k ∈ builtInKeywords, k ≠ .abstract_ ∧ k ≠ .use_ ∧ k.visibility? = none := by
        decide
      obtain ⟨ha, hu, hvisibility⟩ := hstart k hbuiltIn
      obtain ⟨tail, htail, hread⟩ := declared_builtIn p.imports .public_ hbuiltIn w hv s
      refine (Place.resume_of_empty hi ?_).trans (resume_idle hi htail left)
      rw [member_keyword hk ha hu, hvisibility]
      exact hread left p.brackets
  cases hq : type.question? with
  | none => simpa [TypeText.tokens, hq] using hname
  | some question =>
    have hquestion : p.resume (question.1 :: type.name.1 :: w.1 :: (value ++ s.1 :: left)) =
        p.resume left := (Place.resume_of_empty hi (member_idle (idle_question question))).trans hname
    simpa [TypeText.tokens, hq] using hquestion

/-- **A property of a built-in type leaves no trace**, whatever the order of its modifiers. -/
theorem OfProperty.resume_builtIn (h : OfProperty ms) (hi : p.Inside) (type : TypeText)
    (hb : type.name.1.isBuiltInType = true) (w : Token.Variable) {value : List Token}
    (hv : ∀ t ∈ value, Idle t ∧ t.kind ≠ .semicolon) (s : Sign .semicolon) (left : List Token) :
    p.resume (ms.map token ++ (type.tokens ++ w.1 :: (value ++ s.1 :: left))) = p.resume left := by
  have htype : p.imports.type? type.name.1 = none := type?_of_isBuiltInType hb
  obtain ⟨-, ⟨word, rfl⟩ | ⟨before, m, rfl, hn, hp, hm⟩⟩ | ⟨-, hr⟩ := h.shape
  · obtain ⟨m, tail, hread, htail, rfl⟩ :=
      visible_property p.imports word.visibility type w value hv s left p.brackets
    rw [List.filterMap_cons, htype] at hread
    exact (Place.resume_of_empty hi ((member_visibilityWord p.imports word _ _).trans hread)).trans
      (resume_idle hi htail left)
  · have hread := member_typed hn hp hm p.imports type (w.1 :: (value ++ s.1 :: left)) p.brackets
    rw [typed, htype] at hread
    exact (Place.resume_of_empty hi hread).trans (resume_ending hi w hv s left)
  · rw [resume_remembered hi h.once, hr]
    exact Reading.resume_builtIn hi type hb w hv s left

/-! ## Members in a class -/

/-- **What the order of modifiers changes.** The orders of a method's modifiers in which its visibility
is not lost are read alike, and in any order a method has the visibility that is remembered. The type
of a property is recorded wherever all modifiers are remembered, and the orders in which they are do
not differ; in any other order the property leaves no trace, as it does if its type is built in. -/
theorem file_of_modifiers {before : List Token} (hp : p.StandsBehind before) (hi : p.Inside) :
    (∀ (ms others : List Modifier) (fn : Reserved .function_) (left : List Token), OfMethod ms →
      ms.Perm others → KeepsVisibility ms → KeepsVisibility others →
      file (before ++ (ms.map token ++ fn.1 :: left)) =
        file (before ++ (others.map token ++ fn.1 :: left))) ∧
    (∀ (ms : List Modifier) (fn : Reserved .function_) (left : List Token) (c : Class) (state : State),
      OfMethod ms → file (before ++ (ms.map token ++ fn.1 :: left)) = .ok (some c) state →
      ∃ m f rest opened, (p.next m opened).resume rest = .ok (some c) state ∧ m.method? = some f ∧
        f ∈ c.methods ∧ left.head?.map (·.lexeme) = some f.name ∧
        f.visibility = declaredVisibility (remembered ms)) ∧
    (∀ (ms : List Modifier) (type : TypeText) (left : List Token), OfProperty ms →
      type.name.1.isBuiltInType = false →
      (remembered ms = ms →
        (∀ others, OfProperty others → remembered others = others →
          file (before ++ (ms.map token ++ (type.tokens ++ left))) =
            file (before ++ (others.map token ++ (type.tokens ++ left)))) ∧
        ∀ c state, file (before ++ (ms.map token ++ (type.tokens ++ left))) = .ok (some c) state →
          Class.isDependencyName (p.imports.resolve type.name.1) = true →
          p.imports.realName (p.imports.resolve type.name.1) ∈ c.dependencies) ∧
      (remembered ms ≠ ms →
        file (before ++ (ms.map token ++ (type.tokens ++ left))) = file (before ++ left))) ∧
    (∀ (ms : List Modifier) (type : TypeText) (w : Token.Variable) (value : List Token)
      (s : Sign .semicolon) (left : List Token), OfProperty ms → type.name.1.isBuiltInType = true →
      (∀ t ∈ value, Idle t ∧ t.kind ≠ .semicolon) →
      file (before ++ (ms.map token ++ (type.tokens ++ w.1 :: (value ++ s.1 :: left)))) =
        file (before ++ left)) := by
  refine ⟨?_, ?_, ?_, ?_⟩
  · intro ms others fn left h hperm hk ho
    rw [hp, hp]
    exact h.resume_of_perm hperm hk ho hi fn left
  · intro ms fn left c state h hc
    rw [hp] at hc
    obtain ⟨m, rest, opened, hm, hc⟩ := h.exists_method hi fn hc
    obtain ⟨f, hf, hname, hv⟩ := named_of_method hm
    refine ⟨m, f, rest, opened, hc, hf, ?_, hname, hv⟩
    refine (Place.resume_eq_class hc).2 f ?_
    rw [Place.next, methods_addTo, hf]
    simp
  · intro ms type left h hb
    refine ⟨fun hr => ⟨fun others ho hro => ?_, fun c state hc hcap => ?_⟩, fun hr => ?_⟩
    · rw [hp, hp]
      exact Place.resume_congr hi ((h.member_type hr type hb).trans (ho.member_type hro type hb).symm)
    · rw [hp, Place.resume_member hi (h.member_type hr type hb)] at hc
      refine (Place.resume_eq_class hc).1 _ ?_
      rw [Place.next, dependencies_addTo, Class.mem_foldl_offer]
      exact .inr ⟨by simp [Member.offered], hcap⟩
    · obtain ⟨heq, -⟩ | ⟨-, hnil⟩ := h.shape
      · exact absurd heq hr
      · rw [hp, hp, resume_remembered hi h.once, hnil]
        exact resume_type hi type hb left
  · intro ms type w value s left h hb hv
    rw [hp, hp]
    exact h.resume_builtIn hi type hb w hv s left

def privateWord : Modifier := .visibility (visibilityWord .private_ rfl)

def staticWord : Modifier := .static (reserved .static_)

def abstractWord : Modifier := .abstract (reserved .abstract_)

def readonlyWord : Modifier := .readonly (reserved .readonly_)

/-- `f() {} }`. -/
def restOfF : List Token :=
  [⟨.identifier, 1, "f"⟩, ⟨.leftParen, 1, "("⟩, ⟨.rightParen, 1, ")"⟩, ⟨.leftBrace, 1, "\x7b"⟩,
    ⟨.rightBrace, 1, "\x7d"⟩, ⟨.rightBrace, 1, "\x7d"⟩]

/-- `$x; }`. -/
def restOfX : List Token :=
  [⟨.identifier, 1, "$x"⟩, ⟨.semicolon, 1, ";"⟩, ⟨.rightBrace, 1, "\x7d"⟩]

def typeT : TypeText := ⟨none, typeName "T" (by decide +kernel) rfl⟩

theorem file_of_modifiers_of_openingOfA :
    insideA.StandsBehind openingOfA ∧ insideA.Inside ∧
      file (openingOfA ++ ([abstractWord, privateWord].map token ++ (reserved .function_).1 :: restOfF)) =
        file (openingOfA ++ ([privateWord, abstractWord].map token ++
          (reserved .function_).1 :: restOfF)) ∧
      (∃ c state, file (openingOfA ++ ([staticWord, abstractWord, privateWord].map token ++
          (reserved .function_).1 :: restOfF)) = .ok (some c) state ∧
        ∃ f ∈ c.methods, f.name = "f" ∧ f.visibility = .private_) ∧
      (∃ c state, file (openingOfA ++ ([privateWord, readonlyWord].map token ++
          (typeT.tokens ++ restOfX))) = .ok (some c) state ∧ "N\\T" ∈ c.dependencies) ∧
      file (openingOfA ++ ([readonlyWord, privateWord].map token ++ (typeT.tokens ++ restOfX))) =
        file (openingOfA ++ restOfX) := by
  obtain ⟨horder, hmethod, hproperty, -⟩ := file_of_modifiers insideA_standsBehind insideA_inside
  refine ⟨insideA_standsBehind, insideA_inside, ?_, ?_, ?_, ?_⟩
  · exact horder _ _ _ _ ⟨by decide, by decide⟩ (List.Perm.swap _ _ _) rfl rfl
  · obtain ⟨c, state, hc⟩ : ∃ c state, file (openingOfA ++ ([staticWord, abstractWord,
        privateWord].map token ++ (reserved .function_).1 :: restOfF)) = .ok (some c) state :=
      exists_class_of_isSome (by decide +kernel)
    obtain ⟨-, f, -, -, -, -, hf, hname, hv⟩ := hmethod _ _ _ _ _ ⟨by decide, by decide⟩ hc
    exact ⟨c, state, hc, f, hf, (Option.some.inj hname).symm, hv⟩
  · obtain ⟨c, state, hc⟩ : ∃ c state, file (openingOfA ++ ([privateWord, readonlyWord].map token ++
        (typeT.tokens ++ restOfX))) = .ok (some c) state :=
      exists_class_of_isSome (by decide +kernel)
    obtain ⟨-, hdependency⟩ := (hproperty [privateWord, readonlyWord] typeT restOfX
      ⟨by decide, by decide, by decide, by decide⟩ (by decide)).1 rfl
    exact ⟨c, state, hc, hdependency c state hc (by decide +kernel)⟩
  · exact (hproperty [readonlyWord, privateWord] typeT restOfX
      ⟨by decide, by decide, by decide, by decide⟩ (by decide)).2 (List.cons_ne_nil _ _).symm

/-- The visibility of a method is lost if it is written behind `static`. -/
theorem not_forall_file_of_perm :
    ¬ ∀ (before left : List Token) (ms others : List Modifier) (fn : Reserved .function_),
      OfMethod ms → ms.Perm others → file (before ++ (ms.map token ++ fn.1 :: left)) =
        file (before ++ (others.map token ++ fn.1 :: left)) := by
  intro h
  have heq := h openingOfA restOfF [privateWord, staticWord] [staticWord, privateWord]
    (reserved .function_) ⟨by decide, by simp [privateWord, staticWord, slot]⟩ (List.Perm.swap _ _ _)
  have hprivate : (classRead? (file (openingOfA ++ ([privateWord, staticWord].map token ++
      (reserved .function_).1 :: restOfF)))).map (·.1.methods.map (·.visibility)) =
        some [.private_] := by decide +kernel
  have hpublic : (classRead? (file (openingOfA ++ ([staticWord, privateWord].map token ++
      (reserved .function_).1 :: restOfF)))).map (·.1.methods.map (·.visibility)) =
        some [.public_] := by decide +kernel
  rw [heq, hpublic] at hprivate
  cases hprivate

end Cyclomatic.Reading
