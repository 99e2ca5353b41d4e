import Cyclomatic.Proofs.Reading.Completion
import Cyclomatic.Proofs.Reading.MemberText
import Cyclomatic.Proofs.Reading.Nesting

/-!
# The types that members mention

The tokens of a member as it is written are read as members that offer just the types that it mentions
(`MemberText.yields`), up to names that are no dependency's. One member may be read as several: what is
left of a property after its type starts no member, and is taken token by token.
-/

set_option autoImplicit false

namespace Cyclomatic.Reading

open Token

/-! ## What types stand for -/

section

variable {imports : Imports} {t : Token}

/-- The names among the offered ones that the class may come to depend on. -/
def accepted (names : List String) : List String := names.filter Class.isDependencyName

theorem accepted_append (names others : List String) :
    accepted (names ++ others) = accepted names ++ accepted others :=
  List.filter_append names others

theorem type?_of_not_identifier (h : t.isIdentifier = false) : imports.type? t = none := by
  simp [Imports.type?, h]

theorem type?_of_keyword? {k : Keyword} (h : t.keyword? = some k) : imports.type? t = none := by
  simp [Imports.type?, h]

theorem type?_of_startsWith (h : startsWith t.lexeme '$' = true) : imports.type? t = none := by
  simp [Imports.type?, h]

theorem type?_of_isBuiltInType (h : t.isBuiltInType = true) : imports.type? t = none := by
  simp [Imports.type?, h]

/-- A type that is not part of the language is what the name stands for. -/
theorem type?_of_isTypeName (h : t.isTypeName = true) (hb : t.isBuiltInType = false) :
    imports.type? t = some (imports.resolve t) := by
  simp_all [Imports.type?, isTypeName]

/-- The names of built-in types start with small letters, so that none is a dependency. -/
theorem not_isDependencyName_of_isBuiltInType (h : t.isBuiltInType = true) :
    Class.isDependencyName t.lexeme = false := by
  have hall : ∀ word ∈ builtInTypes, Class.isDependencyName word = false := by decide +kernel
  simp only [isBuiltInType, Bool.and_eq_true, List.contains_iff_mem] at h
  exact hall t.lexeme h.2

/-- For dependencies it makes no difference whether built-in types are offered. -/
theorem accepted_resolve (h : t.isTypeName = true) :
    accepted [imports.resolve t] = accepted ([t].filterMap imports.type?) := by
  cases hb : t.isBuiltInType with
  | false => simp [type?_of_isTypeName h hb]
  | true =>
    have hr : imports.resolve t = t.lexeme := by simp [Imports.resolve, hb]
    simp [accepted, type?_of_isBuiltInType hb, hr, not_isDependencyName_of_isBuiltInType hb]

end

/-! ## Reading members -/

/-- A token that neither starts a member nor is a bracket. -/
structure Idle (t : Token) : Prop where
  keyword : t.keyword? = none
  opened : opened? t = none
  closed : closed? t = none

variable {imports : Imports} {t : Token} {left : List Token} {brackets : List Bracket}

theorem idle_variable (v : Token.Variable) : Idle v.1 :=
  ⟨v.keyword?, (plain_of_isIdentifier v.2.1).1, (plain_of_isIdentifier v.2.1).2⟩

theorem idle_semicolon (s : Sign .semicolon) : Idle s.1 := by
  obtain ⟨ho, hc⟩ := plain_of_kind s.2 (by decide)
  exact ⟨keyword?_of_kind s.2 (by decide), ho, hc⟩

/-- Tokens are read as members that offer just the given types, up to names that are not accepted. -/
def Yields (imports : Imports) (ts types : List Token) : Prop :=
  ∀ (depth : Nat) (brackets : List Bracket) (left : List Token) (ms : List Member) (rest : Tape),
    brackets.length ≠ depth → membersFrom imports depth ⟨left, brackets⟩ = .ok ms rest →
    ∃ more : List Member, membersFrom imports depth ⟨ts ++ left, brackets⟩ = .ok (more ++ ms) rest ∧
      accepted (more.flatMap Member.offered) = accepted (types.filterMap imports.type?)

theorem Yields.nil : Yields imports [] [] :=
  fun _ _ _ _ _ _ h => ⟨[], h, rfl⟩

theorem Yields.append {ts us types others : List Token} (h₁ : Yields imports ts types)
    (h₂ : Yields imports us others) : Yields imports (ts ++ us) (types ++ others) := by
  intro depth brackets left ms rest hd h
  obtain ⟨later, hlater, hnames⟩ := h₂ depth brackets left ms rest hd h
  obtain ⟨more, hmore, hnames'⟩ := h₁ depth brackets _ _ rest hd hlater
  refine ⟨more ++ later, ?_, ?_⟩
  · rw [List.append_assoc, hmore, List.append_assoc]
  · rw [List.flatMap_append, List.filterMap_append, accepted_append, accepted_append, hnames, hnames']

/-- A member is what its first token starts. -/
theorem member_run (ha : t.keyword? ≠ some .abstract_) {tape : Tape}
    (hn : next ⟨t :: left, brackets⟩ = .ok t tape) :
    member imports ⟨t :: left, brackets⟩ =
      (match t.keyword? with
        | none => pure {}
        | some .use_ => do
          let t ← next
          pure { types := [imports.resolve t] }
        | some keyword =>
          match keyword.visibility? with
          | some visibility => visible imports visibility
          | none => declared imports .public_ keyword : Read Member) tape := by
  have hstart : takeUntil (fun t => t.keyword? ≠ some .abstract_) ⟨t :: left, brackets⟩ =
      .ok [] ⟨t :: left, brackets⟩ := takeUntil_run (by simpa using ha)
  rw [member]
  exact (bind_run hstart).trans (bind_run hn)

theorem member_of_no_keyword (hk : t.keyword? = none) (hf : fault? t brackets = none) :
    member imports ⟨t :: left, brackets⟩ = .ok {} ⟨left, after t brackets⟩ := by
  rw [member_run (by simp [hk]) (next_run hf), hk]
  rfl

theorem member_idle (h : Idle t) :
    member imports ⟨t :: left, brackets⟩ = .ok {} ⟨left, brackets⟩ := by
  rw [member_of_no_keyword h.keyword (by simp [fault?, h.closed]), after_plain h.opened h.closed]

theorem yields_idle {ts : List Token} (h : ∀ t ∈ ts, Idle t) : Yields imports ts [] := by
  induction ts with
  | nil => exact Yields.nil
  | cons t ts ih =>
    have hone : Yields imports [t] [] := fun _ _ _ _ _ hd hm =>
      ⟨[{}], membersFrom_cons hd (member_idle (h t (by simp))) hm, rfl⟩
    exact hone.append (ih fun u hu => h u (List.mem_cons_of_mem t hu))

/-- One member is read; what is left of the tokens starts no other. -/
def ReadsOne (imports : Imports) (ts types : List Token) : Prop :=
  ∀ left brackets, ∃ m tail, member imports ⟨ts ++ left, brackets⟩ = .ok m ⟨tail ++ left, brackets⟩ ∧
    (∀ t ∈ tail, Idle t) ∧ accepted m.offered = accepted (types.filterMap imports.type?)

theorem ReadsOne.yields {ts types : List Token} (h : ReadsOne imports ts types) :
    Yields imports ts types := by
  intro depth brackets left ms rest hd hm
  obtain ⟨m, tail, hread, hidle, hnames⟩ := h left brackets
  obtain ⟨more, hmore, hnone⟩ := yields_idle hidle depth brackets left ms rest hd hm
  refine ⟨m :: more, membersFrom_cons hd hread hmore, ?_⟩
  rw [List.flatMap_cons, accepted_append, hnone, hnames]
  simp [accepted]

theorem member_use (hk : t.keyword? = some .use_) :
    member imports ⟨t :: left, brackets⟩ = (do
      let t ← next
      pure { types := [imports.resolve t] } : Read Member) ⟨left, brackets⟩ := by
  rw [member_run (by simp [hk]) (next_name (isIdentifier_of_keyword? hk)), hk]

theorem member_keyword {k : Keyword} (hk : t.keyword? = some k) (ha : k ≠ .abstract_)
    (hu : k ≠ .use_) :
    member imports ⟨t :: left, brackets⟩ =
      (match k.visibility? with
        | some visibility => visible imports visibility
        | none => declared imports .public_ k : Read Member) ⟨left, brackets⟩ := by
  rw [member_run (by simpa [hk] using ha) (next_name (isIdentifier_of_keyword? hk)), hk]
  cases k with
  | use_ => exact absurd rfl hu
  | _ => rfl

theorem member_visibilityWord (imports : Imports) (w : VisibilityWord) (left : List Token)
    (brackets : List Bracket) : member imports ⟨w.1 :: left, brackets⟩ =
      visible imports w.visibility ⟨left, brackets⟩ := by
  obtain ⟨k, hk, hv⟩ := w.keyword?
  have ha : k ≠ .abstract_ := by rintro rfl; cases hv
  have hu : k ≠ .use_ := by rintro rfl; cases hv
  rw [member_keyword hk ha hu, hv]

theorem skipNullable_name (h : t.isIdentifier = true) (tape : Tape) :
    skipNullable t tape = .ok t tape := by
  rw [skipNullable, if_neg (by simp [beq_iff_eq.1 h])]
  rfl

theorem skipAbstract_other (h : t.keyword? ≠ some .abstract_) (tape : Tape) :
    skipAbstract t tape = .ok t tape := by
  rw [skipAbstract, if_neg h]
  rfl

theorem visible_keyword {visibility : Visibility} {k : Keyword} (hk : t.keyword? = some k)
    (ha : k ≠ .abstract_) :
    visible imports visibility ⟨t :: left, brackets⟩ =
      declared imports visibility k ⟨left, brackets⟩ := by
  have hi := isIdentifier_of_keyword? hk
  have habstract : t.keyword? ≠ some .abstract_ := by simpa [hk] using ha
  rw [visible, bind_run (next_name hi), bind_run (skipAbstract_other habstract _),
    bind_run (skipNullable_name hi _), type?_of_keyword? hk, hk]

/-- A type is read past its question mark. -/
theorem skipNullable_run {α : Type} (type : TypeText) (f : Token → Read α) :
    (next >>= fun t => skipNullable t >>= f) ⟨type.tokens ++ left, brackets⟩ =
      f type.name.1 ⟨left, brackets⟩ := by
  obtain ⟨question?, name, hname⟩ := type
  have hi := isIdentifier_of_isTypeName hname
  cases question? with
  | none => exact (bind_run (next_name hi)).trans (bind_run (skipNullable_name hi _))
  | some question =>
    obtain ⟨question, hq⟩ := question
    have hskip (tape : Tape) : skipNullable question tape = next tape := by
      rw [skipNullable, if_pos (by simp [hq])]
    refine (bind_run (next_sign hq (by decide))).trans ?_
    exact bind_run ((hskip _).trans (next_name hi))

/-- No type starts with the word `abstract`. -/
theorem skipAbstract_run {α : Type} (type : TypeText) (f : Token → Read α) :
    (next >>= fun t => skipAbstract t >>= f) ⟨type.tokens ++ left, brackets⟩ =
      (next >>= f) ⟨type.tokens ++ left, brackets⟩ := by
  obtain ⟨question?, name, hname⟩ := type
  cases question? with
  | none =>
    have ha : name.keyword? ≠ some .abstract_ := keyword?_ne_of_isTypeName hname (by decide)
    have hn := isIdentifier_of_isTypeName hname
    exact (bind_run (next_name hn)).trans
      ((bind_run (skipAbstract_other ha _)).trans (bind_run (next_name hn)).symm)
  | some question =>
    obtain ⟨question, hq⟩ := question
    have ha : question.keyword? ≠ some .abstract_ := by
      simp [keyword?_of_kind hq (by decide)]
    refine (bind_run (next_sign hq (by decide))).trans ?_
    exact (bind_run (skipAbstract_other ha _)).trans (bind_run (next_sign hq (by decide))).symm

theorem visible_type (visibility : Visibility) (type : TypeText) :
    visible imports visibility ⟨type.tokens ++ left, brackets⟩ =
      (match imports.type? type.name.1, type.name.1.keyword? with
        | some type, _ => pure { types := [type] }
        | none, some keyword => declared imports visibility keyword
        | none, none => pure {} : Read Member) ⟨left, brackets⟩ :=
  (skipAbstract_run type _).trans (skipNullable_run type _)

theorem declared_readonly (visibility : Visibility) (type : TypeText) :
    declared imports visibility .readonly_ ⟨type.tokens ++ left, brackets⟩ =
      .ok (typed imports type.name.1) ⟨left, brackets⟩ := by
  change (next >>= fun t => skipNullable t >>= _) _ = _
  rw [skipNullable_run]
  rfl

theorem declared_static (visibility : Visibility) (type : TypeText) :
    declared imports visibility .static_ ⟨type.tokens ++ left, brackets⟩ =
      .ok (typed imports type.name.1) ⟨left, brackets⟩ := by
  have hf : type.name.1.keyword? ≠ some .function_ :=
    keyword?_ne_of_isTypeName type.name.2 (by decide)
  change (next >>= fun t => skipNullable t >>= _) _ = _
  rw [skipNullable_run, if_neg hf]
  rfl

/-- `rest` stands behind the first semicolon of a tape whose brackets nest up to there. -/
def BehindStatement (tape rest : Tape) : Prop :=
  ∃ (skipped : List Token) (s : Sign .semicolon), tape.left = skipped ++ s.1 :: rest.left ∧
    (∀ u ∈ skipped, u.kind ≠ .semicolon) ∧ skipped.foldlM nest tape.brackets = some rest.brackets

/-- A statement that is passed over ends with the first semicolon. -/
theorem skipStatement_eq_ok_iff {tape rest : Tape} :
    skipStatement tape = .ok () rest ↔ BehindStatement tape rest := by
  constructor
  · intro h
    obtain ⟨skipped, ⟨others, opened⟩, htaken, h⟩ := bind_eq_ok h
    obtain ⟨s, ⟨others', opened'⟩, hnext, h⟩ := bind_eq_ok h
    cases h
    obtain ⟨rfl, -, rfl⟩ := next_eq_ok hnext
    obtain ⟨hl, hall, hs, hn⟩ := takeUntil_eq_ok htaken
    have hsemicolon : s.kind = .semicolon := by simpa using hs s rfl
    have hplain := plain_of_kind hsemicolon (by decide)
    refine ⟨skipped, ⟨s, hsemicolon⟩, hl, fun u hu => by simpa using hall u hu, ?_⟩
    rw [after_plain hplain.1 hplain.2]
    exact hn
  · rintro ⟨skipped, s, hl, hall, hn⟩
    obtain ⟨left, brackets⟩ := tape
    obtain rfl : left = skipped ++ s.1 :: rest.left := hl
    have htaken : takeUntil (·.kind == .semicolon) ⟨skipped ++ s.1 :: rest.left, brackets⟩ =
        .ok skipped ⟨s.1 :: rest.left, rest.brackets⟩ :=
      takeUntil_nested (fun u hu => by simpa using hall u hu) hn (by simp [s.2])
    rw [skipStatement, bind_run htaken, bind_run (next_sign s.2 (by decide))]
    rfl

theorem skipStatement_run {ts : List Token} (h : ∀ t ∈ ts, Idle t ∧ t.kind ≠ .semicolon)
    (s : Sign .semicolon) :
    skipStatement ⟨ts ++ s.1 :: left, brackets⟩ = .ok () ⟨left, brackets⟩ :=
  skipStatement_eq_ok_iff.2 ⟨ts, s, rfl, fun t ht => (h t ht).2,
    foldlM_nest_of_plain fun t ht => ⟨(h t ht).1.opened, (h t ht).1.closed⟩⟩

/-- What stands behind the type of a property. -/
theorem idle_ending (v : Token.Variable) {value : List Token}
    (hv : ∀ t ∈ value, Idle t ∧ t.kind ≠ .semicolon) (s : Sign .semicolon) :
    ∀ t ∈ v.1 :: (value ++ [s.1]), Idle t := by
  intro t ht
  simp only [List.mem_cons, List.mem_append, List.not_mem_nil, or_false] at ht
  obtain rfl | ht | rfl := ht
  · exact idle_variable v
  · exact (hv t ht).1
  · exact idle_semicolon s

/-- A property whose type is a keyword is passed over, at least in part. -/
theorem declared_builtIn (imports : Imports) (visibility : Visibility) {k : Keyword}
    (hk : k ∈ builtInKeywords) (v : Token.Variable) {value : List Token}
    (hv : ∀ t ∈ value, Idle t ∧ t.kind ≠ .semicolon) (s : Sign .semicolon) :
    ∃ tail, (∀ t ∈ tail, Idle t) ∧ ∀ left brackets,
      declared imports visibility k ⟨v.1 :: (value ++ s.1 :: left), brackets⟩ =
        .ok {} ⟨tail ++ left, brackets⟩ := by
  have hvar (left : List Token) (brackets : List Bracket) (f : Token → Read Member) :
      (next >>= fun t => skipNullable t >>= f) ⟨v.1 :: left, brackets⟩ = f v.1 ⟨left, brackets⟩ :=
    (bind_run (next_name v.2.1)).trans (bind_run (skipNullable_name v.2.1 _))
  have htyped : typed imports v.1 = {} := by rw [typed, type?_of_startsWith v.2.2]; rfl
  have hidle : ∀ t ∈ value ++ [s.1], Idle t := fun t ht =>
    idle_ending v hv s t (List.mem_cons_of_mem _ ht)
  have htail (left : List Token) : value ++ s.1 :: left = value ++ [s.1] ++ left := by simp
  simp only [builtInKeywords, List.mem_cons, List.not_mem_nil, or_false] at hk
  -- after `readonly` and `static` the variable is read where a type may stand
  rcases hk with rfl | rfl | hk
  · refine ⟨value ++ [s.1], hidle, fun left brackets => ?_⟩
    change (next >>= fun t => skipNullable t >>= _) _ = _
    rw [hvar, htyped, htail]
    rfl
  · refine ⟨value ++ [s.1], hidle, fun left brackets => ?_⟩
    change (next >>= fun t => skipNullable t >>= _) _ = _
    rw [hvar, if_neg (by simp [v.keyword?]), htyped, htail]
    rfl
  · refine ⟨[], by simp, fun left brackets => ?_⟩
    have hskip : declared imports visibility k = (do skipStatement; pure {}) := by
      rcases hk with rfl | rfl | rfl | rfl | rfl | rfl | rfl | rfl | rfl <;> rfl
    have hall : ∀ t ∈ v.1 :: value, Idle t ∧ t.kind ≠ .semicolon := by
      intro t ht
      obtain rfl | ht := List.mem_cons.1 ht
      · exact ⟨idle_variable v, by simp [beq_iff_eq.1 v.2.1]⟩
      · exact hv t ht
    rw [hskip, ← List.cons_append, bind_run (skipStatement_run hall s)]
    rfl

theorem readsOne_use (word : Reserved .use_) (type : TypeName) (s : Sign .semicolon) :
    ReadsOne imports (MemberText.use word type s).tokens (MemberText.use word type s).types := by
  intro left brackets
  refine ⟨{ types := [imports.resolve type.1] }, [s.1], ?_, by simpa using idle_semicolon s,
    accepted_resolve type.2⟩
  change member imports ⟨word.1 :: type.1 :: s.1 :: left, brackets⟩ = _
  rw [member_use word.2, bind_run (next_name (isIdentifier_of_isTypeName type.2))]
  rfl

/-- After a visibility, the type of a property is offered if it is not part of the language. -/
theorem visible_property (imports : Imports) (visibility : Visibility) (type : TypeText)
    (v : Token.Variable) (value : List Token) (hv : ∀ t ∈ value, Idle t ∧ t.kind ≠ .semicolon)
    (s : Sign .semicolon) (left : List Token) (brackets : List Bracket) :
    ∃ m tail, visible imports visibility ⟨type.tokens ++ v.1 :: (value ++ s.1 :: left), brackets⟩ =
        .ok m ⟨tail ++ left, brackets⟩ ∧
      (∀ t ∈ tail, Idle t) ∧ m = { types := [type.name.1].filterMap imports.type? } := by
  have hidle := idle_ending v hv s
  have htail : v.1 :: (value ++ s.1 :: left) = v.1 :: (value ++ [s.1]) ++ left := by simp
  rw [visible_type, List.filterMap_cons]
  cases hb : type.name.1.isBuiltInType with
  | false =>
    rw [type?_of_isTypeName type.name.2 hb, htail]
    exact ⟨_, _, rfl, hidle, rfl⟩
  | true =>
    rw [type?_of_isBuiltInType hb]
    cases hk : type.name.1.keyword? with
    | none =>
      rw [htail]
      exact ⟨_, _, rfl, hidle, rfl⟩
    | some k =>
      obtain ⟨tail, htail, hread⟩ :=
        declared_builtIn imports visibility (mem_builtInKeywords hb hk) v hv s
      exact ⟨_, tail, hread left brackets, htail, rfl⟩

theorem offered_typed (imports : Imports) (t : Token) :
    (typed imports t).offered = [t].filterMap imports.type? := by
  cases h : imports.type? t <;> simp [typed, Member.offered, h]

theorem readsOne_property (start : PropertyStart) (type : TypeText) (v : Token.Variable)
    (s : Sign .semicolon) :
    ReadsOne imports (MemberText.property start type v s).tokens
      (MemberText.property start type v s).types := by
  have hidle : ∀ t ∈ [v.1, s.1], Idle t := by
    simpa using ⟨idle_variable v, idle_semicolon s⟩
  have hnames : accepted (typed imports type.name.1).offered =
      accepted ([type.name.1].filterMap imports.type?) := by rw [offered_typed]
  have htokens (left : List Token) : (MemberText.property start type v s).tokens ++ left =
      start.tokens ++ (type.tokens ++ v.1 :: s.1 :: left) := by
    simp [MemberText.tokens]
  intro left brackets
  rw [htokens]
  cases start with
  | visible w =>
    obtain ⟨m, tail, hread, htail, rfl⟩ :=
      visible_property imports w.visibility type v [] (by simp) s left brackets
    exact ⟨_, tail, (member_visibilityWord imports w _ _).trans hread, htail,
      by simp [Member.offered, MemberText.types]⟩
  | static w word =>
    exact ⟨_, [v.1, s.1], (member_visibilityWord imports w _ _).trans
      ((visible_keyword word.2 (by decide)).trans (declared_static w.visibility type)), hidle,
      hnames⟩
  | readonly w? word =>
    cases w? with
    | none =>
      exact ⟨_, [v.1, s.1], (member_keyword word.2 (by decide) (by decide)).trans
        (declared_readonly .public_ type), hidle, hnames⟩
    | some w =>
      exact ⟨_, [v.1, s.1], (member_visibilityWord imports w _ _).trans
        ((visible_keyword word.2 (by decide)).trans (declared_readonly w.visibility type)), hidle,
        hnames⟩

/-! ## Reading methods -/

/-- Tokens without brackets of which just `types` may name types. -/
structure Lists (imports : Imports) (ts types : List Token) : Prop where
  plain : ∀ t ∈ ts, opened? t = none ∧ closed? t = none
  named : ts.filterMap imports.type? = types.filterMap imports.type?

namespace Lists

variable {ts us types others : List Token}

theorem nil : Lists imports [] [] := ⟨by simp, rfl⟩

theorem append (h₁ : Lists imports ts types) (h₂ : Lists imports us others) :
    Lists imports (ts ++ us) (types ++ others) :=
  ⟨fun t ht => (List.mem_append.1 ht).elim (h₁.plain t) (h₂.plain t), by
    rw [List.filterMap_append, List.filterMap_append, h₁.named, h₂.named]⟩

theorem flatMap {α : Type} {items : List α} {f g : α → List Token}
    (h : ∀ a ∈ items, Lists imports (f a) (g a)) :
    Lists imports (items.flatMap f) (items.flatMap g) := by
  induction items with
  | nil => exact nil
  | cons a items ih =>
    exact (h a (by simp)).append (ih fun b hb => h b (List.mem_cons_of_mem a hb))

theorem word (h : t.isIdentifier = true) : Lists imports [t] [t] :=
  ⟨by simpa using plain_of_isIdentifier h, rfl⟩

theorem silent (h : opened? t = none ∧ closed? t = none) (ht : imports.type? t = none) :
    Lists imports [t] [] :=
  ⟨by simpa using h, by simp [ht]⟩

theorem sign {kind : Kind} (s : Sign kind) (hi : kind ≠ .identifier)
    (h : kind ∉ Kind.brackets) : Lists imports [s.1] [] :=
  silent (plain_of_kind s.2 h) (type?_of_not_identifier (not_isIdentifier_of_kind s.2 hi))

theorem keyword {k : Keyword} (h : t.keyword? = some k) : Lists imports [t] [] :=
  silent (plain_of_isIdentifier (isIdentifier_of_keyword? h)) (type?_of_keyword? h)

theorem optional {α : Type} {item? : Option α} {f : α → Token}
    (h : ∀ a, Lists imports [f a] []) : Lists imports (item?.toList.map f) [] := by
  cases item? with
  | none => exact nil
  | some a => exact h a

end Lists

theorem lists_type (imports : Imports) (type : TypeText) :
    Lists imports type.tokens [type.name.1] :=
  (Lists.optional fun q => .sign q (by decide) (by decide)).append
    (.word (isIdentifier_of_isTypeName type.name.2))

theorem lists_param (imports : Imports) (p : ParamText) : Lists imports p.tokens p.types := by
  have hvisibility : Lists imports (p.visibility?.toList.map (·.1)) [] := .optional fun w => by
    obtain ⟨k, hk, -⟩ := w.keyword?
    exact .keyword hk
  have hreadonly : Lists imports (p.readonly?.toList.map (·.1)) [] := .optional fun w => .keyword w.2
  have hothers : Lists imports (p.others.flatMap fun other => [other.1.1, other.2.1])
      (p.others.flatMap fun other => [other.2.1]) := .flatMap fun other _ =>
    (Lists.sign other.1 (by decide) (by decide)).append (.word (isIdentifier_of_isTypeName other.2.2))
  have hreference : Lists imports (p.reference?.toList.map (·.1)) [] :=
    .optional fun r => .sign r (by decide) (by decide)
  have hdots : Lists imports
      (p.dots?.toList.flatMap fun dots => [dots.1.1, dots.2.1.1, dots.2.2.1]) [] := by
    cases p.dots? with
    | none => exact .nil
    | some dots =>
      have hdot (s : Sign .dot) : Lists imports [s.1] [] := .sign s (by decide) (by decide)
      exact (hdot dots.1).append ((hdot dots.2.1).append (hdot dots.2.2))
  have hname : Lists imports [p.name.1] [] :=
    .silent (plain_of_isIdentifier p.name.2.1) (type?_of_startsWith p.name.2.2)
  have h := hvisibility.append (hreadonly.append ((lists_type imports p.type).append
    (hothers.append (hreference.append (hdots.append hname)))))
  simpa [ParamText.tokens, ParamText.types, List.map_eq_flatMap] using h

theorem lists_params (imports : Imports) (m : MethodText) :
    Lists imports m.paramTokens m.paramTypes := by
  have hfirst : Lists imports (m.params.flatMap fun p => p.1.tokens ++ [p.2.1])
      (m.params.flatMap (·.1.types)) := .flatMap fun p _ => by
    have h := (lists_param imports p.1).append (.sign p.2 (by decide) (by decide))
    rwa [List.append_nil] at h
  exact hfirst.append (.flatMap fun p _ => lists_param imports p)

theorem filterMap_type?_filter (imports : Imports) (ts : List Token) :
    (ts.filter (!isParam ·)).filterMap imports.type? = ts.filterMap imports.type? := by
  induction ts with
  | nil => rfl
  | cons t ts ih =>
    cases hp : isParam t with
    | false => simp [hp, List.filterMap_cons, ih]
    | true =>
      have ht : imports.type? t = none := type?_of_startsWith hp
      simpa [hp, List.filterMap_cons, ht] using ih

/-- An empty body has no statements. -/
theorem body_empty (s : Sign .rightBrace) :
    body brackets.length ⟨s.1 :: left, .brace :: brackets⟩ = .ok [] ⟨left, brackets⟩ := by
  have hk : s.1.keyword? = none := keyword?_of_kind s.2 (by decide)
  obtain ⟨hf, hafter⟩ := closes_brace s brackets
  have hend : bodyFrom brackets.length {} left brackets = .ok [] ⟨left, brackets⟩ := by
    cases left <;> simp [bodyFrom]
  have htake (n : Nat) : Progress.take s.1 n {} = {} := by simp [Progress.take, hk]
  have hskip : Progress.skipsMember s.1 {} = false := by
    simp [Progress.skipsMember, Token.isMemberAccess, s.2]
  rw [body, bodyFrom]
  simpa [hf, hafter, hskip, htake] using hend

theorem returnType_text (imports : Imports) (m : MethodText) :
    returnType imports ⟨m.returnTokens ++ m.bodyOpening.1 :: left, brackets⟩ =
      .ok (m.return?.map (imports.resolve ·.2.name.1)) ⟨m.bodyOpening.1 :: left, brackets⟩ := by
  rw [MethodText.returnTokens]
  cases m.return? with
  | none =>
    have hcolon : nextIs (·.kind == .colon) ⟨m.bodyOpening.1 :: left, brackets⟩ =
        .ok false ⟨m.bodyOpening.1 :: left, brackets⟩ := by simp [nextIs, m.bodyOpening.2]
    exact bind_run hcolon
  | some r =>
    obtain ⟨⟨colon, hc⟩, type⟩ := r
    have hcolon (left : List Token) : nextIs (·.kind == .colon) ⟨colon :: left, brackets⟩ =
        .ok true ⟨colon :: left, brackets⟩ := by simp [nextIs, hc]
    rw [Option.toList_some, List.flatMap_singleton, List.cons_append, returnType,
      bind_run (hcolon _), if_pos rfl, bind_run (next_sign hc (by decide)), skipNullable_run]
    exact bind_run (takeUntil_run (by simp [m.bodyOpening.2]))

/-- **A method names the types of its parameters**, and what it returns. -/
theorem method_text (imports : Imports) (visibility : Visibility) (m : MethodText)
    (left : List Token) (brackets : List Bracket) :
    ∃ f, Reading.method imports visibility ⟨m.tokensFromName ++ left, brackets⟩ =
        .ok { types := m.paramTypes.filterMap imports.type?, method? := some f } ⟨left, brackets⟩ ∧
      f.returnType? = m.return?.map (imports.resolve ·.2.name.1) := by
  have hparams := lists_params imports m
  have htypes : ((m.paramTokens ++ [m.closing.1]).filter (!isParam ·)).filterMap imports.type? =
      m.paramTypes.filterMap imports.type? := by
    have hclosing : imports.type? m.closing.1 = none :=
      type?_of_not_identifier (not_isIdentifier_of_kind m.closing.2 (by decide))
    rw [filterMap_type?_filter, List.filterMap_append, hparams.named]
    simp [hclosing]
  have htokens : m.tokensFromName ++ left = m.name.1 :: m.opening.1 :: (m.paramTokens ++
      m.closing.1 :: (m.returnTokens ++ m.bodyOpening.1 :: m.bodyClosing.1 :: left)) := by
    simp [MethodText.tokensFromName]
  have hbrace : (m.bodyOpening.1.kind == .semicolon) = false := by simp [m.bodyOpening.2]
  rw [htokens, Reading.method, bind_run (next_name m.name.2), bind_run depth_run,
    bind_run (next_opening_of_kind .paren m.opening.2),
    bind_run (takeToDepth_nested (nesting_of_plain hparams.plain) m.closing.2), bind_run (returnType_text imports m),
    bind_run depth_run, bind_run (next_opening_of_kind .brace m.bodyOpening.2), hbrace,
    if_neg (by simp), bind_run (body_empty m.bodyClosing), htypes]
  exact ⟨_, rfl, rfl⟩

theorem readsOne_method (m : MethodText) : ReadsOne imports m.tokens m.types := by
  intro left brackets
  obtain ⟨f, hread, hreturn⟩ := method_text imports m.visibility.visibility m left brackets
  have hfunction := isIdentifier_of_keyword? m.function.2
  have hstart : visible imports m.visibility.visibility
      ⟨m.static?.toList.map (·.1) ++ m.function.1 :: m.tokensFromName ++ left, brackets⟩ =
        Reading.method imports m.visibility.visibility ⟨m.tokensFromName ++ left, brackets⟩ := by
    cases m.static? with
    | none => exact visible_keyword m.function.2 (by decide)
    | some word =>
      refine (visible_keyword word.2 (by decide)).trans ((bind_run (next_name hfunction)).trans ?_)
      rw [bind_run (skipNullable_name hfunction _), if_pos m.function.2]
      rfl
  have hnames : accepted (m.return?.map (imports.resolve ·.2.name.1)).toList =
      accepted ((m.return?.toList.map (·.2.name.1)).filterMap imports.type?) := by
    cases m.return? with
    | none => rfl
    | some r => exact accepted_resolve r.2.name.2
  refine ⟨{ types := m.paramTypes.filterMap imports.type?, method? := some f }, [],
    (member_visibilityWord imports m.visibility _ _).trans (hstart.trans hread), by simp, ?_⟩
  rw [Member.offered, MethodText.types, List.filterMap_append, accepted_append, accepted_append,
    ← hnames, ← hreturn]
  rfl

/-- **A member of a class offers just the types that it mentions.** -/
theorem MemberText.yields (m : MemberText) : Yields imports m.tokens m.types := by
  cases m with
  | use word type s => exact (readsOne_use word type s).yields
  | property start type v s => exact (readsOne_property start type v s).yields
  | method m => exact (readsOne_method m).yields

end Cyclomatic.Reading
