import Cyclomatic.Proofs.Reading.Modifiers

/-!
# Attributes between the members of a class

An attribute is no member: its tokens are read one after the other as members that add nothing. But
a word in it that is spelled like a keyword is taken for the start of a member, also if it is the name
of a member of another class, behind an access. A modifier is passed over, with the token behind it,
unless that can be a type; `unread` is what is left from the first other keyword on.

An attribute that is passed over leaves no trace. Any other one is read from that keyword on as a
member: one that starts no member takes everything with it up to the next semicolon, also in the body
of the method that follows (`file_of_attribute`).
-/

set_option autoImplicit false

namespace Cyclomatic.Reading

open Token

/-! ## Attributes -/

/-- The brackets of all sorts. -/
def groupKinds : List (Kind × Kind) :=
  [(.leftParen, .rightParen), (.leftBracket, .rightBracket), (.leftBrace, .rightBrace)]

/-- All brackets are closed, in order. -/
inductive Balanced : List Token → Prop
  | nil : Balanced []
  | other {t : Token} {ts : List Token} (h : ∀ pair ∈ groupKinds, t.kind ≠ pair.1 ∧ t.kind ≠ pair.2)
      (hts : Balanced ts) : Balanced (t :: ts)
  | group {opening closing : Token} {inner ts : List Token}
      (h : (opening.kind, closing.kind) ∈ groupKinds) (hi : Balanced inner) (hts : Balanced ts) :
      Balanced (opening :: (inner ++ closing :: ts))

/-- `#[…]`. -/
structure Attribute where
  hash : Sign .hash
  opening : Sign .leftBracket
  inner : List Token
  closing : Sign .rightBracket
  balanced : Balanced inner

def Attribute.tokens (a : Attribute) : List Token :=
  a.hash.1 :: a.opening.1 :: (a.inner ++ [a.closing.1])

/-- Every word in it that is spelled like a keyword stands right behind an access. -/
def Attribute.NamesMembers (a : Attribute) : Prop :=
  a.tokens.IsChain fun access t => t.keyword?.isSome = true → access.kind = .colonColon

/-- The keywords that a member starts with before its own. -/
def modifierWords : List Keyword :=
  [.abstract_, .public_, .private_, .protected_, .readonly_, .static_]

/-- The keywords that a member starts with; a constant is passed over. -/
def memberWords : List Keyword := .use_ :: .function_ :: modifierWords

/-- Whether a token is passed over with the one behind it. -/
def passesWith (t u : Token) : Bool :=
  t.keyword?.any modifierWords.contains && !u.isIdentifier && u.kind != .question

/-- What is left of tokens from the first keyword on that is not passed over. -/
def unread : List Token → List Token
  | [] => []
  | [t] => if t.keyword? = none then [] else [t]
  | t :: u :: ts =>
    if t.keyword? = none then unread (u :: ts)
    else if passesWith t u then unread ts
    else t :: u :: ts

variable {imports : Imports} {t u : Token} {left ts : List Token}
  {brackets inner opened : List Bracket} {k : Keyword} {p : Place}

/-! ## Brackets -/

theorem plain_of_not_group (h : ∀ pair ∈ groupKinds, t.kind ≠ pair.1 ∧ t.kind ≠ pair.2) :
    opened? t = none ∧ closed? t = none := by
  refine plain_of_kind rfl ?_
  simp only [groupKinds, List.mem_cons, List.not_mem_nil, or_false, forall_eq_or_imp, forall_eq] at h
  simp [Kind.brackets, h]

/-- Two brackets that belong together open and close the same bracket, if any. -/
theorem exists_nest_of_group {closing : Token} (h : (t.kind, closing.kind) ∈ groupKinds) :
    ∃ b, nest [] t = some b ∧ nest b closing = some [] := by
  simp only [groupKinds, List.mem_cons, List.not_mem_nil, or_false, Prod.mk.injEq] at h
  obtain ⟨ht, hc⟩ | ⟨ht, hc⟩ | ⟨ht, hc⟩ := h
  · exact ⟨[.paren], by simp [nest, ht], by simp [nest, hc]⟩
  · exact ⟨[], by simp [nest, ht], by simp [nest, hc]⟩
  · exact ⟨[.brace], by simp [nest, ht], by simp [nest, hc]⟩

theorem Balanced.nesting (h : Balanced ts) : nesting ts = some [] := by
  induction h with
  | nil => rfl
  | @other t ts h hts ih =>
    obtain ⟨ho, hc⟩ := plain_of_not_group h
    rw [Reading.nesting, foldlM_nest_of_nest (nest_plain ho hc)]
    exact ih
  | @group opening closing inner ts h hi hts ihi ihts =>
    obtain ⟨b, hopen, hclose⟩ := exists_nest_of_group h
    have hinner : inner.foldlM nest b = some b := foldlM_nest_append b ihi
    rw [Reading.nesting, foldlM_nest_of_nest hopen, List.foldlM_append, hinner]
    exact (foldlM_nest_of_nest hclose).trans ihts

theorem Attribute.nesting (a : Attribute) : nesting a.tokens = some [] := by
  have hpair : (a.opening.1.kind, a.closing.1.kind) ∈ groupKinds := by
    rw [a.opening.2, a.closing.2]
    decide
  refine Balanced.nesting (.other ?_ (.group hpair a.balanced .nil))
  rw [a.hash.2]
  decide

/-! ## Single words -/

/-- A modifier takes the token behind it, which is no type. -/
theorem member_modifier (hk : t.keyword? = some k) (hm : k ∈ modifierWords)
    (hi : u.isIdentifier = false) (hq : u.kind ≠ .question) (hf : fault? u brackets = none) :
    member imports ⟨t :: u :: left, brackets⟩ = .ok {} ⟨left, after u brackets⟩ := by
  have hu := keyword?_of_not_identifier hi
  have htype : imports.type? u = none := type?_of_not_identifier hi
  have hnullable (tape : Tape) : skipNullable u tape = .ok u tape := by
    rw [skipNullable, if_neg (by simpa using hq)]
    rfl
  have htyped : typed imports u = {} := by rw [typed, htype]; rfl
  have hvisible (v : Visibility) :
      visible imports v ⟨u :: left, brackets⟩ = .ok {} ⟨left, after u brackets⟩ := by
    rw [visible, bind_run (next_run hf), bind_run (skipAbstract_other (by simp [hu]) _),
      bind_run (hnullable _), htype, hu]
    rfl
  simp only [modifierWords, List.mem_cons, List.not_mem_nil, or_false] at hm
  obtain rfl | rfl | rfl | rfl | rfl | rfl := hm
  · exact (member_abstract ⟨t, hk⟩).trans (member_of_no_keyword hu hf)
  all_goals refine (member_keyword hk (by decide) (by decide)).trans ?_
  · exact hvisible _
  · exact hvisible _
  · exact hvisible _
  · refine (bind_run (next_run hf)).trans ((bind_run (hnullable _)).trans ?_)
    rw [htyped]
    rfl
  · refine (bind_run (next_run hf)).trans ((bind_run (hnullable _)).trans ?_)
    rw [if_neg (by simp [hu]), htyped]
    rfl

/-- A keyword that starts no member passes over what stands behind it. -/
theorem member_skipping (hk : t.keyword? = some k) (hm : k ∉ memberWords) :
    member imports ⟨t :: left, brackets⟩ = (do
      skipStatement
      pure {} : Read Member) ⟨left, brackets⟩ := by
  rw [member_keyword hk (by rintro rfl; exact hm (by decide)) (by rintro rfl; exact hm (by decide))]
  cases k <;> first | rfl | exact absurd (by decide) hm

/-! ## Places -/

theorem Place.next_inside (ho : p.outside < p.brackets.length) (inner : List Bracket) :
    (p.next {} (inner ++ p.brackets)).Inside := by
  have hlength : (inner ++ p.brackets).length = inner.length + p.brackets.length :=
    List.length_append
  unfold Place.Inside Place.next
  dsimp only
  omega

theorem exists_of_passesWith (h : passesWith t u = true) :
    (∃ k, t.keyword? = some k ∧ k ∈ modifierWords) ∧ u.isIdentifier = false ∧ u.kind ≠ .question := by
  simp only [passesWith, Bool.and_eq_true, Option.any_eq_true, List.contains_iff_mem,
    Bool.not_eq_true', bne_iff_ne] at h
  exact ⟨h.1.1, h.1.2, h.2⟩

theorem resume_word {middle : List Bracket} (ho : p.outside < p.brackets.length)
    (hk : t.keyword? = none) (hm : nest inner t = some middle) (left : List Token) :
    (p.next {} (inner ++ p.brackets)).resume (t :: left) =
      (p.next {} (middle ++ p.brackets)).resume left := by
  obtain ⟨hf, hafter⟩ := nest_eq_some (nest_append p.brackets hm)
  rw [hafter]
  exact Place.resume_member (Place.next_inside ho inner) (member_of_no_keyword hk hf)

theorem resume_passesWith {middle : List Bracket} (ho : p.outside < p.brackets.length)
    (hp : passesWith t u = true) (hm : nest inner u = some middle) (left : List Token) :
    (p.next {} (inner ++ p.brackets)).resume (t :: u :: left) =
      (p.next {} (middle ++ p.brackets)).resume left := by
  obtain ⟨⟨k, hk, hword⟩, hi, hq⟩ := exists_of_passesWith hp
  obtain ⟨hf, hafter⟩ := nest_eq_some (nest_append p.brackets hm)
  rw [hafter]
  exact Place.resume_member (Place.next_inside ho inner) (member_modifier hk hword hi hq hf)

/-- **What is passed over leaves nothing but its brackets open.** -/
theorem resume_unread (ho : p.outside < p.brackets.length) (hn : ts.foldlM nest inner = some opened) :
    ∃ passed inside, ts = passed ++ unread ts ∧ passed.foldlM nest inner = some inside ∧
      ∀ after, (p.next {} (inner ++ p.brackets)).resume (ts ++ after) =
        (p.next {} (inside ++ p.brackets)).resume (unread ts ++ after) := by
  fun_induction unread ts generalizing inner with
  | case1 | case3 | case6 => exact ⟨[], inner, rfl, rfl, fun after => rfl⟩
  | case2 t hk =>
    rw [List.foldlM_cons] at hn
    obtain ⟨middle, hm, hl⟩ := Option.bind_eq_some_iff.1 hn
    cases hl
    exact ⟨[t], opened, rfl, by simp [hm], resume_word ho hk hm⟩
  | case4 t u ts hk ih =>
    rw [List.foldlM_cons] at hn
    obtain ⟨middle, hm, hl⟩ := Option.bind_eq_some_iff.1 hn
    obtain ⟨passed, inside, hts, hpassed, hread⟩ := ih hl
    refine ⟨t :: passed, inside, congrArg (t :: ·) hts, ?_, fun after => ?_⟩
    · exact (foldlM_nest_of_nest hm).trans hpassed
    · exact (resume_word ho hk hm _).trans (hread after)
  | case5 t u ts hk hp ih =>
    obtain ⟨⟨k, hword, -⟩, -⟩ := exists_of_passesWith hp
    obtain ⟨hopened, hclosed⟩ := plain_of_isIdentifier (isIdentifier_of_keyword? hword)
    rw [foldlM_nest_of_nest (nest_plain hopened hclosed), List.foldlM_cons] at hn
    obtain ⟨middle, hm, hl⟩ := Option.bind_eq_some_iff.1 hn
    obtain ⟨passed, inside, hts, hpassed, hread⟩ := ih hl
    refine ⟨t :: u :: passed, inside, congrArg (t :: u :: ·) hts, ?_, fun after => ?_⟩
    · rw [foldlM_nest_of_nest (nest_plain hopened hclosed), foldlM_nest_of_nest hm]
      exact hpassed
    · exact (resume_passesWith ho hp hm _).trans (hread after)

theorem keyword?_of_unread {rest : List Token} (h : unread ts = t :: rest) :
    ∃ k, t.keyword? = some k := by
  fun_induction unread ts with
  | case1 => cases h
  | case2 => cases h
  | case3 u hu =>
    cases h
    exact Option.ne_none_iff_exists'.1 hu
  | case4 _ _ _ _ ih => exact ih h
  | case5 _ _ _ _ _ ih => exact ih h
  | case6 u v ts hu _ =>
    cases h
    exact Option.ne_none_iff_exists'.1 hu

theorem resume_skipping (hi : p.Inside) (hk : t.keyword? = some k) (hm : k ∉ memberWords) :
    (∀ behind, BehindStatement ⟨left, p.brackets⟩ behind →
      p.resume (t :: left) = (p.next {} behind.brackets).resume behind.left) ∧
    ∀ c state, p.resume (t :: left) = .ok (some c) state →
      ∃ behind, BehindStatement ⟨left, p.brackets⟩ behind := by
  refine ⟨fun behind h => ?_, fun c state h => ?_⟩
  · refine Place.resume_member hi ((member_skipping hk hm).trans ?_)
    rw [bind_run (skipStatement_eq_ok_iff.2 h)]
    rfl
  · obtain ⟨m, rest, opened, hread, -⟩ := Place.exists_member hi h
    rw [member_skipping hk hm] at hread
    obtain ⟨_, behind, hskip, -⟩ := bind_eq_ok hread
    exact ⟨behind, skipStatement_eq_ok_iff.1 hskip⟩

/-- The token behind `use` is recorded as the name of a trait. -/
theorem resume_use (ho : p.outside < p.brackets.length) (hk : t.keyword? = some .use_)
    {rest : List Token} (hn : (u :: rest).foldlM nest inner = some []) (hr : unread rest = [])
    (after : List Token) :
    (p.next {} (inner ++ p.brackets)).resume (t :: u :: (rest ++ after)) =
      (p.next { types := [p.imports.resolve u] } p.brackets).resume after := by
  rw [List.foldlM_cons] at hn
  obtain ⟨middle, hm, hl⟩ := Option.bind_eq_some_iff.1 hn
  obtain ⟨hf, hafter⟩ := nest_eq_some (nest_append p.brackets hm)
  have hmember : member p.imports ⟨t :: u :: (rest ++ after), inner ++ p.brackets⟩ =
      .ok { types := [p.imports.resolve u] } ⟨rest ++ after, middle ++ p.brackets⟩ := by
    rw [member_use hk, bind_run (next_run hf), hafter]
    rfl
  have ho' : (p.next { types := [p.imports.resolve u] } p.brackets).outside <
      (p.next { types := [p.imports.resolve u] } p.brackets).brackets.length := ho
  obtain ⟨passed, inside, hrest, hpassed, hread⟩ := resume_unread ho' hl
  rw [hr, List.append_nil] at hrest
  subst hrest
  obtain rfl : inside = [] := Option.some.inj (hpassed.symm.trans hl)
  have hfinal := hread after
  rw [hr] at hfinal
  exact (Place.resume_member (Place.next_inside ho inner) hmember).trans hfinal

/-- **What an attribute changes.** One that is passed over leaves no trace. Any other one has a keyword,
which is read as the start of a member at the place, in front of what is left of the attribute and
what stands behind it. If no member starts with the keyword, everything is lost up to the next
semicolon, without which no class is read; if that one stands where no more brackets are open, the
file is read as if nothing up to it were there. -/
theorem file_of_attribute {before : List Token} (hp : p.StandsBehind before)
    (ho : p.outside < p.brackets.length) (a : Attribute) (after : List Token) :
    (unread a.tokens = [] → file (before ++ (a.tokens ++ after)) = file (before ++ after)) ∧
    ∀ t rest, unread a.tokens = t :: rest → ∃ k passed inside,
      t.keyword? = some k ∧ a.tokens = passed ++ t :: rest ∧ nesting passed = some inside ∧
      file (before ++ (a.tokens ++ after)) =
        (p.next {} (inside ++ p.brackets)).resume (t :: (rest ++ after)) ∧
      (k ∉ memberWords →
        (∀ behind, BehindStatement ⟨rest ++ after, inside ++ p.brackets⟩ behind →
          file (before ++ (a.tokens ++ after)) = (p.next {} behind.brackets).resume behind.left ∧
          (behind.brackets = p.brackets →
            file (before ++ (a.tokens ++ after)) = file (before ++ behind.left))) ∧
        ∀ c state, file (before ++ (a.tokens ++ after)) = .ok (some c) state →
          ∃ behind, BehindStatement ⟨rest ++ after, inside ++ p.brackets⟩ behind) ∧
      (k = .use_ → ∀ u others, rest = u :: others → unread others = [] →
        file (before ++ (a.tokens ++ after)) =
          (p.next { types := [p.imports.resolve u] } p.brackets).resume after) := by
  obtain ⟨passed, inside, htokens, hpassed, hread⟩ := resume_unread ho a.nesting
  have hread : file (before ++ (a.tokens ++ after)) =
      (p.next {} (inside ++ p.brackets)).resume (unread a.tokens ++ after) :=
    (hp _).trans (hread after)
  have hbehind : (unread a.tokens).foldlM nest inside = some [] := by
    have hnesting := a.nesting
    rw [htokens, nesting, List.foldlM_append, hpassed] at hnesting
    exact hnesting
  refine ⟨fun hu => ?_, fun t rest hu => ?_⟩
  · rw [hu] at hbehind hread
    cases hbehind
    rw [hread, hp]
    rfl
  rw [hu] at htokens hbehind hread
  obtain ⟨k, hk⟩ := keyword?_of_unread hu
  obtain ⟨hopened, hclosed⟩ := plain_of_isIdentifier (isIdentifier_of_keyword? hk)
  refine ⟨k, passed, inside, hk, htokens, hpassed, hread, fun hm => ?_, fun hw u others hrest hr => ?_⟩
  · obtain ⟨hskip, hends⟩ := resume_skipping (Place.next_inside ho inside) hk hm
    refine ⟨fun behind h => ?_, fun c state h => hends c state (hread ▸ h)⟩
    have hfile := hread.trans (hskip behind h)
    refine ⟨hfile, fun hb => ?_⟩
    rw [hfile, hb, hp]
    rfl
  · subst hw hrest
    rw [foldlM_nest_of_nest (nest_plain hopened hclosed)] at hbehind
    exact hread.trans (resume_use ho hk hbehind hr after)

/-- `#[X(Y::…)]`. -/
def attributeOf (word : String) : Attribute where
  hash := sign .hash "#"
  opening := sign .leftBracket "["
  inner := [⟨.identifier, 1, "X"⟩, ⟨.leftParen, 1, "("⟩, ⟨.identifier, 1, "Y"⟩,
    ⟨.colonColon, 1, "::"⟩, ⟨.identifier, 1, word⟩, ⟨.rightParen, 1, ")"⟩]
  closing := sign .rightBracket "]"
  balanced := by
    have hname (text : String) {ts : List Token} (h : Balanced ts) :
        Balanced (⟨.identifier, 1, text⟩ :: ts) := .other (by simp [groupKinds]) h
    have haccess {ts : List Token} (h : Balanced ts) : Balanced (⟨.colonColon, 1, "::"⟩ :: ts) :=
      .other (by simp [groupKinds]) h
    exact hname _ (@Balanced.group _ _ [_, _, _] [] (by simp [groupKinds])
      (hname _ (haccess (hname _ .nil))) .nil)

/-- `public function f() { g(); } }`. -/
def publicF : List Token :=
  [⟨.identifier, 1, "public"⟩, ⟨.identifier, 1, "function"⟩, ⟨.identifier, 1, "f"⟩,
    ⟨.leftParen, 1, "("⟩, ⟨.rightParen, 1, ")"⟩, ⟨.leftBrace, 1, "\x7b"⟩, ⟨.identifier, 1, "g"⟩,
    ⟨.leftParen, 1, "("⟩, ⟨.rightParen, 1, ")"⟩, ⟨.semicolon, 1, ";"⟩, ⟨.rightBrace, 1, "\x7d"⟩,
    ⟨.rightBrace, 1, "\x7d"⟩]

/-- The method behind an attribute is read, or it is lost with the first statement of its body. -/
theorem file_of_attribute_of_publicF :
    insideA.StandsBehind openingOfA ∧ insideA.outside < insideA.brackets.length ∧
      file (openingOfA ++ ((attributeOf "private").tokens ++ publicF)) =
        file (openingOfA ++ publicF) ∧
      file (openingOfA ++ ((attributeOf "class").tokens ++ publicF)) =
        (insideA.next {} [.brace, .brace]).resume (publicF.drop 10) := by
  have ho : insideA.outside < insideA.brackets.length := by decide
  refine ⟨insideA_standsBehind, ho, ?_, ?_⟩
  · exact (file_of_attribute insideA_standsBehind ho (attributeOf "private") publicF).1 (by decide)
  · obtain ⟨k, passed, inside, hk, htokens, hinside, -, hskips, -⟩ :=
      (file_of_attribute insideA_standsBehind ho (attributeOf "class") publicF).2 _ _ rfl
    have hsplit : (attributeOf "class").tokens.take 6 ++ (attributeOf "class").tokens.drop 6 =
        passed ++ _ := htokens
    obtain rfl := List.append_inj_left' hsplit rfl
    obtain rfl : Keyword.class_ = k := Option.some.inj hk
    obtain rfl : [.paren] = inside := Option.some.inj hinside
    refine ((hskips (by decide)).1 ⟨publicF.drop 10, [.brace, .brace]⟩ ?_).1
    exact ⟨⟨.rightParen, 1, ")"⟩ :: ⟨.rightBracket, 1, "]"⟩ :: publicF.take 9, sign .semicolon ";", rfl,
      by decide, by decide⟩

/-- A method is lost behind an attribute that names a class. -/
theorem not_forall_methods_of_attribute :
    ¬ ∀ (p : Place) (before after : List Token) (a : Attribute) (c : Class) (state : State),
      p.StandsBehind before → p.outside < p.brackets.length → a.NamesMembers →
      file (before ++ after) = .ok (some c) state →
      ∃ d last, file (before ++ (a.tokens ++ after)) = .ok (some d) last ∧ d.name = c.name ∧
        d.parent? = c.parent? ∧ d.interfaces = c.interfaces ∧ d.methods = c.methods ∧
        d.dependencies = c.dependencies := by
  intro hall
  have hwithout : (classRead? (file (openingOfA ++ publicF))).map (·.1.methods.map (·.name)) =
      some ["f"] := by decide +kernel
  have hwith : (classRead? (file (openingOfA ++ ((attributeOf "class").tokens ++ publicF)))).map
      (·.1.methods.map (·.name)) = some [] := by decide +kernel
  obtain ⟨⟨c, state⟩, hread, hc⟩ := Option.map_eq_some_iff.1 hwithout
  have hnames : (attributeOf "class").NamesMembers := by
    unfold Attribute.NamesMembers
    decide
  obtain ⟨d, last, hfile, -, -, -, hmethods, -⟩ := hall insideA openingOfA publicF (attributeOf "class")
    c state insideA_standsBehind (by decide) hnames (eq_of_classRead? hread)
  rw [hfile] at hwith
  have hd : d.methods.map (·.name) = [] := Option.some.inj hwith
  rw [hmethods, hc] at hd
  cases hd

end Cyclomatic.Reading
