import Cyclomatic.Proofs.Reading.Imports
import Cyclomatic.Proofs.Reading.Mentions
import Cyclomatic.Token.Scan
import Mathlib.Data.List.Forall2

/-!
# Dependencies in the order of the text

The dependencies of a class are what the types that its members mention stand for, in the order of the
text, then its imports (`dependencies_of_text`).
-/

set_option autoImplicit false

namespace Cyclomatic.Reading

open Token

/-! ## The text of a file -/

/-- `[abstract] class C [extends P] [implements I, …] { … }`, or a trait. All interfaces but the last
are followed by commas. -/
structure ClassText where
  abstract? : Option (Reserved .abstract_)
  word : { t : Token // t.keyword? = some .class_ ∨ t.keyword? = some .trait_ }
  name : Name
  parent? : Option (Reserved .extends_ × Name)
  interfaces? : Option (Reserved .implements_ × List (Name × Sign .comma) × Name)
  opening : Sign .leftBrace
  members : List MemberText
  closing : Sign .rightBrace

namespace ClassText

/-- `extends P`, if there is a parent. -/
def parentTokens (c : ClassText) : List Token :=
  c.parent?.toList.flatMap fun p => [p.1.1, p.2.1]

/-- `implements I, …`, if there are interfaces. -/
def interfaceTokens (c : ClassText) : List Token :=
  c.interfaces?.toList.flatMap fun i =>
    i.1.1 :: (i.2.1.flatMap (fun name => [name.1.1, name.2.1]) ++ [i.2.2.1])

/-- The class from its name on. -/
def tokensFromName (c : ClassText) : List Token :=
  c.name.1 :: (c.parentTokens ++ (c.interfaceTokens ++ c.opening.1 ::
    (c.members.flatMap MemberText.tokens ++ [c.closing.1])))

def tokens (c : ClassText) : List Token :=
  c.abstract?.toList.map (·.1) ++ c.word.1 :: c.tokensFromName

/-- The types that the members mention, in the order of the text. -/
def types (c : ClassText) : List Token := c.members.flatMap MemberText.types

end ClassText

/-- `<?php namespace N; use Q; … class C { … }`. -/
structure FileText where
  tag : Sign .phpTag
  namespaceWord : Reserved .namespace_
  base : Name
  semicolon : Sign .semicolon
  uses : List UseStatement
  plain : ∀ u ∈ uses, u.other? = none
  declaredClass : ClassText

namespace FileText

def tokens (f : FileText) : List Token :=
  f.tag.1 :: f.namespaceWord.1 :: f.base.1 :: f.semicolon.1 ::
    (f.uses.flatMap UseStatement.tokens ++ f.declaredClass.tokens)

/-- The imported names. -/
def useNames (f : FileText) : List String := f.uses.map (·.name.1.lexeme)

/-- The names of the types that are mentioned and are not part of the language. -/
def typeNames (f : FileText) : List String :=
  (f.declaredClass.types.filter (!·.isBuiltInType)).map (·.lexeme)

/-- What is known about names where the class starts. -/
def imports (f : FileText) : Imports := { base := f.base.1.lexeme, uses := f.useNames }

end FileText

/-! ## What names stand for -/

/-- What the name of a type stands for in a namespace with some imports. -/
inductive StandsFor (base : String) (uses : List String) (name : String) : String → Prop where
  | absolute (h : startsWith name '\\' = true) : StandsFor base uses name name
  | imported {use : String} (h : startsWith name '\\' = false) (hu : use ∈ uses)
    (hl : lastSegment use = name) : StandsFor base uses name use
  | relative (h : startsWith name '\\' = false) (hu : ∀ use ∈ uses, lastSegment use ≠ name) :
    StandsFor base uses name (base ++ "\\" ++ name)

theorem standsFor_iff {imports : Imports} (hd : imports.Distinct) {t : Token}
    (hb : t.isBuiltInType = false) {name : String} :
    StandsFor imports.base imports.uses t.lexeme name ↔ name = imports.resolve t := by
  have hresolve (h : startsWith t.lexeme '\\' = false) : imports.resolve t =
      (imports.uses.find? (lastSegment · == t.lexeme)).getD (imports.base ++ "\\" ++ t.lexeme) := by
    rw [Imports.resolve, hb, h]
    cases imports.uses.find? (lastSegment · == t.lexeme) <;> rfl
  constructor
  · rintro (h | ⟨h, hu, hl⟩ | ⟨h, hu⟩)
    · simp [Imports.resolve, h]
    · rw [hresolve h, (find?_key_eq_some hd).2 ⟨hu, hl⟩]
      rfl
    · rw [hresolve h, List.find?_eq_none.2 fun use hm => by simpa using hu use hm]
      rfl
  · rintro rfl
    cases h : startsWith t.lexeme '\\' with
    | true =>
      have hr : imports.resolve t = t.lexeme := by simp [Imports.resolve, h]
      rw [hr]
      exact .absolute h
    | false =>
      rw [hresolve h]
      cases hf : imports.uses.find? (lastSegment · == t.lexeme) with
      | none => exact .relative h fun use hm => by simpa using List.find?_eq_none.1 hf use hm
      | some use =>
        obtain ⟨hu, hl⟩ := (find?_key_eq_some hd).1 hf
        exact .imported h hu hl

theorem forall₂_iff_eq_map {α β : Type} {r : α → β → Prop} {f : α → β} {l : List α}
    (h : ∀ a ∈ l, ∀ b, r a b ↔ b = f a) (others : List β) :
    List.Forall₂ r l others ↔ others = l.map f := by
  induction l generalizing others with
  | nil => simp
  | cons a l ih =>
    rw [List.forall₂_cons_left_iff, List.map_cons]
    constructor
    · rintro ⟨b, bs, hb, hbs, rfl⟩
      rw [(h a (by simp) b).1 hb, (ih (fun a ha => h a (List.mem_cons_of_mem _ ha)) bs).1 hbs]
    · rintro rfl
      exact ⟨f a, l.map f, (h a (by simp) _).2 rfl,
        (ih (fun a ha => h a (List.mem_cons_of_mem _ ha)) _).2 rfl, rfl⟩

/-! ## Reading the class -/

variable (imports : Imports) (left : List Token) (brackets : List Bracket)

theorem parent_text (c : ClassText) : ∃ parent?,
    parent imports ⟨c.parentTokens ++ (c.interfaceTokens ++ c.opening.1 :: left), brackets⟩ =
      .ok parent? ⟨c.interfaceTokens ++ c.opening.1 :: left, brackets⟩ := by
  rw [ClassText.parentTokens]
  cases c.parent? with
  | none =>
    have hextends : nextIs (·.keyword? = some .extends_)
        ⟨c.interfaceTokens ++ c.opening.1 :: left, brackets⟩ =
          .ok false ⟨c.interfaceTokens ++ c.opening.1 :: left, brackets⟩ := by
      rw [ClassText.interfaceTokens]
      cases c.interfaces? with
      | none =>
        have ho := keyword?_of_kind c.opening.2 (by decide)
        simp [nextIs, ho]
      | some i => simp [nextIs, i.1.2]
    exact ⟨none, bind_run hextends⟩
  | some p =>
    obtain ⟨⟨word, hw⟩, ⟨name, hn⟩⟩ := p
    have hextends (left : List Token) : nextIs (·.keyword? = some .extends_)
        ⟨word :: left, brackets⟩ = .ok true ⟨word :: left, brackets⟩ := by simp [nextIs, hw]
    refine ⟨some (imports.resolve name), ?_⟩
    rw [Option.toList_some, List.flatMap_singleton, List.cons_append, List.cons_append, parent,
      bind_run (hextends _), if_pos rfl, bind_run (next_name (isIdentifier_of_keyword? hw)),
      bind_run (next_name hn)]
    rfl

theorem interfaces_text (c : ClassText) : ∃ names,
    interfaces ⟨c.interfaceTokens ++ c.opening.1 :: left, brackets⟩ =
      .ok names ⟨c.opening.1 :: left, brackets⟩ := by
  rw [ClassText.interfaceTokens]
  cases c.interfaces? with
  | none =>
    have ho := keyword?_of_kind c.opening.2 (by decide)
    have himplements : nextIs (·.keyword? = some .implements_) ⟨c.opening.1 :: left, brackets⟩ =
        .ok false ⟨c.opening.1 :: left, brackets⟩ := by simp [nextIs, ho]
    exact ⟨[], bind_run himplements⟩
  | some i =>
    obtain ⟨⟨word, hw⟩, names, last⟩ := i
    have himplements (left : List Token) : nextIs (·.keyword? = some .implements_)
        ⟨word :: left, brackets⟩ = .ok true ⟨word :: left, brackets⟩ := by simp [nextIs, hw]
    have hname (n : Name) : (n.1.kind == .leftBrace) = false ∧ opened? n.1 = none ∧
        closed? n.1 = none :=
      ⟨by simp [beq_iff_eq.1 n.2], plain_of_isIdentifier n.2⟩
    have hcomma (s : Sign .comma) : (s.1.kind == .leftBrace) = false ∧ opened? s.1 = none ∧
        closed? s.1 = none := ⟨by simp [s.2], plain_of_kind s.2 (by decide)⟩
    have hlist : ∀ u ∈ names.flatMap (fun name => [name.1.1, name.2.1]) ++ [last.1],
        (u.kind == .leftBrace) = false ∧ opened? u = none ∧ closed? u = none := by
      intro u hu
      simp only [List.mem_append, List.mem_flatMap, List.mem_cons, List.not_mem_nil, or_false] at hu
      rcases hu with ⟨pair, -, rfl | rfl⟩ | rfl
      · exact hname pair.1
      · exact hcomma pair.2
      · exact hname last
    refine ⟨((names.flatMap (fun name => [name.1.1, name.2.1]) ++ [last.1]).filter
      (·.kind != .comma)).map (·.lexeme), ?_⟩
    rw [Option.toList_some, List.flatMap_singleton, List.cons_append, interfaces,
      bind_run (himplements _), if_pos rfl, bind_run (next_name (isIdentifier_of_keyword? hw)),
      bind_run (takeUntil_append hlist (by simp [c.opening.2]))]
    rfl

theorem yields_members (ms : List MemberText) :
    Yields imports (ms.flatMap MemberText.tokens) (ms.flatMap MemberText.types) := by
  induction ms with
  | nil => exact Yields.nil
  | cons m ms ih => exact m.yields.append ih

/-- The brace that closes a class is taken for a member without contents. -/
theorem membersFrom_closing (s : Sign .rightBrace) :
    membersFrom imports brackets.length ⟨s.1 :: left, .brace :: brackets⟩ =
      .ok [{}] ⟨left, brackets⟩ := by
  have hk : s.1.keyword? = none := keyword?_of_kind s.2 (by decide)
  have hmember : member imports ⟨s.1 :: left, .brace :: brackets⟩ = .ok {} ⟨left, brackets⟩ := by
    obtain ⟨hf, hafter⟩ := closes_brace s brackets
    rw [member_run (by simp [hk]) (next_run hf), hafter, hk]
    rfl
  have hdepth : Tape.depth ⟨left, brackets⟩ = brackets.length := rfl
  refine membersFrom_cons (Nat.succ_ne_self _) hmember ?_
  rw [membersFrom, if_pos hdepth]

/-- **A class records the types that its members mention**, in the order of the text. -/
theorem classBody_text (isAbstract : Bool) (c : ClassText) :
    ∃ d names, classBody imports isAbstract ⟨c.tokensFromName ++ left, brackets⟩ =
        .ok d ⟨left, brackets⟩ ∧
      d.dependencies = names.foldl Class.offer [] ∧
      accepted names = accepted (c.types.filterMap imports.type?) := by
  have htokens : c.tokensFromName ++ left = c.name.1 :: (c.parentTokens ++ (c.interfaceTokens ++
      c.opening.1 :: (c.members.flatMap MemberText.tokens ++ c.closing.1 :: left))) := by
    simp [ClassText.tokensFromName]
  obtain ⟨ms, hms, hnames⟩ := yields_members imports c.members brackets.length (.brace :: brackets)
    (c.closing.1 :: left) [{}] ⟨left, brackets⟩ (Nat.succ_ne_self _)
    (membersFrom_closing imports left brackets c.closing)
  obtain ⟨parent?, hparent⟩ := parent_text imports
    (c.members.flatMap MemberText.tokens ++ c.closing.1 :: left) brackets c
  obtain ⟨names, hinterfaces⟩ := interfaces_text
    (c.members.flatMap MemberText.tokens ++ c.closing.1 :: left) brackets c
  have hmembers : members imports brackets.length _ = _ := hms
  rw [htokens, classBody, bind_run (next_name c.name.2), bind_run hparent, bind_run hinterfaces,
    bind_run depth_run, bind_run (next_opening_of_kind .brace c.opening.2),
    bind_run hmembers]
  refine ⟨_, (ms ++ [({} : Member)]).flatMap Member.offered, rfl, ?_, ?_⟩
  · rw [dependencies_foldl_addTo]
  · rw [List.flatMap_append, accepted_append, hnames]
    simp [Member.offered, accepted, ClassText.types]

/-! ## Reading the file -/

theorem declaration_class {imports : Imports} {tape rest : Tape} {isAbstract : Bool} {d : Class}
    (h : classBody imports isAbstract tape = .ok d rest) :
    (do
      let state ← get
      some <$> onTape (classDeclaration state.imports isAbstract) : FileRead (Option Class))
        ⟨tape, imports⟩ = .ok (some (complete imports d)) ⟨rest, imports⟩ := by
  have hd : classDeclaration imports isAbstract tape = .ok (complete imports d) rest := by
    rw [classDeclaration_eq, map_run _ h]
  exact (bind_run rfl).trans (map_run some (onTape_run hd))

/-- A file ends with its class, completed with the imports before it. -/
theorem fileFrom_class_text (c : ClassText) :
    ∃ d names, fileFrom ⟨⟨c.tokens ++ left, brackets⟩, imports⟩ =
        .ok (some (complete imports d)) ⟨⟨left, brackets⟩, imports⟩ ∧
      d.dependencies = names.foldl Class.offer [] ∧
      accepted names = accepted (c.types.filterMap imports.type?) := by
  obtain ⟨d, names, hd, h⟩ := classBody_text imports left brackets c.abstract?.isSome c
  refine ⟨d, names, ?_, h⟩
  have hword : c.word.1.isIdentifier = true := by
    rcases c.word.2 with hk | hk <;> exact isIdentifier_of_keyword? hk
  rw [ClassText.tokens, List.append_assoc]
  cases ha : c.abstract? with
  | none =>
    rw [ha] at hd
    refine fileFrom_class (next?_name hword) ?_
    rcases c.word.2 with hk | hk <;> simp only [declaration, hword, hk, if_true] <;>
      exact declaration_class hd
  | some word =>
    rw [ha] at hd
    have hi := isIdentifier_of_keyword? word.2
    refine fileFrom_class (next?_name hi) ?_
    simp only [declaration, hi, word.2, if_true]
    exact (bind_run (onTape_run (next_name hword))).trans (declaration_class hd)

/-- Plain use statements add the names of imports, and no alias. -/
theorem declareAll_plain {us : List UseStatement} (h : ∀ u ∈ us, u.other? = none)
    (imports : Imports) :
    declareAll (us.map UseStatement.declared) imports =
      { imports with uses := imports.uses ++ us.map (·.name.1.lexeme) } := by
  induction us generalizing imports with
  | nil => simp [declareAll]
  | cons u us ih =>
    have hu : u.declared.addTo imports = imports.use u.name.1.lexeme := by
      rw [UseStatement.declared, h u (by simp)]
      rfl
    have hstep : declareAll ((u :: us).map UseStatement.declared) imports =
        declareAll (us.map UseStatement.declared) (imports.use u.name.1.lexeme) := by
      rw [← hu]
      rfl
    rw [hstep, ih fun v hv => h v (List.mem_cons_of_mem u hv)]
    simp [Imports.use]

theorem file_text (f : FileText) (left : List Token) :
    ∃ d names, file (f.tokens ++ left) =
        .ok (some (complete f.imports d)) ⟨⟨left, []⟩, f.imports⟩ ∧
      d.dependencies = names.foldl Class.offer [] ∧
      accepted names = accepted (f.declaredClass.types.filterMap f.imports.type?) := by
  obtain ⟨d, names, hd, h⟩ := fileFrom_class_text f.imports left [] f.declaredClass
  refine ⟨d, names, ?_, h⟩
  have htag (left : List Token) (imports : Imports) :
      fileFrom ⟨⟨f.tag.1 :: left, []⟩, imports⟩ = fileFrom ⟨⟨left, []⟩, imports⟩ :=
    fileFrom_sign f.tag.2 (by decide) (by decide)
  have hsemicolon (left : List Token) (imports : Imports) :
      fileFrom ⟨⟨f.semicolon.1 :: left, []⟩, imports⟩ = fileFrom ⟨⟨left, []⟩, imports⟩ :=
    fileFrom_sign f.semicolon.2 (by decide) (by decide)
  have htokens : f.tokens ++ left = f.tag.1 :: f.namespaceWord.1 :: f.base.1 :: f.semicolon.1 ::
      (f.uses.flatMap UseStatement.tokens ++ (f.declaredClass.tokens ++ left)) := by
    simp [FileText.tokens]
  rw [file, htokens, htag, fileFrom_namespace, hsemicolon, fileFrom_uses, declareAll_plain f.plain]
  exact hd

/-- The types that are mentioned and not part of the language are resolved. -/
theorem filterMap_type?_of_isTypeName {imports : Imports} {ts : List Token} (h : ∀ t ∈ ts, t.isTypeName = true) :
    ts.filterMap imports.type? = (ts.filter (!·.isBuiltInType)).map imports.resolve := by
  induction ts with
  | nil => rfl
  | cons t ts ih =>
    have hts := ih fun u hu => h u (List.mem_cons_of_mem t hu)
    cases hb : t.isBuiltInType with
    | true => simp [hb, type?_of_isBuiltInType hb, hts]
    | false => simp [hb, type?_of_isTypeName (h t (by simp)) hb, hts]

/-- **The dependencies of a class follow its text**: they are what the types that its members mention
stand for, in the order of the text, then the imports; names that start with no capital are left out,
and so are later occurrences of a name. -/
theorem dependencies_of_text (f : FileText) (left : List Token)
    (hd : (f.useNames.map lastSegment).Nodup) :
    ∃ c names, Class.ofTokens (f.tokens ++ left) = .ok (some c) ∧
      (∀ others, List.Forall₂ (StandsFor f.base.1.lexeme f.useNames) f.typeNames others ↔
        others = names) ∧
      c.dependencies = ((names ++ f.useNames).filter Class.isDependencyName).eraseDups := by
  obtain ⟨d, names, hfile, hoffered, hnames⟩ := file_text f left
  have htypes : f.declaredClass.types.filterMap f.imports.type? =
      (f.declaredClass.types.filter (!·.isBuiltInType)).map f.imports.resolve := by
    refine filterMap_type?_of_isTypeName fun t ht => ?_
    obtain ⟨m, -, hm⟩ := List.mem_flatMap.1 ht
    exact MemberText.isTypeName_of_mem hm
  refine ⟨complete f.imports d, f.declaredClass.types.filterMap f.imports.type?, ?_, fun others => ?_,
    ?_⟩
  · rw [Class.ofTokens, hfile]
  · rw [htypes, FileText.typeNames, List.forall₂_map_left_iff]
    refine forall₂_iff_eq_map (fun t ht name => ?_) others
    have hdistinct : f.imports.Distinct := hd
    exact standsFor_iff hdistinct (by simpa using (List.mem_filter.1 ht).2)
  · -- without aliases, what is recorded are the dependencies
    have hreal : f.imports.realName = id := funext (Imports.realName_of_no_alias rfl)
    have hrecorded : recorded f.imports d = (accepted (names ++ f.useNames)).eraseDups := by
      rw [recorded, hoffered, ← List.foldl_append]
      exact Class.foldl_offer_nil _
    rw [complete_eq, hrecorded, hreal, List.map_id, accepted_append, hnames, ← accepted_append]
    rfl

/-- The tokens of `sampleSource`. -/
def sample : FileText where
  tag := sign .phpTag "<?php"
  namespaceWord := reserved .namespace_
  base := name "App"
  semicolon := sign .semicolon ";"
  uses := [⟨reserved .use_, name "Lib\\Clock", none, sign .semicolon ";"⟩,
    ⟨reserved .use_, name "Lib\\Log", none, sign .semicolon ";"⟩]
  plain := by simp
  declaredClass :=
    { abstract? := none
      word := ⟨(reserved .class_).1, .inl (reserved .class_).2⟩
      name := name "A"
      parent? := none
      interfaces? := none
      opening := sign .leftBrace "\x7b"
      members := [
        .use (reserved .use_) ⟨(name "T").1, by decide +kernel⟩ (sign .semicolon ";"),
        .property (.visible ⟨(reserved .private_).1, rfl⟩)
          ⟨some (sign .question "?"), ⟨(name "Clock").1, by decide +kernel⟩⟩
          ⟨(name "$c").1, rfl, rfl⟩ (sign .semicolon ";"),
        .method
          { visibility := ⟨(reserved .public_).1, rfl⟩
            static? := some (reserved .static_)
            function := reserved .function_
            name := name "f"
            opening := sign .leftParen "("
            params := [
              ({ visibility? := none
                 readonly? := none
                 type := ⟨none, ⟨(name "string").1, by decide +kernel⟩⟩
                 others := [(sign .pipe "|", ⟨(name "Foo").1, by decide +kernel⟩)]
                 reference? := some (sign .reference "&")
                 dots? := none
                 name := ⟨(name "$x").1, rfl, rfl⟩ }, sign .comma ",")]
            last? := some
              { visibility? := none
                readonly? := none
                type := ⟨none, ⟨(name "\\Bar").1, by decide +kernel⟩⟩
                others := []
                reference? := none
                dots? := some (sign .dot ".", sign .dot ".", sign .dot ".")
                name := ⟨(name "$y").1, rfl, rfl⟩ }
            closing := sign .rightParen ")"
            return? := some (sign .colon ":",
              ⟨some (sign .question "?"), ⟨(name "self").1, by decide +kernel⟩⟩)
            bodyOpening := sign .leftBrace "\x7b"
            bodyClosing := sign .rightBrace "\x7d" }]
      closing := sign .rightBrace "\x7d" }

def sampleSource : String :=
  "<?php namespace App; use Lib\\Clock; use Lib\\Log; class A \x7b use T; private ?Clock $c; " ++
  "public static function f(string|Foo &$x, \\Bar ...$y): ?self \x7b\x7d \x7d"

theorem dependencies_of_text_of_sample :
    Token.ofText sampleSource = .ok sample.tokens ∧
      (sample.useNames.map lastSegment).Nodup ∧ ∃ c, Class.ofTokens sample.tokens = .ok (some c) ∧
        c.dependencies = ["App\\T", "Lib\\Clock", "App\\Foo", "Lib\\Log"] := by
  have hd : (sample.useNames.map lastSegment).Nodup := by decide +kernel
  refine ⟨?_, hd, ?_⟩
  · decide +kernel
  obtain ⟨c, names, hc, hnames, hdependencies⟩ := dependencies_of_text sample [] hd
  have htypes : sample.typeNames = ["T", "Clock", "Foo", "\\Bar"] := by decide +kernel
  have hresolved : ["App\\T", "Lib\\Clock", "App\\Foo", "\\Bar"] = names := by
    rw [← hnames, htypes]
    refine .cons (.relative rfl (by decide +kernel)) (.cons (.imported rfl (by decide +kernel) rfl) ?_)
    exact .cons (.relative rfl (by decide +kernel)) (.cons (.absolute rfl) .nil)
  rw [List.append_nil] at hc
  refine ⟨c, hc, ?_⟩
  rw [hdependencies, ← hresolved]
  decide +kernel

end Cyclomatic.Reading
