import Cyclomatic.Proofs.Outline.Body
import Cyclomatic.Proofs.Outline.Scan
import Cyclomatic.Proofs.Reading.Completion
import Cyclomatic.Proofs.Reading.Nesting

/-!
# A printed class is read back

The reading steps are run on the tokens of an outline from the inside out: parameters, return type,
method, member, the members of the class, the class, the file.

Main results: `MethodOutline.method_pieces`, `Outline.classDeclaration_pieces`,
`Outline.ofTokens_source`.
-/

set_option autoImplicit false

namespace Cyclomatic

open Token

/-! ## Methods -/

namespace MethodOutline

open Outline Reading

variable {left : List Token} {brackets : List Bracket}

theorem foldl_add_body (sts : List Statement) (p : Progress) (h : p.choices = []) :
    (sts.foldl (fun p s => p.add s) p) = ⟨[], sts.reverse ++ p.statements⟩ := by
  induction sts generalizing p with
  | nil =>
    obtain ⟨choices, statements⟩ := p
    obtain rfl : choices = [] := h
    rfl
  | cons s sts ih =>
    obtain ⟨choices, statements⟩ := p
    obtain rfl : choices = [] := h
    rw [List.foldl_cons, ih _ rfl]
    simp [Progress.add]

/-- The body of a method is read from its opening brace on. -/
theorem body_pieces (shapes : List Shape) :
    body brackets.length ⟨(Shape.piecesOfAll shapes ++ [mark .rightBrace]).map (Piece.token 1) ++
      left, .brace :: brackets⟩ = .ok (Shape.statements shapes) ⟨left, brackets⟩ := by
  have hr (sts : List Statement) :
      Progress.Ready brackets.length ⟨[], sts⟩ (.brace :: brackets : List Bracket).length :=
    ⟨fun _ => Nat.lt_succ_self _, by simp⟩
  have hclose : after ((mark .rightBrace).token 1) (.brace :: brackets) = brackets := rfl
  have hend (sts : List Statement) : bodyFrom brackets.length ⟨[], sts⟩ left brackets =
      .ok sts.reverse ⟨left, brackets⟩ := by
    cases left <;> simp [bodyFrom]
  have hstart : bodyFrom brackets.length {} ((Shape.piecesOfAll shapes).map (Piece.token 1) ++
      (mark .rightBrace).token 1 :: left) (.brace :: brackets) =
        .ok (Shape.statements shapes) ⟨left, brackets⟩ := by
    rw [Shape.bodyFrom_piecesOfAll shapes _ _ _ (hr []), foldl_add_body _ _ rfl,
      bodyFrom_cons (hr _).running rfl rfl, hclose,
      Progress.take_plain (by decide) (by decide) (by simp), hend]
    simp
  rw [List.map_append, List.append_assoc]
  exact hstart

theorem mem_listed {names : List (List Char)} {u : Token}
    (h : u ∈ (listed names).map (Piece.token 1)) :
    (∃ text ∈ names, u = (Piece.word text).token 1) ∨ u = (mark .comma).token 1 := by
  fun_induction listed names with
  | case1 => simp at h
  | case2 text => exact .inl ⟨text, by simp, by simpa using h⟩
  | case3 text other rest ih =>
    simp only [List.map_cons, List.mem_cons] at h
    obtain rfl | rfl | h := h
    · exact .inl ⟨text, by simp, rfl⟩
    · exact .inr rfl
    · obtain ⟨text', ht, rfl⟩ | rfl := ih h
      · exact .inl ⟨text', by simp [ht], rfl⟩
      · exact .inr rfl

theorem isParam_word {text : List Char} (h : text.head? = some '$') :
    isParam ((Piece.word text).token 1) = true := by
  simp [isParam, startsWith, Piece.word, Piece.token, h]

theorem countP_listed {names : List (List Char)} (h : ∀ text ∈ names, text.head? = some '$') :
    ((listed names).map (Piece.token 1)).countP isParam = names.length := by
  fun_induction listed names with
  | case1 => rfl
  | case2 text => simp [isParam_word (h text (by simp))]
  | case3 text other rest ih =>
    have hcomma : isParam ((mark .comma).token 1) = false := rfl
    simp only [List.map_cons, List.countP_cons, isParam_word (h text (by simp)), hcomma,
      ih fun t ht => h t (by simp [ht])]
    simp

theorem head?_paramNames {params : Nat} {text : List Char} (h : text ∈ paramNames params) :
    text.head? = some '$' := by
  obtain ⟨i, -, rfl⟩ := List.mem_map.1 h
  rfl

/-- A list of parameters names no type. -/
theorem types_listed (imports : Imports) (params : Nat) :
    ((((listed (paramNames params)).map (Piece.token 1) ++
      [(Piece.sign .rightParen).token 1]).filter (!isParam ·)).filterMap imports.type?) = [] := by
  refine List.filterMap_eq_nil_iff.2 fun u hu => ?_
  obtain ⟨hu, hp⟩ := List.mem_filter.1 hu
  obtain hu | hu := List.mem_append.1 hu
  · obtain ⟨text, ht, rfl⟩ | rfl := mem_listed hu
    · simp [isParam_word (head?_paramNames ht)] at hp
    · rfl
  · obtain rfl := List.mem_singleton.1 hu
    rfl

theorem returnPieces_tokens (type? : Option Word) :
    (returnPieces type?).map (Piece.token 1) =
      (Piece.sign .rightParen).token 1 :: (returnPieces type?).tail.map (Piece.token 1) := by
  cases type? <;> rfl

/-- The return type is read up to the body or the semicolon. -/
theorem returnType_pieces (imports : Imports) (type? : Option Word) {t : Token}
    (ht : t.kind = .leftBrace ∨ t.kind = .semicolon) :
    returnType imports
        ⟨(returnPieces type?).tail.map (Piece.token 1) ++ t :: left, brackets⟩ =
      .ok (type?.map fun type => imports.resolve ⟨.identifier, 1, type.name⟩)
        ⟨t :: left, brackets⟩ := by
  cases type? with
  | none =>
    have hcolon : nextIs (·.kind == .colon) ⟨t :: left, brackets⟩ =
        .ok false ⟨t :: left, brackets⟩ := by
      obtain h | h := ht <;> simp [nextIs, h]
    exact bind_run hcolon
  | some type =>
    have hstop : (t.kind == .leftBrace || t.kind == .semicolon) = true := by
      obtain h | h := ht <;> simp [h]
    refine (bind_run rfl).trans ((bind_run (next_run rfl)).trans ?_)
    refine (bind_run (next_run rfl)).trans ?_
    exact (bind_run rfl).trans (bind_run (takeUntil_run hstop))

/-- **A method is read back** from its name on. -/
theorem method_pieces (c : Outline) (m : MethodOutline) :
    Reading.method c.imports m.visibility
        ⟨m.piecesFromName.map (Piece.token 1) ++ left, brackets⟩ =
      .ok { method? := some (c.method m) } ⟨left, brackets⟩ := by
  have hplain : ∀ u ∈ (listed (paramNames m.params)).map (Piece.token 1),
      opened? u = none ∧ closed? u = none := fun u hu => by
    obtain ⟨text, -, rfl⟩ | rfl := mem_listed hu <;> exact ⟨rfl, rfl⟩
  have hcount : ((listed (paramNames m.params)).map (Piece.token 1) ++
      [(Piece.sign .rightParen).token 1]).countP isParam = m.params := by
    have hclose : isParam ((Piece.sign .rightParen).token 1) = false := rfl
    rw [List.countP_append, countP_listed fun _ => head?_paramNames]
    simp [paramNames, hclose]
  simp only [piecesFromName, List.map_cons, List.map_append, returnPieces_tokens,
    List.append_assoc, List.cons_append]
  -- all that the return type sees of the body is its first token
  have hbody : ∃ t ts, (bodyPieces m.body?).map (Piece.token 1) ++ left = t :: ts ∧
      (t.kind = .leftBrace ∨ t.kind = .semicolon) := by
    cases m.body? with
    | none => exact ⟨_, _, rfl, .inr rfl⟩
    | some shapes => exact ⟨_, _, rfl, .inl rfl⟩
  obtain ⟨t, ts, htokens, ht⟩ := hbody
  rw [Reading.method, bind_run (next_plain rfl rfl), bind_run depth_run,
    bind_run (next_opening rfl rfl), bind_run (takeToDepth_nested (nesting_of_plain hplain) rfl),
    htokens, bind_run (returnType_pieces _ _ ht), ← htokens, bind_run depth_run, types_listed, hcount]
  cases hb : m.body? with
  | none =>
    rw [bodyPieces, List.map_cons, List.cons_append, bind_run (next_plain rfl rfl)]
    simp only [Outline.method, hb]
    rfl
  | some shapes =>
    rw [bodyPieces, List.map_cons, List.cons_append, bind_run (next_opening rfl rfl)]
    simp only [Outline.method, hb]
    exact bind_run (body_pieces shapes)

/-- A visibility starts a member. -/
theorem member_visibility {imports : Imports} {v : Visibility} {a : Member} {rest : Tape}
    (h : visible imports v ⟨left, brackets⟩ = .ok a rest) :
    member imports ⟨(keyword v.keyword).token 1 :: left, brackets⟩ = .ok a rest := by
  cases v <;> exact (bind_run (takeUntil_run rfl)).trans ((bind_run (next_plain rfl rfl)).trans h)

/-- **A member is read back.** -/
theorem member_pieces (c : Outline) (m : MethodOutline) :
    member c.imports ⟨m.pieces.map (Piece.token 1) ++ left, brackets⟩ =
      .ok { method? := some (c.method m) } ⟨left, brackets⟩ := by
  refine member_visibility ?_
  refine (bind_run (next_plain rfl rfl)).trans ?_
  exact (bind_run rfl).trans ((bind_run rfl).trans (method_pieces c m))

end MethodOutline

/-! ## Classes -/

namespace Outline

open Reading

variable {left : List Token} {brackets : List Bracket}

/-- The members of a class are read back; its closing brace is taken for a member without
contents. -/
theorem membersFrom_pieces (c : Outline) (ms : List MethodOutline) :
    membersFrom c.imports brackets.length
        ⟨(ms.flatMap MethodOutline.pieces ++ [Piece.sign .rightBrace]).map (Piece.token 1) ++ left,
          .brace :: brackets⟩ =
      .ok ((ms.map c.method).map (fun m => ({ method? := some m } : Member)) ++ [({} : Member)])
        ⟨left, brackets⟩ := by
  have hd (left : List Token) :
      Tape.depth ⟨left, .brace :: brackets⟩ ≠ brackets.length := Nat.succ_ne_self _
  induction ms with
  | nil =>
    -- a token that starts no member is taken all the same, and with it the class ends
    have hend : membersFrom c.imports brackets.length ⟨left, brackets⟩ =
        .ok [] ⟨left, brackets⟩ := by
      have hdepth : Tape.depth ⟨left, brackets⟩ = brackets.length := rfl
      rw [membersFrom, if_pos hdepth]
    exact membersFrom_cons (hd _)
      ((bind_run (takeUntil_run rfl)).trans (bind_run (next_run rfl))) hend
  | cons m ms ih =>
    rw [List.flatMap_cons, List.append_assoc, List.map_append, List.append_assoc]
    exact membersFrom_cons (hd _) (m.member_pieces c) ih

theorem foldl_addTo (ms : List Method) (d : Class) :
    (ms.map fun m => ({ method? := some m } : Member)).foldl Member.addTo d =
      { d with
        methods := d.methods ++ ms
        dependencies := (ms.filterMap Method.returnType?).foldl Class.offer d.dependencies } := by
  induction ms generalizing d with
  | nil => simp
  | cons m ms ih =>
    rw [List.map_cons, List.foldl_cons, ih, addTo_eq]
    cases hr : m.returnType? <;> simp [Member.offered, hr]

/-- What a class says of its parent is read up to the brace. -/
theorem parent_pieces (imports : Imports) (parent? : Option Word) :
    parent imports ⟨(parentPieces parent?).map (Piece.token 1) ++
        (mark .leftBrace).token 1 :: left, brackets⟩ =
      .ok (parent?.map fun type => imports.resolve ⟨.identifier, 1, type.name⟩)
        ⟨(mark .leftBrace).token 1 :: left, brackets⟩ := by
  cases parent? with
  | none => exact bind_run rfl
  | some type =>
    have hextends : nextIs (·.keyword? = some .extends_)
        ⟨(parentPieces (some type)).map (Piece.token 1) ++ (mark .leftBrace).token 1 :: left,
          brackets⟩ = .ok true _ := rfl
    rw [parent, bind_run hextends]
    change (next >>= _) ⟨(keyword .extends_).token 1 :: type.piece.spaced.token 1 ::
      (mark .leftBrace).token 1 :: left, brackets⟩ = _
    rw [bind_run (next_plain rfl rfl), bind_run (next_plain rfl rfl)]
    rfl

/-- Without imports, completing a class only puts its methods in order. -/
theorem complete_imports (c : Outline) (d : Class) :
    complete c.imports d =
      { d with methods := d.methods.mergeSort fun a b => b.complexity ≤ a.complexity } := by
  have hreal : d.parent?.map c.imports.realName = d.parent? := by
    cases d.parent? <;> rfl
  have huses : c.imports.uses.foldl Class.addDependency d = d := rfl
  simp only [complete, huses, hreal]
  rfl

/-- **A class is read back** from its name on. -/
theorem classDeclaration_pieces (c : Outline) :
    classDeclaration c.imports c.isAbstract
        ⟨c.piecesFromName.map (Piece.token 1) ++ left, brackets⟩ =
      .ok c.toClass ⟨left, brackets⟩ := by
  have hmembers : members c.imports brackets.length _ = .ok _ ⟨left, brackets⟩ :=
    c.membersFrom_pieces c.methods
  have hinterfaces (left : List Token) : interfaces ⟨(mark .leftBrace).token 1 :: left, brackets⟩ =
      .ok [] ⟨(mark .leftBrace).token 1 :: left, brackets⟩ := bind_run rfl
  rw [piecesFromName, List.map_cons, List.map_append, List.map_cons, List.cons_append,
    List.append_assoc, List.cons_append, classDeclaration, bind_run (next_plain rfl rfl),
    bind_run (parent_pieces _ _), bind_run (hinterfaces _), bind_run depth_run,
    bind_run (next_opening rfl rfl), bind_run hmembers, List.foldl_append, foldl_addTo,
    List.filterMap_map, complete_imports]
  rfl

/-! ## Files -/

/-- The file ends with its class. -/
theorem fileFrom_pieces (c : Outline) :
    fileFrom ⟨⟨c.declarationPieces.map (Piece.token 1), []⟩, c.imports⟩ =
      .ok (some c.toClass) ⟨⟨[], []⟩, c.imports⟩ := by
  have hclass := @classDeclaration_pieces [] [] c
  rw [List.append_nil] at hclass
  have hread : (do
      let state ← get
      some <$> onTape (classDeclaration state.imports c.isAbstract) : FileRead (Option Class))
        ⟨⟨_, []⟩, c.imports⟩ = .ok (some c.toClass) ⟨⟨[], []⟩, c.imports⟩ :=
    (bind_run rfl).trans (map_run some (onTape_run hclass))
  rw [declarationPieces]
  cases ha : c.isAbstract with
  | false =>
    rw [ha] at hread
    exact fileFrom_class (next?_run rfl) hread
  | true =>
    rw [ha] at hread
    exact fileFrom_class (next?_run rfl) ((bind_run (onTape_run (next_run rfl))).trans hread)

/-- **The source of an outline is read back as its class.** -/
theorem ofTokens_source (c : Outline) :
    ∃ tokens, ofText c.source = .ok tokens ∧ Class.ofTokens tokens = .ok (some c.toClass) := by
  refine ⟨_, c.ofText_source, ?_⟩
  have htag : fileFrom { tape := ⟨c.pieces.map (Piece.token 1), []⟩ } = fileFrom _ :=
    fileFrom_pass (next?_run rfl) rfl
  have hnamespace (left : List Token) : declaration ((keyword .namespace_).token 1)
      ⟨⟨c.base.piece.token 1 :: left, []⟩, {}⟩ = .ok none ⟨⟨left, []⟩, c.imports⟩ :=
    (bind_run (onTape_run (next_plain rfl rfl))).trans (bind_run rfl)
  have hfile : file (c.pieces.map (Piece.token 1)) =
      .ok (some c.toClass) ⟨⟨[], []⟩, c.imports⟩ := by
    refine htag.trans ((fileFrom_pass (next?_run rfl) (hnamespace _)).trans ?_)
    exact (fileFrom_pass (next?_run rfl) rfl).trans c.fileFrom_pieces
  rw [Class.ofTokens, hfile]

example :
    Outline.source
      { base := ⟨['A'], by decide⟩
        name := ⟨['B'], by decide⟩
        isAbstract := true
        parent? := some ⟨['C'], by decide⟩
        methods := [
          { name := ⟨['f'], by decide⟩
            visibility := .public_
            params := 2
            returnType? := some ⟨['T'], by decide⟩
            body? := some [.switch_ 1 [.match_ 1, .decision .if_], .decision .throw_] }] } =
      "<?php namespace A; abstract class B extends C \x7b " ++
      "public function f($p1, $p2): T \x7b switch ($x) \x7b case 1: match ($x) \x7b 1 => 1, \x7d; " ++
      "if ($x) \x7b\x7d \x7d throw $x; \x7d \x7d" := by
  decide +kernel

end Outline

end Cyclomatic
