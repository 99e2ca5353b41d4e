import Cyclomatic.Proofs.Outline

/-!
# The tokens of an outline's source

`ofText_source`: scanning the source of an outline gives the tokens of its pieces, all on the first
line. `Inline ps`: the pieces are read back whatever follows them, without a newline. A blank makes
it so for a single piece (`inline_spaced`), a bracket is so by itself (`inline_bracket`), a name or
a digit with the piece behind it (`inline_word`, `inline_digit`), and it passes from parts to their
concatenation.
-/

set_option autoImplicit false

namespace Cyclomatic

open Token

namespace Token.Piece

/-- The pieces read where they stand, whatever follows, and hold no newline. -/
structure Inline (ps : List Piece) : Prop where
  reads : ∀ rest, ReadsAll rest ps
  newline : ∀ p ∈ ps, '\n' ∉ p.written

theorem inline_nil : Inline [] := ⟨fun _ => trivial, by simp⟩

theorem Inline.append {ps qs : List Piece} (hp : Inline ps) (hq : Inline qs) :
    Inline (ps ++ qs) :=
  ⟨fun rest => readsAll_append.2 ⟨hp.reads _, hq.reads rest⟩,
    List.forall_mem_append.2 ⟨hp.newline, hq.newline⟩⟩

theorem Inline.cons {p : Piece} {ps : List Piece} (hp : Inline [p]) (hps : Inline ps) :
    Inline (p :: ps) :=
  hp.append hps

theorem Inline.flatten {parts : List (List Piece)} (h : ∀ part ∈ parts, Inline part) :
    Inline parts.flatten := by
  induction parts with
  | nil => exact inline_nil
  | cons part parts ih =>
    rw [List.flatten_cons]
    exact (h part (by simp)).append (ih fun p hp => h p (by simp [hp]))

/-- A piece that reads before a blank reads anywhere with a blank behind it. -/
theorem inline_spaced {p : Piece} (h : ∀ rest, p.Reads (' ' :: rest)) (hn : '\n' ∉ p.text) :
    Inline [p.spaced] :=
  ⟨fun _ => ⟨⟨h _, by simp [spaced, isBlank]⟩, trivial⟩, by simpa [spaced, written] using hn⟩

theorem inline_bracket {kind : Kind}
    (h : kind ∈ [.leftParen, .rightParen, .leftBrace, .rightBrace, .comma, .semicolon]) :
    Inline [sign kind] := by
  refine ⟨fun _ => ⟨⟨reads_bracket h, by simp [sign]⟩, trivial⟩, ?_⟩
  have hall : ∀ k ∈ [Kind.leftParen, .rightParen, .leftBrace, .rightBrace, .comma, .semicolon],
      '\n' ∉ (sign k).written := by decide
  simpa using hall kind h

theorem newline_not_mem_word {text : List Char} (h : isIdentifierText text = true) :
    '\n' ∉ text := by
  cases text with
  | nil => simp
  | cons c cs =>
    simp only [isIdentifierText, Bool.and_eq_true, List.all_eq_true] at h
    rw [List.mem_cons, not_or]
    exact ⟨(Head.ne_of_test h.1 (by decide)).symm,
      fun hm => absurd (h.2 _ hm) (by decide)⟩

/-- A name reads before a piece that does not go on with it. -/
theorem inline_word {text : List Char} {q : Piece} {d : Char} {qs : List Piece}
    (h : isIdentifierText text = true) (hq : q.text.head? = some d)
    (hd : Head.continuesIdentifier d = false) (hqs : Inline (q :: qs)) :
    Inline (word text :: q :: qs) := by
  refine ⟨fun rest => ⟨⟨reads_word h ?_, by simp [word]⟩, hqs.reads rest⟩, ?_⟩
  · intro c hc
    simp [word, written, List.head?_append, hq] at hc
    rwa [← hc]
  · exact List.forall_mem_cons.2
      ⟨by simpa [word, written] using newline_not_mem_word h, hqs.newline⟩

/-- So does a digit. -/
theorem inline_digit {c d : Char} {q : Piece} {qs : List Piece} (hc : c.isDigit = true)
    (hq : q.text.head? = some d) (hd : Text.isDigit d = false ∧ d ≠ '.')
    (hqs : Inline (q :: qs)) : Inline (integer [c] :: q :: qs) := by
  refine ⟨fun rest => ⟨⟨reads_integer hc (by simp) ?_, by simp [integer]⟩, hqs.reads rest⟩, ?_⟩
  · intro e he
    simp [integer, written, List.head?_append, hq] at he
    rwa [← he]
  · refine List.forall_mem_cons.2 ⟨?_, hqs.newline⟩
    simpa [integer, written] using (Head.ne_of_test hc (by decide)).symm

end Token.Piece

open Token.Piece

namespace Outline

theorem inline_piece (w : Word) : Inline [w.piece.spaced] :=
  inline_spaced (fun _ => reads_word w.isIdentifier (by simp; decide))
    (newline_not_mem_word w.isIdentifier)

theorem isIdentifierText_spelling (k : Keyword) : isIdentifierText k.spelling.toList = true := by
  cases k <;> decide

theorem inline_keyword (k : Keyword) : Inline [keyword k] :=
  inline_piece ⟨k.spelling.toList, isIdentifierText_spelling k⟩

theorem inline_mark {kind : Kind} {text : List Char} (h : kind.sign? = some text) :
    Inline [mark kind] :=
  inline_spaced (fun _ => reads_sign h (by simp [isBlank])) (by cases kind <;> cases h <;> decide)

theorem inline_head : Inline head :=
  (inline_bracket (by decide)).cons <| inline_word (by decide) rfl (by decide) (inline_mark rfl)

theorem inline_arm : Inline arm :=
  (inline_spaced (fun _ => reads_integer (by decide) (by simp) (by simp; decide))
    (by decide)).cons <|
    (inline_mark rfl).cons <| inline_digit (by decide) rfl (by decide) (inline_mark rfl)

theorem inline_label : Inline label :=
  (inline_keyword _).cons <| inline_digit (by decide) rfl (by decide) (inline_mark rfl)

end Outline

/-! ## Statements -/

namespace Shape

open Outline

mutual

theorem inline_pieces (s : Shape) : Inline s.pieces := by
  have hblock : Inline [.sign .leftBrace, mark .rightBrace] :=
    (inline_bracket (by decide)).cons (inline_mark rfl)
  have hopen {ps : List Piece} (hps : Inline ps) :
      Inline (head ++ mark .leftBrace :: ps) :=
    inline_head.append ((inline_mark rfl).cons hps)
  cases s with
  | decision kind =>
    cases kind with
    | throw_ =>
      exact (inline_keyword _).cons
        (inline_word (by decide) rfl (by decide) (inline_mark rfl))
    | _ => exact (inline_keyword _).cons (inline_head.append hblock)
  | match_ arms =>
    refine (inline_keyword _).cons (hopen (.append (.flatten fun part hm => ?_) ?_))
    · rw [List.eq_of_mem_replicate hm]
      exact inline_arm
    · exact (inline_bracket (by decide)).cons (inline_mark rfl)
  | switch_ cases nested =>
    refine (inline_keyword _).cons
      (hopen (.append (.append (.flatten fun part hm => ?_) ?_) (inline_mark rfl)))
    · rw [List.eq_of_mem_replicate hm]
      exact inline_label
    · exact inline_piecesOfAll nested

theorem inline_piecesOfAll (shapes : List Shape) :
    Inline (piecesOfAll shapes) := by
  cases shapes with
  | nil => exact inline_nil
  | cons s rest => exact (inline_pieces s).append (inline_piecesOfAll rest)

end

end Shape

/-! ## Methods -/

namespace MethodOutline

open Outline

theorem contains_cons {first last n : Nat} (rest : Text.Ranges) (hf : first ≤ n) (hl : n ≤ last) :
    Text.Ranges.contains ((first, last) :: rest) n = true := by
  simp [Text.Ranges.contains, hf, hl]

theorem isAlphanumeric_of_isDigit {c : Char} (h : c.isDigit = true) :
    Text.isAlphanumeric c = true := by
  have hc : 48 ≤ c.toNat ∧ c.toNat ≤ 57 := by
    simpa [Char.isDigit, UInt32.le_iff_toNat_le] using h
  exact contains_cons _ hc.1 hc.2

theorem isIdentifierText_param (i : Nat) : isIdentifierText (param i) = true := by
  have hd : ∀ d ∈ Nat.toDigits 10 i, Head.continuesIdentifier d = true := fun d hd => by
    rw [Head.continuesIdentifier,
      isAlphanumeric_of_isDigit (Nat.isDigit_of_mem_toDigits (by decide) (by decide) hd)]
    rfl
  have hp : Head.continuesIdentifier 'p' = true := by decide
  simpa [param, isIdentifierText, hp, Head.startsIdentifier] using hd

theorem inline_listed {names : List (List Char)} {q : Piece} {d : Char} {qs : List Piece}
    (h : ∀ text ∈ names, isIdentifierText text = true) (hq : q.text.head? = some d)
    (hd : Head.continuesIdentifier d = false) (hqs : Inline (q :: qs)) :
    Inline (listed names ++ q :: qs) := by
  fun_induction listed names with
  | case1 => exact hqs
  | case2 text => exact inline_word (h text (by simp)) hq hd hqs
  | case3 text other rest ih =>
    exact inline_word (h text (by simp)) rfl (by decide)
      ((inline_mark rfl).cons (ih fun t ht => h t (by simp [ht])))

theorem inline_bodyPieces (body? : Option (List Shape)) :
    Inline (bodyPieces body?) := by
  cases body? with
  | none => exact inline_mark rfl
  | some shapes =>
    exact (inline_mark rfl).cons
      ((Shape.inline_piecesOfAll shapes).append (inline_mark rfl))

theorem inline_pieces (m : MethodOutline) : Inline m.pieces := by
  have hparams : ∀ text ∈ paramNames m.params, isIdentifierText text = true := fun text ht => by
    obtain ⟨i, -, rfl⟩ := List.mem_map.1 ht
    exact isIdentifierText_param i
  have hrest : Inline
      (listed (paramNames m.params) ++ returnPieces m.returnType? ++ bodyPieces m.body?) := by
    refine .append ?_ (inline_bodyPieces _)
    cases m.returnType? with
    | none => exact inline_listed hparams rfl (by decide) (inline_mark rfl)
    | some type =>
      exact inline_listed hparams rfl (by decide) <|
        (inline_bracket (by decide)).cons <|
          (inline_mark rfl).cons (Outline.inline_piece type)
  exact (inline_keyword _).cons <| (inline_keyword _).cons <|
    inline_word m.name.isIdentifier rfl (by decide) <|
      (inline_bracket (by decide)).cons hrest

end MethodOutline

/-! ## Classes -/

namespace Outline

theorem inline_parentPieces (parent? : Option Word) :
    Inline (parentPieces parent?) := by
  cases parent? with
  | none => exact inline_nil
  | some parent => exact (inline_keyword _).cons (inline_piece parent)

theorem inline_pieces (c : Outline) : Inline c.pieces := by
  have habstract : Inline (if c.isAbstract then [keyword .abstract_] else []) := by
    split
    · exact inline_keyword _
    · exact inline_nil
  have hmethods : Inline (c.methods.flatMap MethodOutline.pieces) :=
    .flatten fun part hp => by
      obtain ⟨m, -, rfl⟩ := List.mem_map.1 hp
      exact m.inline_pieces
  exact (inline_spaced (fun _ => reads_tag) (by decide)).cons <| (inline_keyword _).cons <|
    inline_word c.base.isIdentifier rfl (by decide) <| (inline_mark rfl).cons <|
      habstract.append <| (inline_keyword _).cons <| (inline_piece _).cons <|
        (inline_parentPieces _).append <| (inline_mark rfl).cons <|
          hmethods.append (inline_bracket (by decide))

/-- Pieces without newlines are all on the same line. -/
theorem tokens_eq_map {ps : List Piece} (line : Nat) (h : ∀ p ∈ ps, '\n' ∉ p.written) :
    Piece.tokens line ps = ps.map (Piece.token line) := by
  induction ps with
  | nil => rfl
  | cons p ps ih =>
    rw [Piece.tokens, List.map_cons, List.count_eq_zero.2 (h p (by simp)), Nat.add_zero,
      ih fun q hq => h q (by simp [hq])]

/-- **The tokens of an outline's source are those of its pieces.** -/
theorem ofText_source (c : Outline) :
    ofText c.source = .ok (c.pieces.map (Piece.token 1)) := by
  have hi := c.inline_pieces
  rw [ofText, source, String.toList_ofList, Cursor.start, scanAll_written 1 (hi.reads []),
    tokens_eq_map 1 hi.newline]

end Outline

end Cyclomatic
