import Cyclomatic.Proofs.Token.Calls
import Cyclomatic.Proofs.Token.Lookahead

/-!
# Written tokens are read back

A `Piece` is a token as it is written, with the blanks behind it. `Piece.Reads p rest`: before
`rest`, the piece is what a reader finds. `scanAll_written`: a text written from pieces that read
where they stand has these tokens, each on the line where its text ends.

What may follow a piece is decided by its first character: `reads_word` and `reads_integer` ask that
it does not go on with the run, and `reads_bracket` asks nothing. Any piece that reads alone reads
before a blank (`Reads.before_blank`), such as a sign (`reads_sign`).
-/

set_option autoImplicit false

namespace Cyclomatic.Token

/-- A token as it is written. -/
structure Piece where
  kind : Kind
  lexeme : List Char
  /-- The characters that write the token. -/
  text : List Char
  /-- The blanks behind it. -/
  gap : List Char := []

namespace Piece

/-- The piece's characters, the blanks included. -/
def written (p : Piece) : List Char := p.text ++ p.gap

/-- The characters of several pieces. -/
def writtenAll (ps : List Piece) : List Char := ps.flatMap written

/-- The piece's token, if its text starts on line `line`. -/
def token (line : Nat) (p : Piece) : Token :=
  ⟨p.kind, (line + p.text.count '\n' : Nat), String.ofList p.lexeme⟩

/-- The tokens of several pieces, the first of them on line `line`. -/
def tokens (line : Nat) : List Piece → List Token
  | [] => []
  | p :: ps => p.token line :: tokens (line + p.written.count '\n') ps

/-- Before `rest`, a reader finds the piece's token in its text. -/
def Reads (p : Piece) (rest : List Char) : Prop :=
  ∃ c cs, p.text = c :: cs ∧ skip .between (c :: (cs ++ rest)) = ⟨[], c :: (cs ++ rest), true⟩ ∧
    Head.of c (cs ++ rest) = .token p.kind p.lexeme p.text rest

/-- Each piece reads where it stands, with `rest` behind the last one. -/
def ReadsAll (rest : List Char) : List Piece → Prop
  | [] => True
  | p :: ps => (p.Reads (p.gap ++ writtenAll ps ++ rest) ∧ ∀ c ∈ p.gap, isBlank c = true) ∧
      ReadsAll rest ps

@[simp] theorem writtenAll_nil : writtenAll [] = [] := rfl

@[simp] theorem writtenAll_cons (p : Piece) (ps : List Piece) :
    writtenAll (p :: ps) = p.written ++ writtenAll ps := rfl

@[simp] theorem writtenAll_append (ps qs : List Piece) :
    writtenAll (ps ++ qs) = writtenAll ps ++ writtenAll qs := List.flatMap_append

theorem readsAll_append {rest : List Char} {ps qs : List Piece} :
    ReadsAll rest (ps ++ qs) ↔ ReadsAll (writtenAll qs ++ rest) ps ∧ ReadsAll rest qs := by
  induction ps with
  | nil => simp [ReadsAll]
  | cons p ps ih => simp [ReadsAll, ih, and_assoc]

end Piece

/-! ## Blanks -/

theorem scan_blank {c : Char} (cs : List Char) (line : Nat) (hb : isBlank c = true) :
    scan ⟨c :: cs, line⟩ = scan ⟨cs, line + [c].count '\n'⟩ :=
  @scan_behind [c] (c :: cs) cs line (skip_blank cs hb)

theorem scanAll_done {cursor next : Cursor} (h : scan cursor = .done next) :
    scanAll cursor = .ok [] := by
  rw [scanAll]
  split <;> simp_all

theorem scanAll_token {cursor next : Cursor} {t : Token} (h : scan cursor = .token t next) :
    scanAll cursor = (scanAll next).map (t :: ·) := by
  rw [scanAll]
  split <;> simp_all

theorem scanAll_fault {cursor next : Cursor} {fault : Fault}
    (h : scan cursor = .fault fault next) : scanAll cursor = .error fault := by
  rw [scanAll]
  split <;> simp_all

theorem scanAll_congr {cursor other : Cursor} (h : scan cursor = scan other) :
    scanAll cursor = scanAll other := by
  cases hs : scan other with
  | done next => rw [scanAll_done (h.trans hs), scanAll_done hs]
  | token t next => rw [scanAll_token (h.trans hs), scanAll_token hs]
  | fault fault next => rw [scanAll_fault (h.trans hs), scanAll_fault hs]

theorem scanAll_blanks {gap : List Char} (cs : List Char) (line : Nat)
    (hb : ∀ c ∈ gap, isBlank c = true) :
    scanAll ⟨gap ++ cs, line⟩ = scanAll ⟨cs, line + gap.count '\n'⟩ := by
  induction gap generalizing line with
  | nil => simp
  | cons c gap ih =>
    rw [List.cons_append, scanAll_congr (scan_blank _ _ (hb c (by simp))),
      ih _ fun d hd => hb d (by simp [hd]), ← List.singleton_append (l := gap), List.count_append,
      Nat.add_assoc]

/-! ## Pieces -/

theorem scan_piece {p : Piece} {rest : List Char} (line : Nat) (h : p.Reads rest) :
    scan ⟨p.text ++ rest, line⟩ = .token (p.token line) ⟨rest, line + p.text.count '\n'⟩ := by
  obtain ⟨c, cs, ht, hs, hof⟩ := h
  simp [scan, ht, hs, hof, Cursor.past, Piece.token]

/-- **A text written from pieces that read where they stand has their tokens.** -/
theorem scanAll_written {ps : List Piece} (line : Nat) (h : Piece.ReadsAll [] ps) :
    scanAll ⟨Piece.writtenAll ps, line⟩ = .ok (Piece.tokens line ps) := by
  induction ps generalizing line with
  | nil => exact @scanAll_done ⟨[], line⟩ ⟨[], line⟩ rfl
  | cons p ps ih =>
    obtain ⟨⟨hr, hb⟩, hps⟩ := h
    have hw : Piece.writtenAll (p :: ps) = p.text ++ (p.gap ++ Piece.writtenAll ps) := by
      simp [Piece.written]
    rw [List.append_nil] at hr
    rw [hw, scanAll_token (scan_piece line hr), scanAll_blanks _ _ hb, ih _ hps, Nat.add_assoc,
      ← List.count_append]
    rfl

/-! ## What may follow a piece -/

namespace Head

theorem operator?_eq_none {c : Char} {cs : List Char}
    (h : startsIdentifier c = true ∨ c.isDigit = true) : operator? (c :: cs) = none := by
  rw [operator?, List.find?_eq_none]
  rintro ⟨kind, spelling⟩ hm hp
  obtain ⟨hne, hhead, -⟩ := operators_chars _ hm
  cases spelling with
  | nil => exact hne rfl
  | cons d spelling =>
    obtain ⟨hs, hd⟩ := hhead d rfl
    obtain rfl : d = c := by
      simpa using (List.cons_prefix_cons.1 (List.isPrefixOf_iff_prefix.1 hp)).1
    simp [hs, hd] at h

/-- An identifier starts with no digit. -/
theorem isDigit_of_startsIdentifier {c : Char} (h : startsIdentifier c = true) :
    c.isDigit = false := by
  simp only [startsIdentifier, Bool.or_eq_true, beq_iff_eq, or_assoc] at h
  rcases h with rfl | rfl | rfl | h
  · rfl
  · rfl
  · rfl
  · change (decide (c.val ≥ 65 ∧ c.val ≤ 90) ||
      (decide (c.val ≥ 97) && decide (c.val ≤ 122))) = true at h
    show (decide (c.val ≥ 48) && decide (c.val ≤ 57)) = false
    simp only [Bool.or_eq_true, Bool.and_eq_true, decide_eq_true_eq, Bool.and_eq_false_iff,
      decide_eq_false_iff_not, ge_iff_le, UInt32.le_iff_toNat_le, UInt32.reduceToNat] at h ⊢
    omega

theorem of_identifier {c : Char} {cs rest : List Char} (h : isIdentifierText (c :: cs) = true)
    (hr : ∀ d ∈ rest.head?, continuesIdentifier d = false) :
    of c (cs ++ rest) = .token .identifier (c :: cs) (c :: cs) rest := by
  simp only [isIdentifierText, Bool.and_eq_true, List.all_eq_true] at h
  obtain ⟨hs, hc⟩ := h
  have hl : c ≠ '<' := ne_of_test hs (by decide)
  have hq : ¬ (c = '\'' ∨ c = '"') :=
    not_or.2 ⟨ne_of_test hs (by decide), ne_of_test hs (by decide)⟩
  obtain ⟨ht, hw⟩ := takeWhile_append_of_stop hc hr
  rw [of, if_neg hl, operator?_eq_none (.inl hs)]
  simp [hq, isDigit_of_startsIdentifier hs, hs, identifier, ht, hw]

theorem of_integer {c : Char} {cs rest : List Char} (hc : c.isDigit = true)
    (hd : ∀ d ∈ cs, Text.isDigit d = true)
    (hr : ∀ d ∈ rest.head?, Text.isDigit d = false ∧ d ≠ '.') :
    of c (cs ++ rest) = .token .number (c :: cs) (c :: cs) rest := by
  have hl : c ≠ '<' := ne_of_test hc (by decide)
  have hq : ¬ (c = '\'' ∨ c = '"') :=
    not_or.2 ⟨ne_of_test hc (by decide), ne_of_test hc (by decide)⟩
  obtain ⟨ht, hw⟩ := takeWhile_append_of_stop hd fun d hm => (hr d hm).1
  rw [of, if_neg hl, operator?_eq_none (.inr hc)]
  simp only [hq, hc, if_true, if_false, number, ht, hw]
  split
  · rename_i after
    exact absurd rfl (hr '.' rfl).2
  · rfl

end Head

namespace Piece

/-- An identifier. -/
def word (text : List Char) : Piece := ⟨.identifier, text, text, []⟩

/-- A sign. -/
def sign (kind : Kind) : Piece := ⟨kind, kind.sign?.getD [], kind.sign?.getD [], []⟩

/-- A number without a point. -/
def integer (digits : List Char) : Piece := ⟨.number, digits, digits, []⟩

/-- A tag. -/
def tag : Piece := ⟨.phpTag, ['<', '?', 'p', 'h', 'p'], ['<', '?', 'p', 'h', 'p'], []⟩

/-- The piece with one blank behind it. -/
def spaced (p : Piece) : Piece := { p with gap := [' '] }

variable {rest : List Char}

theorem reads_word {text : List Char} (h : isIdentifierText text = true)
    (hr : ∀ d ∈ rest.head?, Head.continuesIdentifier d = false) : (word text).Reads rest := by
  cases text with
  | nil => simp [isIdentifierText] at h
  | cons c cs =>
    have hs : Head.startsIdentifier c = true := by
      simp only [isIdentifierText, Bool.and_eq_true] at h
      exact h.1
    exact ⟨c, cs, rfl, skip_of_not_blank (Head.isBlank_of_test hs rfl)
      (Head.ne_of_test hs (by decide)), Head.of_identifier h hr⟩

theorem reads_integer {c : Char} {cs : List Char} (hc : c.isDigit = true)
    (hd : ∀ d ∈ cs, Text.isDigit d = true)
    (hr : ∀ d ∈ rest.head?, Text.isDigit d = false ∧ d ≠ '.') :
    (integer (c :: cs)).Reads rest :=
  ⟨c, cs, rfl, skip_of_not_blank (Head.isBlank_of_test hc rfl)
    (Head.ne_of_test hc (by decide)), Head.of_integer hc hd hr⟩

theorem reads_tag : tag.Reads rest :=
  ⟨'<', ['?', 'p', 'h', 'p'], rfl, skip_of_not_blank rfl (by decide), rfl⟩

/-- Brackets, commas and semicolons read before anything. -/
theorem reads_bracket {kind : Kind}
    (h : kind ∈ [.leftParen, .rightParen, .leftBrace, .rightBrace, .comma, .semicolon]) :
    (sign kind).Reads rest := by
  simp only [List.mem_cons, List.not_mem_nil, or_false] at h
  rcases h with rfl | rfl | rfl | rfl | rfl | rfl <;>
    exact ⟨_, [], rfl, skip_of_not_blank rfl (by decide), rfl⟩

/-- What is read alone is read before a blank. -/
theorem Reads.before_blank {p : Piece} (h : p.Reads [])
    (hr : ∀ c ∈ rest.head?, isBlank c = true) : p.Reads rest := by
  obtain ⟨c, cs, ht, hs, hof⟩ := h
  rw [List.append_nil] at hs hof
  refine ⟨c, cs, ht, ?_, Head.of_extend hr hof⟩
  have hskip := @skip_extend .between (c :: cs) rest (by simp [hs]) hr
  rwa [hs] at hskip

theorem reads_sign_nil {kind : Kind} {text : List Char} (hk : kind.sign? = some text) :
    (sign kind).Reads [] := by
  cases kind <;> cases hk <;> exact ⟨_, _, rfl, rfl, rfl⟩

/-- A sign reads before a blank. -/
theorem reads_sign {kind : Kind} {text : List Char} (hk : kind.sign? = some text)
    (hr : ∀ c ∈ rest.head?, isBlank c = true) : (sign kind).Reads rest :=
  (reads_sign_nil hk).before_blank hr

end Piece

end Cyclomatic.Token
