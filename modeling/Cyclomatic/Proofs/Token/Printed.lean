import Cyclomatic.Proofs.Token.Literals
import Cyclomatic.Proofs.Token.Pieces

/-!
# Printed tokens are read back

`Prints kind lexeme text`: `text` is how a token is printed. Tokens that are printed with blanks behind
each of them are read back, whatever stands next to what (`ofText_printed`). It is enough to read each
printed token alone (`Prints.reads`), since what is read alone is read before a blank.
-/

set_option autoImplicit false

namespace Cyclomatic.Token

/-! ## How tokens are printed -/

/-- The text of a string: no quote outside of an escape, and no escape without its character. -/
inductive Escaped (quote : Char) : List Char → Prop
  | nil : Escaped quote []
  | plain {c : Char} {cs : List Char} (hq : c ≠ quote) (hb : c ≠ '\\') (h : Escaped quote cs) :
      Escaped quote (c :: cs)
  | escape {c : Char} {cs : List Char} (h : Escaped quote cs) : Escaped quote ('\\' :: c :: cs)

/-- `text` is how a token of the kind with the lexeme is printed. -/
inductive Prints : Kind → List Char → List Char → Prop
  | sign {kind : Kind} {text : List Char} (h : kind.sign? = some text) : Prints kind text text
  | tag : Prints .phpTag ['<', '?', 'p', 'h', 'p'] ['<', '?', 'p', 'h', 'p']
  | less : Prints .less ['<'] ['<']
  | lessEqual : Prints .lessEqual ['<', '='] ['<', '=']
  | identifier {text : List Char} (h : isIdentifierText text = true) :
      Prints .identifier text text
  | integer {c : Char} {digits : List Char} (hc : c.isDigit = true)
      (hd : ∀ d ∈ digits, Text.isDigit d = true) : Prints .number (c :: digits) (c :: digits)
  | decimal {c : Char} {digits places : List Char} (hc : c.isDigit = true)
      (hd : ∀ d ∈ digits, Text.isDigit d = true) (hp : ∀ d ∈ places, Text.isDigit d = true) :
      Prints .number (c :: digits ++ '.' :: places) (c :: digits ++ '.' :: places)
  | string {quote : Char} {lexeme : List Char} (hq : quote = '\'' ∨ quote = '"')
      (h : Escaped quote lexeme) : Prints .string lexeme (quote :: lexeme ++ [quote])
  | heredoc {title lexeme : List Char} (ht : title ≠ []) (hn : '\n' ∉ title)
      (hq : ∀ c ∈ title.head?, c ≠ '\'' ∧ c ≠ '"')
      (hf : ∀ n < lexeme.length, ¬ title <+: (lexeme ++ title).drop n) :
      Prints .heredoc lexeme (['<', '<', '<'] ++ title ++ ['\n'] ++ lexeme ++ title)

/-- A printed token with at least one blank behind it. -/
structure Piece.Printed (p : Piece) : Prop where
  prints : Prints p.kind p.lexeme p.text
  gap_ne_nil : p.gap ≠ []
  gap_blank : ∀ c ∈ p.gap, isBlank c = true

/-! ## Strings, heredocs and numbers -/

namespace Head

theorem stringBody?_of_escaped {quote : Char} {body : List Char} (hq : quote ≠ '\\')
    (h : Escaped quote body) (rest : List Char) :
    stringBody? quote false (body ++ quote :: rest) = some (body, rest) := by
  induction h with
  | nil => simp [stringBody?]
  | plain hc hb _ ih => simp [stringBody?, hc, hb, ih]
  | escape _ ih => simp [stringBody?, hq.symm, ih]

theorem of_string {quote : Char} {body : List Char} (hq : quote = '\'' ∨ quote = '"')
    (h : Escaped quote body) :
    of quote (body ++ [quote]) = .token .string body (quote :: body ++ [quote]) [] := by
  have hof (cs : List Char) : of quote cs = string quote cs := by rcases hq with rfl | rfl <;> rfl
  have hescape : quote ≠ '\\' := by rcases hq with rfl | rfl <;> decide
  rw [hof, string, stringBody?_of_escaped hescape h []]

/-- A mark that does not occur before is found where it is put. -/
theorem isLeast_of_first {mark body : List Char}
    (h : ∀ n < body.length, ¬ mark <+: (body ++ mark).drop n) :
    IsLeast (occurrences mark (body ++ mark)) body.length := by
  constructor
  · show mark <+: (body ++ mark).drop body.length
    exact ⟨[], by simp⟩
  · intro n hn
    by_contra hlt
    exact h n (by omega) hn

theorem heredoc_of_first {title body : List Char} (ht : title ≠ []) (hn : '\n' ∉ title)
    (hq : ∀ c ∈ title.head?, c ≠ '\'' ∧ c ≠ '"')
    (hf : ∀ n < body.length, ¬ title <+: (body ++ title).drop n) :
    heredoc (title ++ '\n' :: (body ++ title)) =
      .token .heredoc body (['<', '<', '<'] ++ title ++ ['\n'] ++ body ++ title) [] := by
  obtain ⟨written, hread⟩ := heredoc_of_isLeast (.line hq hn) ht (isLeast_of_first hf)
  have hrest : (body ++ title).drop (body.length + title.length) = [] := by simp
  rw [hrest, List.take_left] at hread
  have hof : of '<' ('<' :: '<' :: (title ++ '\n' :: (body ++ title))) =
      .token .heredoc body written [] := hread
  have hwritten := append_of_token hof
  rw [List.append_nil] at hwritten
  rw [hread, hwritten]
  simp

theorem of_decimal {c : Char} {digits places : List Char} (hc : c.isDigit = true)
    (hd : ∀ d ∈ digits, Text.isDigit d = true) (hp : ∀ d ∈ places, Text.isDigit d = true) :
    of c (digits ++ '.' :: places) = .token .number (c :: digits ++ '.' :: places)
      (c :: digits ++ '.' :: places) [] := by
  have hl : c ≠ '<' := ne_of_test hc (by decide)
  have hq : ¬ (c = '\'' ∨ c = '"') :=
    not_or.2 ⟨ne_of_test hc (by decide), ne_of_test hc (by decide)⟩
  obtain ⟨ht, hw⟩ := @takeWhile_append_of_stop _ _ ('.' :: places) hd (by simp; rfl)
  obtain ⟨htp, hwp⟩ := @takeWhile_append_of_stop _ _ [] hp (by simp)
  rw [List.append_nil] at htp hwp
  rw [of, if_neg hl, operator?_eq_none (.inr hc)]
  simp [hq, hc, number, ht, hw, htp, hwp]

end Head

/-! ## Pieces -/

theorem Prints.reads {kind : Kind} {lexeme text : List Char} (h : Prints kind lexeme text)
    (gap : List Char) : Piece.Reads ⟨kind, lexeme, text, gap⟩ [] := by
  cases h with
  | sign h =>
    have hr := Piece.reads_sign_nil h
    simpa only [Piece.Reads, Piece.sign, h, Option.getD_some] using hr
  | tag => exact Piece.reads_tag
  | less => exact ⟨'<', [], rfl, rfl, rfl⟩
  | lessEqual => exact ⟨'<', ['='], rfl, rfl, rfl⟩
  | identifier h => exact Piece.reads_word h (by simp)
  | integer hc hd => exact Piece.reads_integer hc hd (by simp)
  | @decimal c digits places hc hd hp =>
    refine ⟨c, digits ++ '.' :: places, rfl, ?_, ?_⟩
    · exact skip_of_not_blank (Head.isBlank_of_test hc rfl) (Head.ne_of_test hc (by decide))
    · rw [List.append_nil]
      exact Head.of_decimal hc hd hp
  | @string quote lexeme hq h =>
    refine ⟨quote, lexeme ++ [quote], rfl, ?_, ?_⟩
    · rcases hq with rfl | rfl <;> exact skip_of_not_blank rfl (by decide)
    · rw [List.append_nil]
      exact Head.of_string hq h
  | @heredoc title lexeme ht hn hq hf =>
    refine ⟨'<', _, rfl, skip_of_not_blank rfl (by decide), ?_⟩
    have hof := Head.heredoc_of_first ht hn hq hf
    simpa [Head.of, Head.angle] using hof

/-! ## Texts -/

namespace Piece

theorem readsAll_of_printed {ps : List Piece} (h : ∀ p ∈ ps, p.Printed) : ReadsAll [] ps := by
  induction ps with
  | nil => trivial
  | cons p ps ih =>
    obtain ⟨hprints, hne, hblank⟩ := h p (by simp)
    refine ⟨⟨?_, hblank⟩, ih fun q hq => h q (by simp [hq])⟩
    refine (hprints.reads p.gap).before_blank fun c hc => ?_
    obtain ⟨d, gap, hgap⟩ := List.exists_cons_of_ne_nil hne
    obtain rfl : d = c := by simpa [hgap] using hc
    exact hblank d (by simp [hgap])

end Piece

/-- **Printed tokens are read back.** A text that prints tokens, with one blank or more behind each, has
exactly these tokens, each on the line where its text ends. -/
theorem ofText_printed {ps : List Piece} (h : ∀ p ∈ ps, p.Printed) :
    ofText (String.ofList (Piece.writtenAll ps)) = .ok (Piece.tokens 1 ps) := by
  rw [ofText, String.toList_ofList]
  exact scanAll_written 1 (Piece.readsAll_of_printed h)

/-- The title of the heredoc overlaps its body's end, and the string holds its own quote. -/
def overlapping : List Piece :=
  [⟨.slash, ['/'], ['/'], [' ']⟩, ⟨.heredoc, ['a'], "<<<aab\naaab".toList, ['\n']⟩,
    ⟨.string, "\\'\n".toList, "'\\'\n'".toList, [' ']⟩, ⟨.less, ['<'], ['<'], ['\r']⟩]

theorem ofText_printed_of_overlapping :
    (∀ p ∈ overlapping, p.Printed) ∧
      ofText "/ <<<aab\naaab\n'\\'\n' <\r" =
        .ok [⟨.slash, 1, "/"⟩, ⟨.heredoc, 2, "a"⟩, ⟨.string, 4, "\\'\n"⟩, ⟨.less, 4, "<"⟩] := by
  have hprinted : ∀ p ∈ overlapping, p.Printed := by
    simp only [overlapping, List.forall_mem_cons, List.not_mem_nil, false_imp_iff, implies_true,
      and_true]
    refine ⟨⟨.sign rfl, by simp, by simp [isBlank]⟩, ⟨?_, by simp, by simp [isBlank]⟩,
      ⟨?_, by simp, by simp [isBlank]⟩, ⟨.less, by simp, by simp [isBlank]⟩⟩
    · exact @Prints.heredoc ['a', 'a', 'b'] ['a'] (by simp) (by simp) (by simp) (by decide)
    · exact @Prints.string '\'' _ (.inl rfl) (.escape (.plain (by decide) (by decide) .nil))
  have hwritten : Piece.writtenAll overlapping = "/ <<<aab\naaab\n'\\'\n' <\r".toList := rfl
  have hread := ofText_printed hprinted
  rw [hwritten, String.ofList_toList] at hread
  exact ⟨hprinted, hread⟩

end Cyclomatic.Token
