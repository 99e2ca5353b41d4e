import Cyclomatic.Proofs.Token.Tiling

/-!
# Tokens and lines

The newlines of a text part its lines, which are counted from one. An identifier has no newline, so it
stands whole on one line, and that is the line of its token (`standsOn_of_mem`). The lines of the
tokens never decrease (`lines_ofText`), so that none is behind the line of the last one, though
strings, heredocs and comments may run over many.
-/

set_option autoImplicit false

namespace Cyclomatic.Token

/-- The word is part of a line of the text. -/
def StandsOn (text word : List Char) (line : Int) : Prop :=
  1 ≤ line ∧ ∃ content, (text.splitOn '\n')[(line - 1).toNat]? = some content ∧ word <:+: content

/-! ## Lines of a text -/

theorem splitOn_cons_newline (text : List Char) :
    ('\n' :: text).splitOn '\n' = [] :: text.splitOn '\n' := by
  simp [List.splitOn, List.splitOnP_cons_eq_if_modifyHead]

theorem splitOn_cons_of_ne {c : Char} (hc : c ≠ '\n') (text : List Char) :
    (c :: text).splitOn '\n' = (text.splitOn '\n').modifyHead (c :: ·) := by
  simp [List.splitOn, List.splitOnP_cons_eq_if_modifyHead, hc]

/-- The first line starts with the characters in front of the first newline. -/
theorem exists_first_line {word : List Char} (hw : '\n' ∉ word) (after : List Char) :
    ∃ content, ((word ++ after).splitOn '\n')[0]? = some content ∧ word <+: content := by
  induction word with
  | nil =>
    obtain ⟨first, others, h⟩ := List.exists_cons_of_ne_nil (List.splitOnP_ne_nil (· == '\n') after)
    exact ⟨first, by rw [List.nil_append, List.splitOn, h]; rfl, List.nil_prefix⟩
  | cons c word ih =>
    obtain ⟨hc, hw⟩ : c ≠ '\n' ∧ '\n' ∉ word := by simpa [eq_comm] using hw
    obtain ⟨content, hget, hp⟩ := ih hw
    refine ⟨c :: content, ?_, List.cons_prefix_cons.2 ⟨rfl, hp⟩⟩
    rw [List.cons_append, splitOn_cons_of_ne hc, List.getElem?_modifyHead_zero, hget]
    rfl

/-- A word without a newline is part of the line that the newlines before it make. -/
theorem exists_line {word : List Char} (hw : '\n' ∉ word) (before after : List Char) :
    ∃ content, ((before ++ (word ++ after)).splitOn '\n')[before.count '\n']? = some content ∧
      word <:+: content := by
  induction before with
  | nil =>
    obtain ⟨content, hget, hp⟩ := exists_first_line hw after
    exact ⟨content, hget, hp.isInfix⟩
  | cons c before ih =>
    obtain ⟨content, hget, hi⟩ := ih
    by_cases hc : c = '\n'
    · subst hc
      refine ⟨content, ?_, hi⟩
      rw [List.cons_append, splitOn_cons_newline, List.count_cons_self, List.getElem?_cons_succ, hget]
    · rw [List.cons_append, splitOn_cons_of_ne hc, List.count_cons_of_ne hc]
      cases hn : before.count '\n' with
      | zero =>
        rw [hn] at hget
        refine ⟨c :: content, ?_, hi.trans (List.suffix_cons c content).isInfix⟩
        rw [List.getElem?_modifyHead_zero, hget]
        rfl
      | succ n =>
        rw [hn] at hget
        exact ⟨content, by rw [List.getElem?_modifyHead_succ, hget], hi⟩

/-! ## Lines of tokens -/

theorem newline_not_mem {word : List Char} (h : isIdentifierText word = true) : '\n' ∉ word := by
  cases word with
  | nil => simp
  | cons c cs =>
    obtain ⟨hc, hcs⟩ : Head.startsIdentifier c = true ∧ cs.all Head.continuesIdentifier = true := by
      simpa [isIdentifierText] using h
    intro hm
    rcases List.mem_cons.1 hm with rfl | hm
    · revert hc
      decide
    · have hn := List.all_eq_true.1 hcs _ hm
      revert hn
      decide

/-- A token of a tiled text is spelled somewhere in it, and its line is counted up to there. -/
theorem Tiling.exists_spelled {line : Nat} {text : List Char} {tokens : List Token}
    {tiles : List Tile} {t : Token} (h : Tiling line text tokens tiles) (ht : t ∈ tokens) :
    ∃ before word after, text = before ++ (word ++ after) ∧ Spells t.kind t.lexeme.toList word ∧
      t.line = line + (before.count '\n' + word.count '\n' : Nat) := by
  rw [← h.tokens_eq, List.mem_filterMap] at ht
  obtain ⟨skipped | ⟨u, word⟩, hm, htile⟩ := ht
  · cases htile
  · cases htile
    obtain ⟨before, after, rfl⟩ := List.append_of_mem hm
    cases h.allFit before _ after rfl with
    | token hs hl =>
      refine ⟨Tile.textOfAll before, word, Tile.textOfAll after, ?_, hs, by omega⟩
      rw [← h.text_eq]
      simp [Tile.textOfAll, Tile.text]

/-- **An identifier stands on the line of its token.** -/
theorem standsOn_of_mem {text : String} {tokens : List Token} {t : Token}
    (h : ofText text = .ok tokens) (ht : t ∈ tokens) (hi : t.isIdentifier = true) :
    StandsOn text.toList t.lexeme.toList t.line := by
  obtain ⟨tiles, htiling⟩ := exists_tiling_scanAll h
  obtain ⟨before, word, after, htext, hs, hl⟩ := htiling.exists_spelled ht
  have hk : t.kind = .identifier := by simpa [isIdentifier] using hi
  rw [hk] at hs
  cases hs with
  | sign hsign => cases hsign
  | identifier hword =>
    have hn := newline_not_mem hword
    rw [List.count_eq_zero_of_not_mem hn] at hl
    have hline : t.line = 1 + (before.count '\n' : Nat) := hl
    obtain ⟨content, hget, hinfix⟩ := exists_line hn before after
    refine ⟨by omega, content, ?_, hinfix⟩
    rw [show text.toList = before ++ (t.lexeme.toList ++ after) from htext,
      show (t.line - 1).toNat = before.count '\n' by omega, hget]

/-- The lines of the tokens never decrease, and they are lines of the text. -/
theorem lines_scanAll {cursor : Cursor} {tokens : List Token} (h : scanAll cursor = .ok tokens) :
    tokens.Pairwise (·.line ≤ ·.line) ∧
      ∀ t ∈ tokens, cursor.line ≤ t.line ∧ t.line ≤ (cursor.line + cursor.rest.count '\n' : Nat) := by
  fun_induction scanAll cursor generalizing tokens with
  | case1 =>
    cases h
    exact ⟨.nil, by simp⟩
  | case2 => cases h
  | case3 cursor t next hs ih =>
    cases hn : scanAll next with
    | error fault => simp [hn, Except.map] at h
    | ok others =>
      obtain rfl : t :: others = tokens := by simpa [hn, Except.map] using h
      obtain ⟨hpair, hall⟩ := ih hn
      have hf : Finds cursor (.token t next) := finds_iff.2 hs
      obtain ⟨passed, -, hline⟩ := hf.exists_passed
      have hcount := hf.line_add_count
      have ht : t.line = next.line := by cases hf; rfl
      simp only [Scan.next] at hline hcount
      refine ⟨.cons (fun u hu => by have := hall u hu; omega) hpair, fun u hu => ?_⟩
      rcases List.mem_cons.1 hu with rfl | hu
      · omega
      · have := hall u hu
        omega

theorem lines_ofText {text : String} {tokens : List Token} (h : ofText text = .ok tokens) :
    tokens.Pairwise (·.line ≤ ·.line) ∧
      ∀ t ∈ tokens, 1 ≤ t.line ∧ t.line ≤ (1 + text.toList.count '\n' : Nat) :=
  lines_scanAll h

end Cyclomatic.Token
