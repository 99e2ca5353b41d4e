import Cyclomatic.Proofs.Token.Calls
import Cyclomatic.Proofs.Token.Spelling

/-!
# Tokens tile the text

A text that can be read is the concatenation of tiles: blanks, comments, and the texts of its
tokens in order (`exists_tiling`).

* `Skipped after text`: `text`, followed by `after`, is one blank or one whole comment.
* `Passes cs rest`: `cs` is skipped text and `rest`. `passes_skip`: the text up to the next token
  passes; comments are followed from their inside (`Inside`).
* `Tile.Fits line after`: the tile may stand on line `line` before `after`; a token's text spells
  it, and its line is counted from `line`.
* `exists_tiling_scanAll`: from any cursor on, the text is tiled.
-/

set_option autoImplicit false

namespace Cyclomatic.Token

/-! ## Skipped text -/

/-- `text`, with `after` behind it, is a blank, a comment up to the end of its line, or a comment
up to the first star and slash behind its opening. -/
inductive Skipped (after : List Char) : List Char → Prop
  | blank {c : Char} (h : c ∈ [' ', '\t', '\r', '\n']) : Skipped after [c]
  | lineComment {body : List Char} (hb : '\n' ∉ body)
      (ha : after = [] ∨ ∃ rest, after = '\n' :: rest) : Skipped after ('/' :: '/' :: body)
  | blockComment {body : List Char} (hb : ¬ ['*', '/'] <:+: body ++ ['*']) :
      Skipped after ('/' :: '*' :: body ++ ['*', '/'])

/-- Skipped text leads from `cs` to `rest`. -/
inductive Passes (rest : List Char) : List Char → Prop
  | here : Passes rest rest
  | past {text after : List Char} (hs : Skipped after text) (hp : Passes rest after) :
      Passes rest (text ++ after)

/-- `cs` passes to `rest`, from the inside of a comment if `place` is one. -/
def Inside (place : Place) (rest cs : List Char) : Prop :=
  match place with
  | .between => Passes rest cs
  | .lineComment => ∃ body after, cs = body ++ after ∧ '\n' ∉ body ∧
      (after = [] ∨ ∃ next, after = '\n' :: next) ∧ Passes rest after
  | .blockComment => ∃ body after, cs = body ++ '*' :: '/' :: after ∧
      ¬ ['*', '/'] <:+: body ++ ['*'] ∧ Passes rest after

theorem passes_blank {c : Char} {cs rest : List Char} (h : c ∈ [' ', '\t', '\r', '\n'])
    (hp : Passes rest cs) : Passes rest (c :: cs) :=
  .past (.blank h) hp

theorem passes_lineComment {cs rest : List Char} (h : Inside .lineComment rest cs) :
    Passes rest ('/' :: '/' :: cs) := by
  obtain ⟨body, after, rfl, hb, ha, hp⟩ := h
  exact .past (.lineComment hb ha) hp

theorem passes_blockComment {cs rest : List Char} (h : Inside .blockComment rest cs) :
    Passes rest ('/' :: '*' :: cs) := by
  obtain ⟨body, after, rfl, hb, hp⟩ := h
  simpa using Passes.past (.blockComment hb) hp

/-- A character that does not close the comment leaves its end the first one. -/
theorem inside_blockComment_cons {c : Char} {cs rest : List Char}
    (hc : ∀ next, c = '*' → cs = '/' :: next → False) (h : Inside .blockComment rest cs) :
    Inside .blockComment rest (c :: cs) := by
  obtain ⟨body, after, rfl, hb, hp⟩ := h
  refine ⟨c :: body, after, rfl, fun hi => ?_, hp⟩
  rw [List.cons_append, List.infix_cons_iff] at hi
  rcases hi with hi | hi
  · cases body with
    | nil => simp at hi
    | cons d body =>
      simp only [List.cons_append, List.cons_prefix_cons] at hi
      exact hc _ hi.1.symm (by rw [← hi.2.1, List.cons_append])
  · exact hb hi

theorem inside_skip {place : Place} {cs : List Char} (h : (skip place cs).closed = true) :
    Inside place (skip place cs).rest cs := by
  fun_induction skip place cs with
  | case1 => exact .here
  | case2 rest ih => exact passes_lineComment (ih h)
  | case3 rest ih => exact passes_blockComment (ih h)
  | case4 c rest _ _ hb ih =>
    have hc : c ∈ [' ', '\t', '\r', '\n'] := by simpa [isBlank, or_assoc] using hb
    exact passes_blank hc (ih h)
  | case5 => exact .here
  | case6 => exact ⟨[], [], rfl, by simp, .inl rfl, .here⟩
  | case7 rest ih =>
    exact ⟨[], '\n' :: rest, rfl, by simp, .inr ⟨rest, rfl⟩, passes_blank (by simp) (ih h)⟩
  | case8 c rest hn ih =>
    obtain ⟨body, after, rfl, hb, ha, hp⟩ := ih h
    exact ⟨c :: body, after, rfl, by simp [hb, Ne.symm hn], ha, hp⟩
  | case9 => simp at h
  | case10 rest ih => exact ⟨[], rest, rfl, by decide, ih h⟩
  | case11 c rest hn ih => exact inside_blockComment_cons hn (ih h)

/-- **The text up to the next token is blanks and whole comments.** -/
theorem passes_skip {cs gap rest : List Char} (hs : skip .between cs = ⟨gap, rest, true⟩) :
    Passes rest cs := by
  have hin := @inside_skip .between cs (by rw [hs])
  rwa [hs] at hin

/-! ## Tiles -/

/-- A piece of a text: something skipped, or a token. -/
inductive Tile where
  | skipped (text : List Char)
  | token (t : Token) (text : List Char)

namespace Tile

/-- The characters of a tile. -/
def text : Tile → List Char
  | skipped text => text
  | token _ text => text

/-- The token of a tile. -/
def token? : Tile → Option Token
  | skipped _ => none
  | token t _ => some t

/-- The characters of several tiles. -/
def textOfAll (tiles : List Tile) : List Char := tiles.flatMap text

/-- The tile may stand on line `line` before `after`. -/
inductive Fits (line : Nat) (after : List Char) : Tile → Prop
  | skipped {text : List Char} (h : Skipped after text) : Fits line after (.skipped text)
  | token {t : Token} {text : List Char} (hs : Spells t.kind t.lexeme.toList text)
      (hl : t.line = line + text.count '\n') : Fits line after (.token t text)

/-- Each tile fits where it stands, the first one on line `line`. -/
def AllFit (line : Nat) (tiles : List Tile) : Prop :=
  ∀ before tile after, tiles = before ++ tile :: after →
    tile.Fits (line + (textOfAll before).count '\n') (textOfAll after)

theorem allFit_nil (line : Nat) : AllFit line [] := by
  intro before tile after h
  simp at h

theorem AllFit.cons {line : Nat} {tile : Tile} {tiles : List Tile}
    (ht : tile.Fits line (textOfAll tiles))
    (h : AllFit (line + tile.text.count '\n') tiles) : AllFit line (tile :: tiles) := by
  intro before other after he
  cases before with
  | nil =>
    obtain ⟨rfl, rfl⟩ := List.cons.inj he
    simpa [textOfAll] using ht
  | cons first before =>
    obtain ⟨rfl, rfl⟩ := List.cons.inj he
    simpa [textOfAll, Nat.add_assoc] using h before other after rfl

end Tile

/-- The tiles make up the text, their tokens are the given ones, and each tile fits where it
stands. -/
structure Tiling (line : Nat) (text : List Char) (tokens : List Token) (tiles : List Tile) :
    Prop where
  text_eq : Tile.textOfAll tiles = text
  tokens_eq : tiles.filterMap Tile.token? = tokens
  allFit : Tile.AllFit line tiles

theorem Tiling.cons_skipped {line : Nat} {text after : List Char} {tokens : List Token}
    {tiles : List Tile} (hs : Skipped after text)
    (h : Tiling (line + text.count '\n') after tokens tiles) :
    Tiling line (text ++ after) tokens (.skipped text :: tiles) := by
  obtain ⟨rfl, rfl, hf⟩ := h
  exact ⟨rfl, rfl, .cons (.skipped hs) hf⟩

theorem Tiling.cons_token {line : Nat} {t : Token} {text after : List Char} {tokens : List Token}
    {tiles : List Tile} (hs : Spells t.kind t.lexeme.toList text)
    (hl : t.line = line + text.count '\n')
    (h : Tiling (line + text.count '\n') after tokens tiles) :
    Tiling line (text ++ after) (t :: tokens) (.token t text :: tiles) := by
  obtain ⟨rfl, rfl, hf⟩ := h
  exact ⟨rfl, rfl, .cons (.token hs hl) hf⟩

/-- Skipped text in front is tiled, too; the line moves on with what is left behind. -/
theorem exists_tiling_of_passes {line lineAtRest : Nat} {cs rest : List Char}
    {tokens : List Token} {tiles : List Tile} (hp : Passes rest cs)
    (hl : lineAtRest + rest.count '\n' = line + cs.count '\n')
    (h : Tiling lineAtRest rest tokens tiles) : ∃ all, Tiling line cs tokens all := by
  induction hp generalizing line with
  | here => exact ⟨tiles, by rwa [show line = lineAtRest by omega]⟩
  | @past text after hs _ ih =>
    rw [List.count_append] at hl
    obtain ⟨all, hall⟩ := @ih (line + text.count '\n') (by omega)
    exact ⟨_, hall.cons_skipped hs⟩

/-! ## Reading -/

/-- What scanning one token says: skipped text leads to the token's text, on line `line`, which
spells the token. -/
theorem scan_eq_token {cursor next : Cursor} {t : Token} (h : scan cursor = .token t next) :
    ∃ text line, Passes (text ++ next.rest) cursor.rest ∧ Spells t.kind t.lexeme.toList text ∧
      line + (text ++ next.rest).count '\n' = cursor.line + cursor.rest.count '\n' ∧
      next.line = line + text.count '\n' ∧ t.line = next.line := by
  cases finds_iff.2 h with
  | @token gap text rest after lexeme c kind hs hof =>
    have hhead := Head.append_of_token hof
    refine ⟨text, cursor.line + gap.count '\n', ?_, by simpa using Head.spells_of hof, ?_, ?_, rfl⟩
    · have hp := passes_skip hs
      rwa [← hhead] at hp
    · rw [← skip_append_eq hs, ← hhead]
      simp [Cursor.past, Nat.add_assoc]
    · simp [Cursor.past, Nat.add_assoc]

theorem scan_eq_done {cursor next : Cursor} (h : scan cursor = .done next) :
    Passes [] cursor.rest := by
  cases finds_iff.2 h with
  | done hs => exact passes_skip hs

theorem exists_tiling_scanAll {cursor : Cursor} {tokens : List Token}
    (h : scanAll cursor = .ok tokens) : ∃ tiles, Tiling cursor.line cursor.rest tokens tiles := by
  fun_induction scanAll cursor generalizing tokens with
  | case1 cursor next hs =>
    cases h
    exact exists_tiling_of_passes (scan_eq_done hs) (by simp)
      ⟨rfl, rfl, Tile.allFit_nil (cursor.line + cursor.rest.count '\n')⟩
  | case2 => cases h
  | case3 cursor t next hs ih =>
    cases hn : scanAll next with
    | error fault => simp [hn, Except.map] at h
    | ok others =>
      obtain rfl : t :: others = tokens := by simpa [hn, Except.map] using h
      obtain ⟨tiles, ht⟩ := ih hn
      obtain ⟨text, line, hp, hspell, hcount, hnext, hline⟩ := scan_eq_token hs
      rw [hnext] at ht hline
      exact exists_tiling_of_passes hp hcount (ht.cons_token hspell (by exact_mod_cast hline))

/-- **The tokens of a text tile it**: the text is the concatenation of blanks, whole comments and
the texts of its tokens in order, with nothing left over; each text spells its token, and the
token's line is one more than the number of newlines up to the end of its text. -/
theorem exists_tiling {text : String} {tokens : List Token} (h : ofText text = .ok tokens) :
    ∃ tiles, Tiling 1 text.toList tokens tiles :=
  exists_tiling_scanAll h

theorem exists_tiling_of_comment_and_string :
    ofText "a /* x */\n<<?ph= '\n\\'' // y" =
        .ok [⟨.identifier, 1, "a"⟩, ⟨.lessEqual, 2, "<="⟩, ⟨.string, 3, "\n\\'"⟩] ∧
      ∃ tiles, Tiling 1 "a /* x */\n<<?ph= '\n\\'' // y".toList
        [⟨.identifier, 1, "a"⟩, ⟨.lessEqual, 2, "<="⟩, ⟨.string, 3, "\n\\'"⟩] tiles :=
  ⟨by cbv, exists_tiling (by cbv)⟩

end Cyclomatic.Token
