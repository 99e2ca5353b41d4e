import Cyclomatic.Token.Scan

/-!
# How tokens are spelled

`Spells kind lexeme text`: the characters `text` write a token of kind `kind` with the lexeme
`lexeme`, by the rules of the language alone, without the reader. `Head.spells_of`: the characters
that are read for a token spell it. It is proved reader by reader (`spells_heredoc`,
`spells_comparison`, `spells_number`), each for what stands at the head of any text.
-/

set_option autoImplicit false

namespace Cyclomatic.Token

/-- The spelling of the kinds that are always written the same way, tags and comparisons with `<`
apart. -/
def Kind.sign? : Kind → Option (List Char)
  | .leftParen => some ['(']
  | .rightParen => some [')']
  | .leftBrace => some ['\x7b']
  | .rightBrace => some ['\x7d']
  | .leftBracket => some ['[']
  | .rightBracket => some [']']
  | .comma => some [',']
  | .dot => some ['.']
  | .minus => some ['-']
  | .plus => some ['+']
  | .semicolon => some [';']
  | .slash => some ['/']
  | .star => some ['*']
  | .question => some ['?']
  | .colon => some [':']
  | .pipe => some ['|']
  | .hash => some ['#']
  | .reference => some ['&']
  | .modulo => some ['%']
  | .atSign => some ['@']
  | .binaryNegation => some ['~']
  | .bang => some ['!']
  | .bangEqual => some ['!', '=']
  | .bangEqualEqual => some ['!', '=', '=']
  | .equal => some ['=']
  | .equalEqual => some ['=', '=']
  | .equalEqualEqual => some ['=', '=', '=']
  | .greater => some ['>']
  | .greaterEqual => some ['>', '=']
  | .orOperator => some ['|', '|']
  | .andOperator => some ['&', '&']
  | .fatArrow => some ['=', '>']
  | .thinArrow => some ['-', '>']
  | .colonColon => some [':', ':']
  | .phpTag | .less | .lessEqual | .heredoc | .identifier | .string | .number => none

/-- One `<` or two. -/
def IsAngle (text : List Char) : Prop := text = ['<'] ∨ text = ['<', '<']

/-- A beginning of `?php`, possibly empty, but not all of it. -/
def IsPartOfTag (text : List Char) : Prop :=
  text <+: ['?', 'p', 'h', 'p'] ∧ text ≠ ['?', 'p', 'h', 'p']

/-- Whether a text is an identifier. -/
def isIdentifierText : List Char → Bool
  | [] => false
  | c :: cs => Head.startsIdentifier c && cs.all Head.continuesIdentifier

/-- `text` writes a token of the kind with the lexeme. -/
inductive Spells : Kind → List Char → List Char → Prop
  | sign {kind : Kind} {text : List Char} (h : kind.sign? = some text) : Spells kind text text
  | tag {opening : List Char} (ho : IsAngle opening) :
      Spells .phpTag ['<', '?', 'p', 'h', 'p'] (opening ++ ['?', 'p', 'h', 'p'])
  | less {opening part : List Char} (ho : IsAngle opening) (hp : IsPartOfTag part) :
      Spells .less ['<'] (opening ++ part)
  | lessEqual {opening part : List Char} (ho : IsAngle opening) (hp : IsPartOfTag part) :
      Spells .lessEqual ['<', '='] (opening ++ part ++ ['='])
  | identifier {text : List Char} (h : isIdentifierText text = true) :
      Spells .identifier text text
  | integer {c : Char} {digits : List Char} (hc : c.isDigit = true)
      (hd : ∀ d ∈ digits, Text.isDigit d = true) : Spells .number (c :: digits) (c :: digits)
  | decimal {c : Char} {digits places : List Char} (hc : c.isDigit = true)
      (hd : ∀ d ∈ digits, Text.isDigit d = true) (hp : ∀ d ∈ places, Text.isDigit d = true) :
      Spells .number (c :: digits ++ '.' :: places) (c :: digits ++ '.' :: places)
  | string {quote : Char} {lexeme : List Char} (hq : quote = '\'' ∨ quote = '"') :
      Spells .string lexeme (quote :: lexeme ++ [quote])
  | heredoc {title lexeme : List Char} (ht : title ≠ []) (hn : '\n' ∉ title) :
      Spells .heredoc lexeme (['<', '<', '<'] ++ title ++ ['\n'] ++ lexeme ++ title)
  | quotedHeredoc {quote gap : Char} {title lexeme : List Char} (ht : title ≠ [])
      (hq : quote = '\'' ∨ quote = '"') (hn : quote ∉ title) :
      Spells .heredoc lexeme
        (['<', '<', '<'] ++ [quote] ++ title ++ [quote] ++ [gap] ++ lexeme ++ title)

namespace Head

/-! ## Runs of characters -/

/-- What stops a run fails its test. -/
theorem not_of_dropWhile_eq_cons {p : Char → Bool} {cs after : List Char} {c : Char}
    (h : cs.dropWhile p = c :: after) : p c = false := by
  have := List.head?_dropWhile_not p cs
  rw [h] at this
  simpa using this

theorem forall_mem_takeWhile (p : Char → Bool) (cs : List Char) :
    ∀ c ∈ cs.takeWhile p, p c = true := by
  have := List.all_takeWhile (p := p) (l := cs)
  rwa [List.all_eq_true] at this

theorem commonStart_prefix_left (as bs : List Char) : commonStart as bs <+: as := by
  induction as generalizing bs with
  | nil => simp [commonStart]
  | cons a as ih =>
    cases bs with
    | nil => simp [commonStart]
    | cons b bs =>
      rw [commonStart]
      split
      · simpa using ih bs
      · simp

/-! ## The readers -/

theorem sign?_of_operator? {cs spelling : List Char} {kind : Kind}
    (h : operator? cs = some (kind, spelling)) : kind.sign? = some spelling := by
  have hall : ∀ entry ∈ operators, entry.1.sign? = some entry.2 := by decide
  exact hall _ (List.mem_of_find?_eq_some h)

theorem spells_string {quote : Char} {cs lexeme text rest : List Char} {kind : Kind}
    (hq : quote = '\'' ∨ quote = '"') (h : string quote cs = .token kind lexeme text rest) :
    Spells kind lexeme text := by
  unfold string at h
  split at h
  · cases h
    exact .string hq
  · cases h

/-- What a heredoc's body reads is its text up to the title, and the title. -/
theorem heredocBody_eq_token {opening title body lexeme text rest : List Char} {kind : Kind}
    (h : heredocBody opening title body = .token kind lexeme text rest) :
    kind = .heredoc ∧ title ≠ [] ∧ text = opening ++ lexeme ++ title := by
  unfold heredocBody at h
  split at h
  · cases h
  · rename_i ht
    split at h
    · cases h
      exact ⟨rfl, by simpa using ht, rfl⟩
    · cases h

theorem spells_heredoc {cs lexeme text rest : List Char} {kind : Kind}
    (h : heredoc cs = .token kind lexeme text rest) : Spells kind lexeme text := by
  unfold heredoc at h
  split at h
  · cases h
  · rename_i q quotedTitle
    dsimp only at h
    split at h
    · rename_i hq
      split at h
      · rename_i close gap body hd
        obtain ⟨rfl, ht, rfl⟩ := heredocBody_eq_token h
        obtain rfl : close = q := by simpa using not_of_dropWhile_eq_cons hd
        have hn : close ∉ quotedTitle.takeWhile (· ≠ close) := fun hm => by
          simpa using forall_mem_takeWhile _ _ _ hm
        have hs : Spells .heredoc lexeme (['<', '<', '<'] ++ [close] ++ _ ++ [close] ++ [gap] ++
            lexeme ++ _) := .quotedHeredoc ht hq hn
        simpa using hs
      · cases h
    · split at h
      · rename_i gap body hd
        obtain ⟨rfl, ht, rfl⟩ := heredocBody_eq_token h
        obtain rfl : gap = '\n' := by simpa using not_of_dropWhile_eq_cons hd
        have hn : '\n' ∉ (q :: quotedTitle).takeWhile (· ≠ '\n') := fun hm => by
          simpa using forall_mem_takeWhile _ _ _ hm
        have hs : Spells .heredoc lexeme (['<', '<', '<'] ++ _ ++ ['\n'] ++ lexeme ++ _) :=
          .heredoc ht hn
        simpa using hs
      · cases h

theorem spells_comparison {opening cs lexeme text rest : List Char} {kind : Kind}
    (ho : IsAngle opening) (h : comparison opening cs = .token kind lexeme text rest) :
    Spells kind lexeme text := by
  have hpre := commonStart_prefix_left tagName cs
  unfold comparison at h
  dsimp only at h
  split at h
  · rename_i htag
    cases h
    rw [htag]
    exact .tag ho
  · rename_i htag
    have hpart : IsPartOfTag (commonStart tagName cs) := ⟨hpre, htag⟩
    split at h
    · cases h
      exact .lessEqual ho hpart
    · cases h
      exact .less ho hpart

theorem spells_angle {cs lexeme text rest : List Char} {kind : Kind}
    (h : angle cs = .token kind lexeme text rest) : Spells kind lexeme text := by
  unfold angle at h
  split at h
  · exact spells_heredoc h
  · exact spells_comparison (.inr rfl) h
  · exact spells_comparison (.inl rfl) h

theorem spells_number {c : Char} {cs lexeme text rest : List Char} {kind : Kind}
    (hc : c.isDigit = true) (h : number c cs = .token kind lexeme text rest) :
    Spells kind lexeme text := by
  unfold number at h
  dsimp only at h
  split at h
  · cases h
    exact .decimal hc (forall_mem_takeWhile _ _) (forall_mem_takeWhile _ _)
  · cases h
    exact .integer hc (forall_mem_takeWhile _ _)

theorem spells_identifier {c : Char} {cs lexeme text rest : List Char} {kind : Kind}
    (hc : startsIdentifier c = true) (h : identifier c cs = .token kind lexeme text rest) :
    Spells kind lexeme text := by
  cases h
  exact .identifier (by simp [isIdentifierText, hc, List.all_takeWhile])

/-- **The characters read for a token spell it.** -/
theorem spells_of {c : Char} {cs lexeme text rest : List Char} {kind : Kind}
    (h : of c cs = .token kind lexeme text rest) : Spells kind lexeme text := by
  unfold of at h
  split at h
  · exact spells_angle h
  · split at h
    · rename_i hop
      cases h
      exact .sign (sign?_of_operator? hop)
    · split at h
      · rename_i hq
        exact spells_string hq h
      · split at h
        · rename_i hd
          exact spells_number hd h
        · split at h
          · rename_i hs
            exact spells_identifier hs h
          · cases h

end Head

end Cyclomatic.Token
