import Cyclomatic.Token
import Cyclomatic.Text.Alphanumeric
import Cyclomatic.Text.Digit
import Cyclomatic.Text.Quoted

/-!
# The token at the head of a text

`Head.of c rest` reads one token, or finds a fault, at the head of the text `c :: rest`. The answer
holds the characters read and the ones that follow: `Head.consumed_append_remaining` says that
together they are the text, and `Head.consumed_ne_nil` that at least one character is read.

The longest spelling wins, with one rule apart: after `<` a second `<` is taken, and then as much of
`?php` as there is, whether or not a tag comes of it.
-/

set_option autoImplicit false

namespace Cyclomatic.Token

/-! ## Faults -/

/-- Why no token can be read. -/
inductive Cause where
  /-- The text ends where one more character has to follow. -/
  | endOfText
  | unclosedString
  | untitledHeredoc
  /-- The title of a heredoc does not come again. -/
  | unclosedHeredoc (title : String)
  | unclosedComment
  /-- No token starts with this character. -/
  | unexpectedChar (c : Char)
  deriving DecidableEq, Repr

/-- The words for a cause. -/
def Cause.message : Cause → String
  | .endOfText => "Se esperaba un carácter"
  | .unclosedString => "Cadena sin cerrar"
  | .untitledHeredoc => "Heredoc sin título"
  | .unclosedHeredoc title => "Heredoc '" ++ title ++ "' sin cerrar"
  | .unclosedComment => "Comentario de bloque sin cerrar"
  | .unexpectedChar c => "Carácter inesperado " ++ Text.quoted (String.singleton c)

/-- What stands at the head of a text. -/
inductive Head where
  /-- A token, the characters that write it and the ones that follow. -/
  | token (kind : Kind) (lexeme text rest : List Char)
  /-- A fault, the characters read until it showed and the ones that follow. -/
  | fault (cause : Cause) (text rest : List Char)
  deriving DecidableEq, Repr

namespace Head

/-- The characters read. -/
@[simp] def consumed : Head → List Char
  | token _ _ text _ => text
  | fault _ text _ => text

/-- The characters that follow. -/
@[simp] def remaining : Head → List Char
  | token _ _ _ rest => rest
  | fault _ _ rest => rest

/-! ## Fixed spellings -/

/-- The fixed spellings, a longer one before those it starts with. Spellings that start with `<` are
not among them. -/
def operators : List (Kind × List Char) := [
  (.bangEqualEqual, ['!', '=', '=']), (.equalEqualEqual, ['=', '=', '=']),
  (.thinArrow, ['-', '>']), (.colonColon, [':', ':']), (.bangEqual, ['!', '=']),
  (.equalEqual, ['=', '=']), (.fatArrow, ['=', '>']), (.greaterEqual, ['>', '=']),
  (.orOperator, ['|', '|']), (.andOperator, ['&', '&']),
  (.leftBrace, ['\x7b']), (.rightBrace, ['\x7d']), (.leftParen, ['(']), (.rightParen, [')']),
  (.leftBracket, ['[']), (.rightBracket, [']']), (.comma, [',']), (.dot, ['.']), (.plus, ['+']),
  (.semicolon, [';']), (.hash, ['#']), (.star, ['*']), (.question, ['?']), (.modulo, ['%']),
  (.atSign, ['@']), (.binaryNegation, ['~']), (.slash, ['/']), (.minus, ['-']), (.colon, [':']),
  (.bang, ['!']), (.equal, ['=']), (.greater, ['>']), (.pipe, ['|']), (.reference, ['&'])]

/-- The first fixed spelling that the text starts with. -/
def operator? (cs : List Char) : Option (Kind × List Char) :=
  operators.find? fun (_, spelling) => spelling.isPrefixOf cs

/-! ## Strings and heredocs -/

/-- Splits what follows an opening quote into the string's text and what follows the closing quote.
A quote behind an odd number of backslashes closes nothing; `escaped` tells whether one is due. -/
def stringBody? (quote : Char) (escaped : Bool) : List Char → Option (List Char × List Char)
  | [] => none
  | c :: rest =>
    if c = quote ∧ escaped = false then some ([], rest)
    else (stringBody? quote (c = '\\' && !escaped) rest).map fun (body, after) => (c :: body, after)

/-- Reads a string after its opening quote. -/
def string (quote : Char) (cs : List Char) : Head :=
  match stringBody? quote false cs with
  | some (body, rest) => .token .string body (quote :: body ++ [quote]) rest
  | none => .fault .unclosedString (quote :: cs) []

/-- Splits a text before the first occurrence of `mark`. -/
def splitBefore? (mark : List Char) : List Char → Option (List Char × List Char)
  | [] => if mark.isEmpty then some ([], []) else none
  | c :: rest =>
    if mark.isPrefixOf (c :: rest) then some ([], c :: rest)
    else (splitBefore? mark rest).map fun (before, after) => (c :: before, after)

/-- Reads the body of a heredoc, up to its title; `opening` is what was read before the body. -/
def heredocBody (opening title body : List Char) : Head :=
  if title.isEmpty then .fault .untitledHeredoc opening body
  else
    match splitBefore? title body with
    | some (doc, rest) =>
      .token .heredoc doc (opening ++ doc ++ title) (rest.drop title.length)
    | none => .fault (.unclosedHeredoc (String.ofList title)) (opening ++ body) []

/-- Reads a heredoc after `<<<`. Its title ends with the line, or with the quote that it starts with
and one character more. -/
def heredoc (cs : List Char) : Head :=
  let start := ['<', '<', '<']
  match cs with
  | [] => .fault .endOfText start []
  | q :: quotedTitle =>
    if q = '\'' ∨ q = '"' then
      let title := quotedTitle.takeWhile (· ≠ q)
      match quotedTitle.dropWhile (· ≠ q) with
      | close :: gap :: body => heredocBody (start ++ q :: title ++ [close, gap]) title body
      | _ => .fault .endOfText (start ++ cs) []
    else
      let title := cs.takeWhile (· ≠ '\n')
      match cs.dropWhile (· ≠ '\n') with
      | gap :: body => heredocBody (start ++ title ++ [gap]) title body
      | [] => .fault .endOfText (start ++ cs) []

/-! ## The rest -/

/-- The longest common beginning of two texts. -/
def commonStart : List Char → List Char → List Char
  | a :: as, b :: bs => if a = b then a :: commonStart as bs else []
  | _, _ => []

/-- What makes `<` a tag. -/
def tagName : List Char := ['?', 'p', 'h', 'p']

/-- Reads a tag or a comparison after `opening`, which is one `<` or two. -/
def comparison (opening cs : List Char) : Head :=
  let tag := commonStart tagName cs
  let rest := cs.drop tag.length
  if tag = tagName then .token .phpTag ('<' :: tagName) (opening ++ tag) rest
  else
    match rest with
    | '=' :: after => .token .lessEqual ['<', '='] (opening ++ tag ++ ['=']) after
    | _ => .token .less ['<'] (opening ++ tag) rest

/-- Reads what `<` starts. -/
def angle : List Char → Head
  | '<' :: '<' :: cs => heredoc cs
  | '<' :: cs => comparison ['<', '<'] cs
  | cs => comparison ['<'] cs

/-- Reads a number: digits, and possibly a point and digits. -/
def number (c : Char) (cs : List Char) : Head :=
  let whole := c :: cs.takeWhile Text.isDigit
  match cs.dropWhile Text.isDigit with
  | '.' :: after =>
    let text := whole ++ '.' :: after.takeWhile Text.isDigit
    .token .number text text (after.dropWhile Text.isDigit)
  | after => .token .number whole whole after

/-- Whether a character can start an identifier. -/
def startsIdentifier (c : Char) : Bool := c == '_' || c == '$' || c == '\\' || c.isAlpha

/-- Whether a character can go on an identifier. -/
def continuesIdentifier (c : Char) : Bool := Text.isAlphanumeric c || c == '_' || c == '\\'

/-- Reads an identifier. -/
def identifier (c : Char) (cs : List Char) : Head :=
  let text := c :: cs.takeWhile continuesIdentifier
  .token .identifier text text (cs.dropWhile continuesIdentifier)

/-- Reads the token at the head of `c :: cs`, which is no blank and starts no comment. -/
def of (c : Char) (cs : List Char) : Head :=
  if c = '<' then angle cs
  else
    match operator? (c :: cs) with
    | some (kind, spelling) =>
      .token kind spelling spelling ((c :: cs).drop spelling.length)
    | none =>
      if c = '\'' ∨ c = '"' then string c cs
      else if c.isDigit then number c cs
      else if startsIdentifier c then identifier c cs
      else .fault (.unexpectedChar c) [c] cs

/-! ## Nothing is lost -/

theorem stringBody?_eq_some {quote : Char} {escaped : Bool} {cs body rest : List Char}
    (h : stringBody? quote escaped cs = some (body, rest)) : body ++ quote :: rest = cs := by
  induction cs generalizing escaped body rest with
  | nil => simp [stringBody?] at h
  | cons c cs ih =>
    rw [stringBody?] at h
    split at h
    · rename_i hq
      simp only [Option.some.injEq, Prod.mk.injEq] at h
      obtain ⟨rfl, rfl⟩ := h
      simp [hq.1]
    · simp only [Option.map_eq_some_iff, Prod.mk.injEq, Prod.exists] at h
      obtain ⟨body', rest', h', rfl, rfl⟩ := h
      simp [ih h']

theorem splitBefore?_eq_some {mark cs before after : List Char}
    (h : splitBefore? mark cs = some (before, after)) :
    before ++ after = cs ∧ mark <+: after := by
  induction cs generalizing before after with
  | nil =>
    rw [splitBefore?] at h
    split at h
    · rename_i hm
      simp only [Option.some.injEq, Prod.mk.injEq] at h
      obtain ⟨rfl, rfl⟩ := h
      simp [List.isEmpty_iff.1 hm]
    · simp at h
  | cons c cs ih =>
    rw [splitBefore?] at h
    split at h
    · rename_i hm
      simp only [Option.some.injEq, Prod.mk.injEq] at h
      obtain ⟨rfl, rfl⟩ := h
      exact ⟨rfl, List.isPrefixOf_iff_prefix.1 hm⟩
    · simp only [Option.map_eq_some_iff, Prod.mk.injEq, Prod.exists] at h
      obtain ⟨before', after', h', rfl, rfl⟩ := h
      exact ⟨by simp [(ih h').1], (ih h').2⟩

theorem commonStart_begins (as bs : List Char) : commonStart as bs <+: bs := by
  induction as generalizing bs with
  | nil => simp [commonStart]
  | cons a as ih =>
    cases bs with
    | nil => simp [commonStart]
    | cons b bs =>
      rw [commonStart]
      split
      · rename_i h
        subst h
        simpa using ih bs
      · simp

theorem operator?_begins {cs spelling : List Char} {kind : Kind}
    (h : operator? cs = some (kind, spelling)) : spelling <+: cs ∧ spelling ≠ [] := by
  have hm := List.mem_of_find?_eq_some h
  have hp := List.find?_some h
  refine ⟨List.isPrefixOf_iff_prefix.1 hp, ?_⟩
  have hall : ∀ o ∈ operators, o.2 ≠ [] := by decide
  exact hall _ hm

theorem string_append (quote : Char) (cs : List Char) :
    (string quote cs).consumed ++ (string quote cs).remaining = quote :: cs := by
  unfold string
  split
  · rename_i body rest h
    simp [← stringBody?_eq_some h]
  · simp

theorem heredocBody_append (opening title body : List Char) :
    (heredocBody opening title body).consumed ++ (heredocBody opening title body).remaining
      = opening ++ body := by
  unfold heredocBody
  split
  · simp
  · split
    · rename_i doc after h
      obtain ⟨rfl, tail, rfl⟩ := splitBefore?_eq_some h
      simp
    · simp

theorem heredoc_append (cs : List Char) :
    (heredoc cs).consumed ++ (heredoc cs).remaining = '<' :: '<' :: '<' :: cs := by
  unfold heredoc
  split
  · rfl
  · rename_i q quotedTitle
    dsimp only
    split
    · split
      · rename_i close gap body h
        have hs := List.takeWhile_append_dropWhile (p := (· ≠ q)) (l := quotedTitle)
        rw [h] at hs
        rw [heredocBody_append]
        conv => rhs; rw [← hs]
        simp
      · simp
    · split
      · rename_i gap body h
        have hs := List.takeWhile_append_dropWhile (p := (· ≠ '\n')) (l := q :: quotedTitle)
        rw [h] at hs
        rw [heredocBody_append]
        conv => rhs; rw [← hs]
        simp
      · simp

theorem comparison_append (opening cs : List Char) :
    (comparison opening cs).consumed ++ (comparison opening cs).remaining = opening ++ cs := by
  obtain ⟨tail, hs⟩ := commonStart_begins tagName cs
  unfold comparison
  generalize commonStart tagName cs = tag at hs ⊢
  subst hs
  simp only [List.drop_left]
  split
  · simp
  · split <;> simp

theorem angle_append (cs : List Char) :
    (angle cs).consumed ++ (angle cs).remaining = '<' :: cs := by
  unfold angle
  split
  · exact heredoc_append _
  · rw [comparison_append]; rfl
  · rw [comparison_append]; rfl

theorem number_append (c : Char) (cs : List Char) :
    (number c cs).consumed ++ (number c cs).remaining = c :: cs := by
  have hs := List.takeWhile_append_dropWhile (p := Text.isDigit) (l := cs)
  unfold number
  dsimp only
  split
  · rename_i after h
    rw [h] at hs
    conv => rhs; rw [← hs]
    simp
  · simp

/-- What is read and what follows make up the text. -/
theorem consumed_append_remaining (c : Char) (cs : List Char) :
    (of c cs).consumed ++ (of c cs).remaining = c :: cs := by
  unfold of
  split
  · rename_i h
    rw [angle_append, h]
  · split
    · rename_i kind spelling h
      obtain ⟨tail, ht⟩ := (operator?_begins h).1
      rw [← ht]
      simp
    · split
      · exact string_append c cs
      · split
        · exact number_append c cs
        · split
          · simp [identifier]
          · simp

/-! ## Something is read -/

theorem heredocBody_consumed_ne_nil {opening : List Char} (title body : List Char)
    (h : opening ≠ []) : (heredocBody opening title body).consumed ≠ [] := by
  unfold heredocBody
  split
  · exact h
  · split <;> simp [h]

theorem heredoc_consumed_ne_nil (cs : List Char) : (heredoc cs).consumed ≠ [] := by
  unfold heredoc
  split
  · simp
  · dsimp only
    split
    · split
      · exact heredocBody_consumed_ne_nil _ _ (by simp)
      · simp
    · split
      · exact heredocBody_consumed_ne_nil _ _ (by simp)
      · simp

theorem comparison_consumed_ne_nil {opening : List Char} (cs : List Char) (h : opening ≠ []) :
    (comparison opening cs).consumed ≠ [] := by
  unfold comparison
  dsimp only
  split
  · simp [h]
  · split <;> simp [h]

/-- At least one character is read. -/
theorem consumed_ne_nil (c : Char) (cs : List Char) : (of c cs).consumed ≠ [] := by
  unfold of
  split
  · unfold angle
    split
    · exact heredoc_consumed_ne_nil _
    · exact comparison_consumed_ne_nil _ (by simp)
    · exact comparison_consumed_ne_nil _ (by simp)
  · split
    · rename_i h
      simpa using (operator?_begins h).2
    · split
      · unfold string
        split <;> simp
      · split
        · unfold number
          dsimp only
          split <;> simp
        · split
          · simp [identifier]
          · simp

/-- What follows is shorter than the text. -/
theorem remaining_length_lt (c : Char) (cs : List Char) :
    (of c cs).remaining.length < (c :: cs).length := by
  have h := congrArg List.length (consumed_append_remaining c cs)
  have hpos := List.length_pos_iff.2 (consumed_ne_nil c cs)
  rw [List.length_append] at h
  omega

end Head

end Cyclomatic.Token
