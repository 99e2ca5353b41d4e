/-!
# Markup

Text for the console is marked up: a tag in square brackets turns a style on or off, and a
backslash in front of a tag makes it text. `escape` writes a message so that its own brackets are
no tags, and `shown` is the text that is seen, without the tags.

Only a bracket that starts like a tag is one. Before a tag, two backslashes stand for one; before
another bracket, one backslash is dropped; elsewhere they stand for themselves.
-/

set_option autoImplicit false

namespace Cyclomatic.Console.Markup

/-! ## Tags -/

/-- The characters with which the inside of a tag starts. -/
def isTagStart (c : Char) : Bool := ('a' ≤ c && c ≤ 'z') || c == '#' || c == '/' || c == '@'

/-- The characters that can follow in a tag. -/
def isTagChar (c : Char) : Bool := c != '[' && c != ']'

/-- What follows a bracket, divided into the inside of a tag and the text after it. -/
def tag? : List Char → Option (List Char × List Char)
  | [] => none
  | c :: rest =>
    if isTagStart c then
      match rest.dropWhile isTagChar with
      | ']' :: after => some (c :: rest.takeWhile isTagChar, after)
      | _ => none
    else none

theorem length_dropWhile_le {α : Type} (p : α → Bool) (l : List α) :
    (l.dropWhile p).length ≤ l.length := (List.dropWhile_sublist p).length_le

/-- The text after a tag is shorter than what follows its bracket. -/
theorem length_lt_of_tag? {cs inside after : List Char} (h : tag? cs = some (inside, after)) :
    after.length < cs.length := by
  cases cs with
  | nil => simp [tag?] at h
  | cons c rest =>
    simp only [tag?] at h
    split at h
    · split at h
      · rename_i r hr
        have hl := length_dropWhile_le isTagChar rest
        rw [hr] at hl
        simp only [Option.some.injEq, Prod.mk.injEq] at h
        rw [← h.2]
        simp only [List.length_cons] at hl ⊢
        omega
      · simp at h
    · simp at h

/-- So many backslashes. -/
def backslashes (n : Nat) : List Char := List.replicate n '\\'

/-! ## Escaping -/

/-- Escapes text that follows `n` backslashes, which are not written yet. -/
def escapeFrom (n : Nat) (cs : List Char) : List Char :=
  match cs with
  | [] => backslashes n
  | '\\' :: rest => escapeFrom (n + 1) rest
  | '[' :: rest =>
    match _h : tag? rest with
    | some (inside, after) =>
      backslashes (2 * n + 1) ++ '[' :: inside ++ ']' :: escapeFrom 0 after
    | none => backslashes n ++ '[' :: escapeFrom 0 rest
  | c :: rest => backslashes n ++ c :: escapeFrom 0 rest
  termination_by cs.length
  decreasing_by
    all_goals simp_wf
    have := length_lt_of_tag? _h
    omega

/-- Whether a text ends in exactly one backslash. -/
def endsInOneBackslash (cs : List Char) : Bool :=
  match cs.reverse with
  | '\\' :: '\\' :: _ => false
  | '\\' :: _ => true
  | _ => false

/-- Writes a message so that its brackets are no tags; a single backslash at its end is doubled,
since a tag may follow. -/
def escape (message : String) : String :=
  let escaped := escapeFrom 0 message.toList
  String.ofList (if endsInOneBackslash escaped then escaped ++ ['\\'] else escaped)

/-! ## Showing -/

/-- The text seen of a markup that follows `n` backslashes, which are not shown yet. -/
def shownFrom (n : Nat) (cs : List Char) : List Char :=
  match cs with
  | [] => backslashes n
  | '\\' :: rest => shownFrom (n + 1) rest
  | '[' :: rest =>
    match _h : tag? rest with
    | some (inside, after) =>
      backslashes (n / 2) ++ (if n % 2 = 1 then '[' :: inside ++ [']'] else []) ++ shownFrom 0 after
    | none => backslashes (n - 1) ++ '[' :: shownFrom 0 rest
  | c :: rest => backslashes n ++ c :: shownFrom 0 rest
  termination_by cs.length
  decreasing_by
    all_goals simp_wf
    have := length_lt_of_tag? _h
    omega

/-- The text seen of a markup. -/
def shown (markup : String) : String := String.ofList (shownFrom 0 markup.toList)

end Cyclomatic.Console.Markup
