import Cyclomatic.Console
import Cyclomatic.Proofs.Console.Terminal

/-!
# Messages on the console

A message is escaped and put into a frame, between the tags of a style; items of a list are escaped
and put behind their numbers. On every terminal that keeps to `Terminal.Documented`, no bracket of a
message is ever taken for a tag, but its backslashes are not all shown as they are: one is lost in
front of a bracket that starts no tag, those at the end are halved by the closing tag behind them,
and a single one at the end of an item is doubled. `display_literal_iff` says exactly when a message
is shown letter for letter.
-/

set_option autoImplicit false

namespace Cyclomatic.Console

open Markup

variable {isEmoji : List Char → Bool}

/-! ## Frames -/

/-- The frames of messages. -/
inductive Frame where
  | success | danger | error | title | underlined | question
  deriving DecidableEq, Repr

namespace Frame

/-- The style of a frame. -/
def style : Frame → String
  | success => "green"
  | danger | error => "red"
  | title | underlined => titleStyle
  | question => "blue"

/-- The text of a frame in front of the message. -/
def before : Frame → String
  | success | danger => "\n"
  | error => "\nError: "
  | title => "\n* --- "
  | underlined | question => ""

/-- The text of a frame behind the message. -/
def behind : Frame → String
  | success | danger | error => "\n"
  | title => " --- *\n"
  | underlined | question => ""

theorem isInside_style (f : Frame) : IsInside f.style.toList := by cases f <;> decide +kernel

theorem plain_before (f : Frame) : f.before.toList.all isPlain = true := by
  cases f <;> decide +kernel

theorem plain_behind (f : Frame) : f.behind.toList.all isPlain = true := by
  cases f <;> decide +kernel

theorem fitsBefore_before (f : Frame) : FitsBefore f.before.toList := by
  cases f <;> exact ⟨by decide +kernel, by decide +kernel, by decide +kernel⟩

theorem fitsBehind_behind (f : Frame) : FitsBehind f.behind.toList := by
  cases f <;> exact ⟨by decide +kernel, by decide +kernel, by decide +kernel⟩

/-- A closing tag that is text stands behind its message like the text behind it. -/
theorem fitsBehind_closing (f : Frame) : FitsBehind ("[/]" ++ f.behind).toList := by
  cases f <;> exact ⟨by decide +kernel, by decide +kernel, by decide +kernel⟩

theorem closes_style (f : Frame) (closings : List String) (h : closings = [] ∨ closings = ["/"]) :
    Closes 0 (f.style :: closings) = true := by
  rcases h with rfl | rfl <;> cases f <;> decide +kernel

section

variable [Terminal]

/-- Shows a message in a frame. -/
def display : Frame → String → String
  | success => Console.success
  | danger => Console.danger
  | error => Console.error
  | title => Console.title
  | underlined => Console.underlined
  | question => Console.question

/-- The markup of a message in a frame. -/
def markup (f : Frame) (message : String) : String :=
  f.before ++ styled f.style message ++ f.behind

theorem display_eq (f : Frame) (message : String) :
    f.display message = Terminal.render (f.markup message) := by
  cases f with
  | success | danger | error | title => rfl
  | underlined => simp [display, markup, before, style, behind, Console.underlined, markupLine]
  | question => simp [display, markup, before, style, behind, Console.question, markupLine]

section

variable (h : Terminal.Documented isEmoji)
include h

/-- In a frame the tag of the style stands in front of the message. -/
theorem partsFrom_markup (f : Frame) (message : String) :
    partsFrom 0 (f.markup message).toList =
      chars f.before.toList ++ Part.tag f.style.toList ::
        (partsInTags message ++ chars f.behind.toList) := by
  have htext : (f.markup message).toList = f.before.toList ++ '[' :: (f.style.toList ++
      ']' :: ((escape message).toList ++ '[' :: '/' :: ']' :: f.behind.toList)) := by
    simp [markup, styled, h.escape]
  rw [htext, partsFrom_plain f.plain_before, partsFrom_tag (f.isInside_style.tag? _),
    partsFrom_inTags, partsFrom_of_plain f.plain_behind]
  rfl

theorem shown_markup (f : Frame) (message : String) :
    shown (f.markup message) = f.before ++ seenInTags message ++ f.behind := by
  rw [shown, shownFrom_eq, partsFrom_markup h, ← String.toList_inj]
  simp [List.filterMap_cons, Part.char?, filterMap_char?_partsInTags]

theorem tags_markup (f : Frame) (message : String) :
    tags (f.markup message) =
      f.style :: if ending message.toList % 2 = 1 then [] else ["/"] := by
  rw [tags, partsFrom_markup h]
  simp [Part.tag?, filterMap_tag?_partsInTags]

theorem printable_shown (f : Frame) {message : String} (hm : Printable isEmoji message.toList) :
    Printable isEmoji (shown (f.markup message)).toList := by
  have hseen := hm.kept_stem h.names (ending message.toList / 2)
  have htext (closing : String) : (f.before ++ (String.ofList (kept (stem message.toList) ++
        backslashes (ending message.toList / 2)) ++ closing) ++ f.behind).toList =
      f.before.toList ++ ((kept (stem message.toList) ++
        backslashes (ending message.toList / 2)) ++ (closing ++ f.behind).toList) := by
    simp
  rw [shown_markup h, seenInTags]
  split
  case isTrue =>
    rw [htext "[/]"]
    exact hseen.between h.names f.fitsBefore_before f.fitsBehind_closing
  case isFalse =>
    rw [htext "", String.empty_append]
    exact hseen.between h.names f.fitsBefore_before f.fitsBehind_behind

theorem display_eq_seen (f : Frame) {message : String} (hm : Printable isEmoji message.toList) :
    f.display message = line (f.before ++ seenInTags message ++ f.behind) := by
  have hcloses : Closes 0 (tags (f.markup message)) = true := by
    rw [tags_markup h]
    apply f.closes_style
    split
    · exact .inl rfl
    · exact .inr rfl
  rw [display_eq, h.render _ hcloses (printable_shown h f hm), shown_markup h, line]

end

end

end Frame

/-! ## Lists -/

/-- An item of a list behind its number. -/
def numbered (number : Nat) (item : String) : String := "  " ++ toString number ++ ". " ++ item

theorem toList_numbered (number : Nat) (item : String) :
    (numbered number item).toList = ("  " ++ toString number ++ ". ").toList ++ item.toList :=
  String.toList_append

theorem all_number {p : Char → Bool} (hp : ∀ c, c.isDigit = true → p c = true)
    (hblank : p ' ' = true) (hdot : p '.' = true) (number : Nat) :
    ("  " ++ toString number ++ ". ").toList.all p = true := by
  have hdigits : (toString number).toList.all p = true := by
    rw [Nat.toString_eq_repr, Nat.toList_repr, List.all_eq_true]
    exact fun c hc => hp c (Nat.isDigit_of_mem_toDigits (by decide) (by decide) hc)
  rw [String.toList_append, String.toList_append, List.all_append, List.all_append, hdigits]
  simp [hblank, hdot]

theorem isPlain_of_isDigit {c : Char} (h : c.isDigit = true) : isPlain c = true := by
  have hslash : c ≠ '\\' := by rintro rfl; exact absurd h (by decide)
  have hopening : c ≠ '[' := by rintro rfl; exact absurd h (by decide)
  simp [isPlain, hslash, hopening]

theorem isPrinted_of_isDigit {c : Char} (h : c.isDigit = true) : isPrinted c = true := by
  rw [Char.isDigit, Bool.and_eq_true, decide_eq_true_iff, decide_eq_true_iff] at h
  have hlow : 48 ≤ c.toNat := UInt32.le_iff_toNat_le.1 h.1
  have hhigh : c.toNat ≤ 57 := UInt32.le_iff_toNat_le.1 h.2
  simp only [isPrinted, Bool.or_eq_true, Bool.and_eq_true, decide_eq_true_iff]
  omega

theorem plain_number (number : Nat) :
    ("  " ++ toString number ++ ". ").toList.all isPlain = true :=
  all_number (fun _ => isPlain_of_isDigit) rfl rfl number

theorem fitsBefore_number (number : Nat) : FitsBefore ("  " ++ toString number ++ ". ").toList where
  printed := all_number (fun _ => isPrinted_of_isDigit) rfl rfl number
  apart := by
    have hlast : ("  " ++ toString number ++ ". ").toList.getLast? = some ' ' := by
      rw [String.toList_append]
      exact List.getLast?_append_of_ne_nil _ (by decide)
    rw [hlast]
    rfl
  count := by
    have hcolon (c : Char) (h : c.isDigit = true) : (c != ':') = true := by
      have : c ≠ ':' := by rintro rfl; exact absurd h (by decide)
      simpa using this
    have hall := all_number hcolon rfl rfl number
    have hnone : ':' ∉ ("  " ++ toString number ++ ". ").toList := fun hmem =>
      absurd (List.all_eq_true.1 hall _ hmem) (by decide)
    rw [List.count_eq_zero_of_not_mem hnone]
    exact Nat.zero_le 1

section

variable [Terminal]

/-- The lines of a list, numbered from `number`. -/
def numberedLines (number : Nat) (items : List String) : String :=
  String.join ((items.zipIdx number).map fun (item, i) => line (numbered i item))

theorem numberedLines_cons (number : Nat) (message : String) (items : List String) :
    numberedLines number (message :: items) =
      line (numbered number message) ++ numberedLines (number + 1) items := by
  rw [numberedLines, List.zipIdx_cons, List.map_cons, String.join_cons]
  rfl

/-- The markup of an item of a list. -/
def itemMarkup (number : Nat) (message : String) : String :=
  numbered number (Terminal.escape message)

section

variable (h : Terminal.Documented isEmoji)
include h

theorem partsFrom_itemMarkup (number : Nat) (message : String) :
    partsFrom 0 (itemMarkup number message).toList =
      chars (numbered number (seenAtEnd message)).toList := by
  rw [itemMarkup, h.escape, toList_numbered, toList_numbered, partsFrom_plain (plain_number number),
    partsFrom_atEnd, chars, chars, chars, List.map_append]

theorem shown_itemMarkup (number : Nat) (message : String) :
    shown (itemMarkup number message) = numbered number (seenAtEnd message) := by
  rw [shown, shownFrom_eq, partsFrom_itemMarkup h, filterMap_char?_chars, String.ofList_toList]

theorem tags_itemMarkup (number : Nat) (message : String) :
    tags (itemMarkup number message) = [] := by
  rw [tags, partsFrom_itemMarkup h, filterMap_tag?_chars]

theorem printable_shown_item (number : Nat) {message : String}
    (hm : Printable isEmoji message.toList) :
    Printable isEmoji (shown (itemMarkup number message)).toList := by
  have hnone : FitsBehind [] := ⟨rfl, rfl, Nat.zero_le 1⟩
  have hseen := (hm.kept_stem h.names (ending message.toList)).between h.names
    (fitsBefore_number number) hnone
  rw [List.append_nil] at hseen
  rwa [shown_itemMarkup h, toList_numbered, seenAtEnd, String.toList_ofList]

theorem item_eq_seen (number : Nat) {message : String} (hm : Printable isEmoji message.toList) :
    item number message = line (numbered number (seenAtEnd message)) := by
  have hcloses : Closes 0 (tags (itemMarkup number message)) = true := by
    rw [tags_itemMarkup h]
    rfl
  have hitem : item number message = Terminal.render (itemMarkup number message) := rfl
  rw [hitem, h.render _ hcloses (printable_shown_item h number hm), shown_itemMarkup h, line]

theorem itemsFrom_eq_seen (number : Nat) {items : List String}
    (hm : ∀ message ∈ items, Printable isEmoji message.toList) :
    itemsFrom number items = numberedLines number (items.map seenAtEnd) := by
  induction items generalizing number with
  | nil => rfl
  | cons message items ih =>
    obtain ⟨hmessage, hitems⟩ := List.forall_mem_cons.1 hm
    rw [itemsFrom, item_eq_seen h number hmessage, ih _ hitems, List.map_cons, numberedLines_cons]

end

/-! ## Letter for letter -/

/-- **When messages are shown letter for letter.** In a frame no bracket of a message is taken for a
tag, and the message is seen as it is exactly if none of its backslashes stands directly in front
of a bracket that starts no tag, and it ends in one backslash at most. In a list no bracket of an
item is taken for a tag either, and an item is seen as it is exactly if it has no such backslash and
does not end in a single one. Whatever is seen is written like a text that is no markup. -/
theorem display_literal_iff (h : Terminal.Documented isEmoji) (f : Frame) {message : String}
    (hm : Printable isEmoji message.toList) {items : List String}
    (hi : ∀ item ∈ items, Printable isEmoji item.toList) :
    f.display message = Terminal.render (f.markup message) ∧
    tags (f.markup message) = (f.style :: if ending message.toList % 2 = 1 then [] else ["/"]) ∧
    f.display message = line (f.before ++ seenInTags message ++ f.behind) ∧
    (seenInTags message = message ↔
      KeepsBackslashes message.toList ∧ trail message.toList ≤ 1) ∧
    (∀ (number : Nat) (message : String),
      item number message = Terminal.render (itemMarkup number message) ∧
        tags (itemMarkup number message) = []) ∧
    list items = numberedLines 1 (items.map seenAtEnd) ∧
    (items.map seenAtEnd = items ↔
      ∀ item ∈ items, KeepsBackslashes item.toList ∧ trail item.toList ≠ 1) := by
  refine ⟨f.display_eq message, f.tags_markup h message, f.display_eq_seen h hm,
    seenInTags_eq_iff message, fun number message => ⟨rfl, tags_itemMarkup h number message⟩,
    itemsFrom_eq_seen h 1 hi, ?_⟩
  have hmap := List.map_inj_left (l := items) (f := seenAtEnd) (g := id)
  simp only [List.map_id, id, seenAtEnd_eq_iff] at hmap
  exact hmap

end

/-- The name of one emoji. -/
def smileOnly (name : List Char) : Bool := name == "smile".toList

/-- The wide terminal knows no emoji, so nothing is asked of it where a text has one. -/
theorem documented_wide : @Terminal.Documented wide smileOnly where
  escape _ := rfl
  render _ _ _ := rfl
  names name hname c hc := by
    have hapart : separators.all (!"smile".toList.contains ·) = true := by decide +kernel
    rw [eq_of_beq hname]
    simpa using List.all_eq_true.1 hapart c hc

/-- The closing tag behind three backslashes is text, and a backslash at the end of an item is
doubled. -/
theorem display_literal_iff_of_wide :
    Frame.error.display "a\\[0] Foo[Bar]:\\\\\\" = "\nError: a[0] Foo[Bar]:\\[/]\n\n" ∧
    list ["App\\User", "Lib\\"] = "  1. App\\User\n  2. Lib\\\\\n" := by
  have hm : Printable smileOnly "a\\[0] Foo[Bar]:\\\\\\".toList :=
    ⟨by decide +kernel, not_hasCode_of_count (by decide +kernel)⟩
  have hi (item : String) (hitem : item ∈ ["App\\User", "Lib\\"]) :
      Printable smileOnly item.toList := by
    rcases List.mem_pair.1 hitem with rfl | rfl <;>
      exact ⟨by decide +kernel, not_hasCode_of_count (by decide +kernel)⟩
  obtain ⟨-, -, hdisplay, -, -, hlist, -⟩ := display_literal_iff documented_wide .error hm hi
  rw [hdisplay, hlist]
  decide +kernel

/-- The backslash of `\[0]` is lost, and the one at the end of `Lib\` is doubled in a list. -/
theorem not_forall_display_literal :
    ¬ ∀ [Terminal] (isEmoji : List Char → Bool), Terminal.Documented isEmoji →
      ∀ (f : Frame) (message : String) (items : List String),
        ((message :: items).all fun text => text.toList.all fun c => isPrinted c && c != '\n') →
        (∀ text ∈ message :: items, ¬ HasCode isEmoji text.toList) →
        f.display message = line (f.before ++ message ++ f.behind) ∧
          list items = numberedLines 1 items := by
  intro h
  have hcode (text : String) (ht : text ∈ ["\\[0]", "Lib\\"]) :
      ¬ HasCode smileOnly text.toList := by
    rcases List.mem_pair.1 ht with rfl | rfl <;> exact not_hasCode_of_count (by decide +kernel)
  have hboth := @h wide smileOnly documented_wide .success "\\[0]" ["Lib\\"] (by decide +kernel)
    hcode
  exact absurd hboth.2 (by decide +kernel)

end Cyclomatic.Console
