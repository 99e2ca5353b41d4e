import Cyclomatic.Console.Terminal
import Cyclomatic.Proofs.Console.Escaped
import Mathlib.Data.List.Infix

/-!
# What is relied on in a terminal

`Terminal.Documented` is what is relied on in the terminal that messages are written on: how it escapes
a message, and that a markup is written like the text that is seen of it. This is asked only where
nothing else changes the text: all tags open a style or close one that is open, and the text has no
control characters and no emoji codes, such as `:smile:` (`Printable`).

Emoji codes have no blanks, no brackets and no backslashes in them. So what is seen of a message has no
code that the message does not have (`HasCode.of_kept`), and none comes about where a message meets a
frame (`not_hasCode_append`).
-/

set_option autoImplicit false

namespace Cyclomatic.Console

open Markup

/-! ## Texts that are written as they are -/

/-- The line break, and all characters that are no control characters. -/
def isPrinted (c : Char) : Bool :=
  c == '\n' || (0x20 ≤ c.toNat && (c.toNat < 0x7f || 0xa0 ≤ c.toNat))

/-- The text has the name of an emoji between colons. -/
def HasCode (isEmoji : List Char → Bool) (cs : List Char) : Prop :=
  ∃ name, isEmoji name = true ∧ ':' :: (name ++ [':']) <:+: cs

/-- The text has no control characters but line breaks, and no emoji codes. -/
structure Printable (isEmoji : List Char → Bool) (cs : List Char) : Prop where
  printed : cs.all isPrinted = true
  code : ¬ HasCode isEmoji cs

/-- All tags open a style, or close one; `opened` styles are open before. -/
def Closes (opened : Nat) : List String → Bool
  | [] => true
  | tag :: rest =>
    if tag = "/" then 0 < opened && Closes (opened - 1) rest
    else !(tag.startsWith "/" || tag.startsWith "@") && Closes (opened + 1) rest

/-- Characters that names of emoji do not have. -/
def separators : List Char := [' ', '\n', '[', '\\']

/-- No name of an emoji has a separator in it. -/
def NamesApart (isEmoji : List Char → Bool) : Prop :=
  ∀ name, isEmoji name = true → ∀ c ∈ separators, c ∉ name

/-- What is relied on in a terminal, which knows emoji by these names. -/
structure Terminal.Documented [Terminal] (isEmoji : List Char → Bool) : Prop where
  escape : ∀ message, Terminal.escape message = Markup.escape message
  /-- A markup that no more than styles the text is written like this text. -/
  render : ∀ markup, Closes 0 (tags markup) = true →
    Printable isEmoji (shown markup).toList →
      Terminal.render markup = Terminal.line (shown markup)
  names : NamesApart isEmoji

/-- The text can stand directly in front of a message, and no emoji code comes about there. -/
structure FitsBefore (before : List Char) : Prop where
  printed : before.all isPrinted = true
  apart : before.getLast?.all separators.contains = true
  count : before.count ':' ≤ 1

/-- The text can stand directly behind a message, and no emoji code comes about there. -/
structure FitsBehind (behind : List Char) : Prop where
  printed : behind.all isPrinted = true
  apart : behind.head?.all separators.contains = true
  count : behind.count ':' ≤ 1

/-! ## Parts of texts -/

variable {isEmoji : List Char → Bool} {part cs xs ys : List Char} {c : Char}

/-- A part of a text that does not have a character of it lies on one side of this. -/
theorem infix_append_cons (h : part <:+: xs ++ c :: ys) (hc : c ∉ part) :
    part <:+: xs ∨ part <:+: ys := by
  obtain ⟨before, after, h⟩ := h
  rcases List.append_eq_append_iff.1 h with ⟨more, rfl, -⟩ | ⟨more, hmore, hys⟩
  · exact .inl ⟨before, more, rfl⟩
  cases more with
  | nil =>
    rw [List.append_nil] at hmore
    exact .inl ⟨before, [], by rw [hmore, List.append_nil]⟩
  | cons d more =>
    obtain ⟨rfl, rfl⟩ := List.cons.inj hys
    rcases List.append_eq_append_iff.1 hmore with ⟨others, -, rfl⟩ | ⟨others, -, hothers⟩
    · exact absurd (by simp) hc
    cases others with
    | nil =>
      rw [List.nil_append] at hothers
      exact absurd (hothers ▸ List.mem_cons_self) hc
    | cons d others =>
      obtain ⟨rfl, rfl⟩ := List.cons.inj hothers
      exact .inr ⟨others, after, rfl⟩

theorem prefix_of_prefix_kept (hpart : '[' ∉ part) (h : part <+: kept cs) : part <+: cs := by
  induction cs generalizing part with
  | nil => exact h
  | cons c rest ih =>
    cases part with
    | nil => exact List.nil_prefix
    | cons d part =>
      rw [kept] at h
      split at h
      case isTrue hbare =>
        -- the backslash is lost in front of a bracket, which the part does not have
        obtain ⟨after, rfl, -⟩ := exists_of_startsBare hbare.2
        rw [kept_cons_of_ne (by decide), List.cons_prefix_cons] at h
        exact absurd (h.1 ▸ List.mem_cons_self) hpart
      case isFalse =>
        rw [List.cons_prefix_cons] at h ⊢
        exact ⟨h.1, ih (fun hmem => hpart (List.mem_cons_of_mem d hmem)) h.2⟩

theorem infix_of_infix_kept (hpart : '[' ∉ part) (h : part <:+: kept cs) : part <:+: cs := by
  induction cs with
  | nil => exact h
  | cons c rest ih =>
    have hrest (h : part <:+: kept rest) : part <:+: c :: rest :=
      (ih h).trans (List.suffix_cons c rest).isInfix
    by_cases hbare : c = '\\' ∧ startsBare rest = true
    · rw [kept, if_pos hbare] at h
      exact hrest h
    · have hkept : kept (c :: rest) = c :: kept rest := if_neg hbare
      rw [hkept] at h
      rcases List.infix_cons_iff.1 h with h | h
      · exact (prefix_of_prefix_kept hpart (hkept ▸ h)).isInfix
      · exact hrest h

theorem kept_sublist (cs : List Char) : (kept cs).Sublist cs := by
  induction cs with
  | nil => exact .slnil
  | cons c rest ih =>
    rw [kept]
    split
    · exact ih.cons c
    · exact ih.cons_cons c

theorem stem_isPrefix (cs : List Char) : stem cs <+: cs := List.rdropWhile_prefix _ _

/-! ## Emoji codes -/

theorem HasCode.mono (h : HasCode isEmoji xs) (hx : xs <:+: ys) : HasCode isEmoji ys := by
  obtain ⟨name, hname, h⟩ := h
  exact ⟨name, hname, h.trans hx⟩

/-- A code has two colons. -/
theorem not_hasCode_of_count (h : cs.count ':' ≤ 1) : ¬ HasCode isEmoji cs := by
  rintro ⟨name, -, hcode⟩
  have hcount := hcode.sublist.count_le ':'
  simp only [List.count_cons_self, List.count_append] at hcount
  have hone : [':'].count ':' = 1 := by decide
  omega

section

variable (hn : NamesApart isEmoji)
include hn

theorem not_mem_code {name : List Char} (h : isEmoji name = true) (hc : c ∈ separators) :
    c ∉ ':' :: (name ++ [':']) := by
  have hcolon : c ≠ ':' := by
    rintro rfl
    exact absurd hc (by decide)
  simp [hcolon, hn name h c hc]

theorem not_hasCode_append (hc : c ∈ separators) (hx : ¬ HasCode isEmoji xs)
    (hy : ¬ HasCode isEmoji ys) : ¬ HasCode isEmoji (xs ++ c :: ys) := by
  rintro ⟨name, hname, h⟩
  rcases infix_append_cons h (not_mem_code hn hname hc) with h | h
  · exact hx ⟨name, hname, h⟩
  · exact hy ⟨name, hname, h⟩

theorem HasCode.of_kept (h : HasCode isEmoji (kept cs)) : HasCode isEmoji cs := by
  obtain ⟨name, hname, h⟩ := h
  exact ⟨name, hname, infix_of_infix_kept (not_mem_code hn hname (by decide)) h⟩

/-! ## What is seen of a message -/

/-- Backslashes at the end make no code. -/
theorem not_hasCode_backslashes (h : ¬ HasCode isEmoji cs) (n : Nat) :
    ¬ HasCode isEmoji (cs ++ backslashes n) := by
  cases n with
  | zero =>
    rw [backslashes, List.replicate_zero, List.append_nil]
    exact h
  | succ n =>
    have hrest : (backslashes n).count ':' ≤ 1 := by simp [backslashes, List.count_replicate]
    exact not_hasCode_append hn (by decide) h (not_hasCode_of_count hrest)

/-- What is left of a printable message, with backslashes behind it, is printable. -/
theorem Printable.kept_stem (h : Printable isEmoji cs) (n : Nat) :
    Printable isEmoji (kept (stem cs) ++ backslashes n) where
  printed := by
    have hsub := (kept_sublist (stem cs)).trans (stem_isPrefix cs).sublist
    rw [List.all_append, Bool.and_eq_true]
    refine ⟨List.all_eq_true.2 fun c hc => List.all_eq_true.1 h.printed c (hsub.subset hc), ?_⟩
    simp [backslashes, isPrinted]
  code := not_hasCode_backslashes hn
    (fun hcode => h.code ((HasCode.of_kept hn hcode).mono (stem_isPrefix cs).isInfix)) n

/-- A printable text stays printable in a frame that separators divide from it. -/
theorem Printable.between (h : Printable isEmoji cs) {before behind : List Char}
    (hbefore : FitsBefore before) (hbehind : FitsBehind behind) :
    Printable isEmoji (before ++ (cs ++ behind)) where
  printed := by
    rw [List.all_append, List.all_append, hbefore.printed, hbehind.printed, h.printed]
    rfl
  code := by
    have hrest : ¬ HasCode isEmoji (cs ++ behind) := by
      cases behind with
      | nil =>
        rw [List.append_nil]
        exact h.code
      | cons c more =>
        have hc : c ∈ separators := by simpa using hbehind.apart
        have hcount := (List.sublist_cons_self c more).count_le ':' |>.trans hbehind.count
        exact not_hasCode_append hn hc h.code (not_hasCode_of_count hcount)
    rcases before.eq_nil_or_concat with rfl | ⟨more, c, rfl⟩
    · exact hrest
    · rw [List.concat_eq_append] at hbefore ⊢
      have hc : c ∈ separators := by simpa using hbefore.apart
      have hcount := (List.sublist_append_left more [c]).count_le ':' |>.trans hbefore.count
      rw [List.append_assoc, List.singleton_append]
      exact not_hasCode_append hn hc (not_hasCode_of_count hcount) hrest

end

end Cyclomatic.Console
