import Cyclomatic.Json.Render
import Mathlib.Data.List.Forall2
import Mathlib.Data.Nat.Digits.Defs

/-!
# What is written is JSON

`IsText document cs`: the text is a JSON text of the document, by the grammar of the format. White space
may stand between the parts, and a character of a text stands for itself or is escaped, so a document
has many texts. Whatever the layout, what is written of a document is one of them (`isText_write`).
-/

set_option autoImplicit false

namespace Cyclomatic.Json

/-! ## Texts of documents -/

/-- The value of a hexadecimal digit. -/
def hexValue (c : Char) : Nat :=
  if c.toNat ≤ '9'.toNat then c.toNat - '0'.toNat else c.toNat - 'a'.toNat + 10

/-- A UTF-16 unit in four hexadecimal digits, behind `\u`. -/
inductive IsUnit (unit : Nat) : List Char → Prop
  | mk {digits : List Char} (hlength : digits.length = 4)
      (hunit : Nat.ofDigits 16 (digits.reverse.map hexValue) = unit) :
      IsUnit unit ('\\' :: 'u' :: digits)

/-- The letters that stand for some characters behind a backslash. -/
def letters : List (Nat × Char) :=
  [('"'.toNat, '"'), ('\\'.toNat, '\\'), (8, 'b'), (9, 't'), (10, 'n'), (12, 'f'), (13, 'r')]

/-- The characters between the quotes stand for `c`. -/
inductive Stands (c : Char) : List Char → Prop
  | itself (hcontrol : 0x20 ≤ c.toNat) (hquote : c ≠ '"') (hslash : c ≠ '\\') : Stands c [c]
  | letter {l : Char} (h : (c.toNat, l) ∈ letters) : Stands c ['\\', l]
  | unit {cs : List Char} (h : IsUnit c.toNat cs) : Stands c cs
  | pair {high low : Nat} {first second : List Char} (hfirst : IsUnit (0xd800 + high) first)
      (hsecond : IsUnit (0xdc00 + low) second) (hhigh : high < 0x400) (hlow : low < 0x400)
      (hc : c.toNat = 0x10000 + high * 0x400 + low) : Stands c (first ++ second)

/-- White space between the parts of a document. -/
def isSpace (c : Char) : Bool := c == ' ' || c == '\n' || c == '\r' || c == '\t'

mutual

/-- The characters are a JSON text of the document. -/
inductive IsText : Json → List Char → Prop
  | null : IsText .null "null".toList
  | true : IsText (.bool true) "true".toList
  | false : IsText (.bool false) "false".toList
  | int (n : Int) : IsText (.int n) (toString n).toList
  | double (x : Double) : IsText (.double x) (doubleText x).toList
  | text {s : String} {pieces : List (List Char)} (h : List.Forall₂ Stands s.toList pieces) :
      IsText (.text s) ('"' :: (pieces.flatten ++ ['"']))
  | list {items : List Json} {cs : List Char} (h : AreItems items cs) :
      IsText (.list items) ('[' :: (cs ++ [']']))
  | object {members : List (String × Json)} {cs : List Char} (h : AreMembers members cs) :
      IsText (.object members) ('\x7b' :: (cs ++ ['\x7d']))

/-- The characters are texts of the items of a list, with a comma between two. -/
inductive AreItems : List Json → List Char → Prop
  | none {blank : List Char} (h : blank.all isSpace = true) : AreItems [] blank
  | last {item : Json} {before cs after : List Char} (hbefore : before.all isSpace = true)
      (h : IsText item cs) (hafter : after.all isSpace = true) :
      AreItems [item] (before ++ (cs ++ after))
  | next {item : Json} {items : List Json} {before cs rest : List Char}
      (hbefore : before.all isSpace = true) (h : IsText item cs) (hitems : items ≠ [])
      (hrest : AreItems items rest) :
      AreItems (item :: items) (before ++ (cs ++ ',' :: rest))

/-- The characters are names and texts of the members of an object, with a comma between two. -/
inductive AreMembers : List (String × Json) → List Char → Prop
  | none {blank : List Char} (h : blank.all isSpace = true) : AreMembers [] blank
  | last {name : String} {value : Json} {before cs between cs' after : List Char}
      (hbefore : before.all isSpace = true) (h : IsText (.text name) cs)
      (hbetween : between.all isSpace = true) (h' : IsText value cs')
      (hafter : after.all isSpace = true) :
      AreMembers [(name, value)] (before ++ (cs ++ ':' :: (between ++ (cs' ++ after))))
  | next {name : String} {value : Json} {members : List (String × Json)}
      {before cs between cs' rest : List Char}
      (hbefore : before.all isSpace = true) (h : IsText (.text name) cs)
      (hbetween : between.all isSpace = true) (h' : IsText value cs') (hmembers : members ≠ [])
      (hrest : AreMembers members rest) :
      AreMembers ((name, value) :: members)
        (before ++ (cs ++ ':' :: (between ++ (cs' ++ ',' :: rest))))

end

/-! ## Escaped texts -/

theorem length_hexDigits (width n : Nat) : (Text.hexDigits width n).length = width := by
  induction width generalizing n with
  | zero => rfl
  | succ width ih => rw [Text.hexDigits, List.length_append, ih, List.length_singleton]

theorem hexValue_hexDigit (n : Nat) : hexValue (Text.hexDigit n) = n % 16 := by
  have h : ∀ k < 16, hexValue (Text.hexDigit k) = k := by decide
  have hmod : Text.hexDigit n = Text.hexDigit (n % 16) := by
    rw [Text.hexDigit, Text.hexDigit, Nat.mod_mod]
  rw [hmod, h _ (Nat.mod_lt _ (by decide))]

theorem ofDigits_hexDigits (width n : Nat) :
    Nat.ofDigits 16 ((Text.hexDigits width n).reverse.map hexValue) = n % 16 ^ width := by
  induction width generalizing n with
  | zero => simp [Text.hexDigits, Nat.mod_one]
  | succ width ih =>
    rw [Text.hexDigits, List.reverse_append, List.reverse_singleton, List.singleton_append,
      List.map_cons, Nat.ofDigits_cons, ih, hexValue_hexDigit, Nat.pow_succ', Nat.mod_mul]

theorem isUnit_unitEscape {unit : Nat} (h : unit < 0x10000) : IsUnit unit (unitEscape unit) := by
  refine .mk (length_hexDigits 4 unit) ?_
  rw [ofDigits_hexDigits]
  exact Nat.mod_eq_of_lt h

theorem stands_escapedChar (c : Char) : Stands c (escapedChar c) := by
  have hlt : c.toNat < 0x110000 := by
    have := c.valid
    rcases this with h | ⟨-, h⟩
    · exact Nat.lt_trans h (by decide)
    · exact h
  unfold escapedChar
  split
  case isTrue h =>
    rcases Bool.or_eq_true_iff.1 h with h | h <;> obtain rfl := of_decide_eq_true h <;>
      exact .letter (by decide)
  case isFalse hplain =>
    split
    case isTrue h => exact h ▸ .letter (by decide)
    split
    case isTrue h => exact h ▸ .letter (by decide)
    split
    case isTrue h => exact h ▸ .letter (by decide)
    split
    case isTrue h => exact .letter (by rw [h]; decide)
    split
    case isTrue h => exact .letter (by rw [h]; decide)
    split
    case isTrue h =>
      simp only [Bool.or_eq_true, decide_eq_true_eq, not_or] at hplain
      simp only [Bool.and_eq_true, decide_eq_true_eq] at h
      exact .itself h.1 hplain.1 hplain.2
    split
    case isTrue h => exact .unit (isUnit_unitEscape h)
    case isFalse h =>
      refine .pair (isUnit_unitEscape ?_) (isUnit_unitEscape ?_) ?_ ?_ ?_ <;> omega

theorem isText_escapedText (s : String) : IsText (.text s) (escapedText s).toList := by
  have hall (cs : List Char) : List.Forall₂ Stands cs (cs.map escapedChar) := by
    rw [List.forall₂_map_right_iff]
    exact List.forall₂_same.2 fun c _ => stands_escapedChar c
  have h := IsText.text (hall s.toList)
  rw [← List.flatMap_def] at h
  simpa [escapedText] using h

/-! ## Documents -/

variable (layout : Layout) (level : Nat)

theorem exists_lead (first : Bool) :
    ∃ blank : List Char, blank.all isSpace = true ∧
      (layout.lead level first).toList = (if first then [] else [',']) ++ blank := by
  unfold Layout.lead
  cases layout.indent with
  | none =>
    cases first with
    | true => exact ⟨[], rfl, by simp⟩
    | false => exact ⟨[' '], rfl, by simp⟩
  | some width =>
    refine ⟨'\n' :: List.replicate (width * level) ' ', ?_, ?_⟩
    · simp [isSpace]
    · cases first <;> simp

theorem all_close : (layout.close level).toList.all isSpace = true := by
  unfold Layout.close
  cases layout.indent <;> simp [isSpace]

mutual

/-- **What is written of a document is a text of it.** -/
theorem isText_write (level : Nat) : ∀ document : Json,
    IsText document (write layout level document).toList
  | .null => by rw [write]; exact .null
  | .bool true => by rw [write]; exact .true
  | .bool false => by rw [write]; exact .false
  | .int n => by rw [write]; exact .int n
  | .double x => by rw [write]; exact .double x
  | .text s => by rw [write]; exact isText_escapedText s
  | .list [] => by
    have hnone : AreItems [] [] := .none rfl
    rw [write]
    exact .list hnone
  | .list (item :: items) => by
    obtain ⟨cs, hcs, h⟩ := areItems_write (level + 1) (all_close layout level) true (item :: items)
      (List.cons_ne_nil item items)
    rw [write]
    simpa [hcs] using IsText.list h
  | .object [] => by
    have hnone : AreMembers [] [] := .none rfl
    rw [write]
    exact .object hnone
  | .object (m :: members) => by
    obtain ⟨cs, hcs, h⟩ := areMembers_write (level + 1) (all_close layout level) true (m :: members)
      (List.cons_ne_nil m members)
    rw [write]
    simpa [hcs] using IsText.object h

/-- Behind another item, a comma comes first. -/
theorem areItems_write (level : Nat) {close : List Char} (hclose : close.all isSpace = true)
    (first : Bool) :
    ∀ items : List Json, items ≠ [] →
      ∃ cs, (writeItems layout level first items).toList ++ close =
          (if first then [] else [',']) ++ cs ∧ AreItems items cs
  | [], h => absurd rfl h
  | [item], _ => by
    obtain ⟨blank, hblank, hlead⟩ := exists_lead layout level first
    refine ⟨_, ?_, .last hblank (isText_write level item) hclose⟩
    simp [writeItems, hlead]
  | item :: next :: items, _ => by
    obtain ⟨blank, hblank, hlead⟩ := exists_lead layout level first
    obtain ⟨rest, hrest, h⟩ := areItems_write level hclose false (next :: items)
      (List.cons_ne_nil next items)
    refine ⟨_, ?_, .next hblank (isText_write level item) (List.cons_ne_nil next items) h⟩
    rw [writeItems]
    simp [hlead, hrest]

theorem areMembers_write (level : Nat) {close : List Char} (hclose : close.all isSpace = true)
    (first : Bool) :
    ∀ members : List (String × Json), members ≠ [] →
      ∃ cs, (writeMembers layout level first members).toList ++ close =
          (if first then [] else [',']) ++ cs ∧ AreMembers members cs
  | [], h => absurd rfl h
  | [(name, value)], _ => by
    have hspace : [' '].all isSpace = true := rfl
    obtain ⟨blank, hblank, hlead⟩ := exists_lead layout level first
    refine ⟨_, ?_, .last hblank (isText_escapedText name) hspace (isText_write level value) hclose⟩
    simp [writeMembers, hlead]
  | (name, value) :: next :: members, _ => by
    have hspace : [' '].all isSpace = true := rfl
    obtain ⟨blank, hblank, hlead⟩ := exists_lead layout level first
    obtain ⟨rest, hrest, h⟩ := areMembers_write level hclose false (next :: members)
      (List.cons_ne_nil next members)
    refine ⟨_, ?_, .next hblank (isText_escapedText name) hspace (isText_write level value)
      (List.cons_ne_nil next members) h⟩
    rw [writeMembers]
    simp [hlead, hrest]

end

theorem isText_compact (document : Json) : IsText document document.compact.toList :=
  isText_write _ _ document

theorem isText_indented (width : Nat) (document : Json) :
    IsText document (document.indented width).toList :=
  isText_write _ _ document

end Cyclomatic.Json
