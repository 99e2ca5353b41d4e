import Cyclomatic.Console.Markup
import Mathlib.Data.List.TakeWhile

/-!
# The parts of a markup

A markup falls into characters, which are seen, and tags, which are not (`partsFrom`): what is seen
of it are the characters among its parts (`shownFrom_eq`), and the others are the tags that take
effect (`tags`). Whether a bracket starts a tag depends on the character behind it and on the next
bracket alone (`isSome_tag?_iff`).
-/

set_option autoImplicit false

namespace Cyclomatic.Console.Markup

variable {cs inside after : List Char}

/-! ## Brackets and tags -/

/-- The first bracket of a text. -/
def bracket? (cs : List Char) : Option Char := cs.find? (!isTagChar ·)

@[simp] theorem bracket?_nil : bracket? [] = none := rfl

theorem bracket?_cons (c : Char) (cs : List Char) :
    bracket? (c :: cs) = if isTagChar c then bracket? cs else some c := by
  rw [bracket?, List.find?_cons]
  cases isTagChar c <;> rfl

@[simp] theorem bracket?_append (cs tail : List Char) :
    bracket? (cs ++ tail) = (bracket? cs).or (bracket? tail) := List.find?_append

@[simp] theorem bracket?_backslashes (n : Nat) : bracket? (backslashes n) = none := by
  simp [bracket?, backslashes, isTagChar]

theorem isTagChar_of_isTagStart {c : Char} (h : isTagStart c = true) : isTagChar c = true := by
  have hopening : c ≠ '[' := by rintro rfl; exact absurd h (by decide)
  have hclosing : c ≠ ']' := by rintro rfl; exact absurd h (by decide)
  simp [isTagChar, hopening, hclosing]

/-- What can stand between the brackets of a tag. -/
structure IsInside (inside : List Char) : Prop where
  start : inside.head?.any isTagStart = true
  chars : inside.all isTagChar = true

instance : DecidablePred IsInside := fun inside =>
  decidable_of_iff (inside.head?.any isTagStart = true ∧ inside.all isTagChar = true)
    ⟨fun h => ⟨h.1, h.2⟩, fun h => ⟨h.1, h.2⟩⟩

theorem IsInside.tag? (h : IsInside inside) (after : List Char) :
    tag? (inside ++ ']' :: after) = some (inside, after) := by
  obtain ⟨hstart, hchars⟩ := h
  cases inside with
  | nil => simp at hstart
  | cons c rest =>
    have hc : isTagStart c = true := by simpa using hstart
    have hrest : ∀ d ∈ rest, isTagChar d = true := fun d hd =>
      List.all_eq_true.1 hchars d (List.mem_cons_of_mem c hd)
    have hdrop : (rest ++ ']' :: after).dropWhile isTagChar = ']' :: after := by
      rw [List.dropWhile_append_of_pos hrest]
      rfl
    have htake : (rest ++ ']' :: after).takeWhile isTagChar = rest := by
      rw [List.takeWhile_append_of_pos hrest]
      simp [isTagChar]
    simp only [List.cons_append, Markup.tag?, hc, if_true, hdrop, htake]

theorem eq_of_tag? (h : tag? cs = some (inside, after)) :
    IsInside inside ∧ cs = inside ++ ']' :: after := by
  cases cs with
  | nil => simp [tag?] at h
  | cons c rest =>
    simp only [tag?] at h
    split at h
    case isFalse => simp at h
    case isTrue hc =>
      split at h
      case h_2 => simp at h
      case h_1 r hr =>
        simp only [Option.some.injEq, Prod.mk.injEq] at h
        obtain ⟨rfl, rfl⟩ := h
        refine ⟨⟨by simpa using hc, List.all_eq_true.2 fun d hd => ?_⟩, ?_⟩
        · rcases List.mem_cons.1 hd with rfl | hd
          · exact isTagChar_of_isTagStart hc
          · exact List.mem_takeWhile_imp hd
        · rw [List.cons_append, ← hr, List.takeWhile_append_dropWhile]

/-- A bracket starts a tag if what follows starts like one and its first bracket is the closing
one. -/
theorem isSome_tag?_iff :
    (tag? cs).isSome = true ↔ cs.head?.any isTagStart = true ∧ bracket? cs = some ']' := by
  constructor
  · intro h
    obtain ⟨⟨inside, after⟩, ht⟩ := Option.isSome_iff_exists.1 h
    obtain ⟨⟨hstart, hchars⟩, rfl⟩ := eq_of_tag? ht
    have hinside : bracket? inside = none :=
      List.find?_eq_none.2 fun c hc => by simp [List.all_eq_true.1 hchars c hc]
    refine ⟨?_, by rw [bracket?_append, hinside]; rfl⟩
    cases inside with
    | nil => simp at hstart
    | cons c rest => simpa using hstart
  · rintro ⟨hstart, hbracket⟩
    obtain ⟨-, inside, after, rfl, hchars⟩ := List.find?_eq_some_iff_append.1 hbracket
    have hinside : IsInside inside := by
      refine ⟨?_, List.all_eq_true.2 fun c hc => by simpa using hchars c hc⟩
      cases inside with
      | nil => simp [isTagStart] at hstart
      | cons c rest => simpa using hstart
    rw [hinside.tag?]
    rfl

/-! ## The parts of a markup -/

/-- A part of a markup. -/
inductive Part where
  /-- A character that is seen. -/
  | char (c : Char)
  /-- A tag, of which nothing is seen. -/
  | tag (inside : List Char)
  deriving DecidableEq, Repr

/-- The character that is seen of a part. -/
def Part.char? : Part → Option Char
  | char c => some c
  | tag _ => none

/-- The tag that a part is. -/
def Part.tag? : Part → Option String
  | char _ => none
  | tag inside => some (String.ofList inside)

/-- Characters that are seen. -/
def chars (cs : List Char) : List Part := cs.map Part.char

/-- The parts of a markup that follows `n` backslashes, which are not counted yet. -/
def partsFrom (n : Nat) (cs : List Char) : List Part :=
  match cs with
  | [] => chars (backslashes n)
  | '\\' :: rest => partsFrom (n + 1) rest
  | '[' :: rest =>
    match _h : tag? rest with
    | some (inside, after) =>
      chars (backslashes (n / 2))
        ++ (if n % 2 = 1 then chars ('[' :: inside ++ [']']) else [Part.tag inside])
        ++ partsFrom 0 after
    | none => chars (backslashes (n - 1) ++ ['[']) ++ partsFrom 0 rest
  | c :: rest => chars (backslashes n ++ [c]) ++ partsFrom 0 rest
  termination_by cs.length
  decreasing_by
    all_goals simp_wf
    have := length_lt_of_tag? _h
    omega

@[simp] theorem filterMap_char?_chars (cs : List Char) : (chars cs).filterMap Part.char? = cs := by
  induction cs with
  | nil => rfl
  | cons c cs ih => simpa [chars, Part.char?] using ih

@[simp] theorem filterMap_tag?_chars (cs : List Char) : (chars cs).filterMap Part.tag? = [] := by
  simp [chars, Part.tag?]

theorem partsFrom_tag {rest : List Char} (h : tag? rest = some (inside, after)) (n : Nat) :
    partsFrom n ('[' :: rest) =
      chars (backslashes (n / 2))
        ++ (if n % 2 = 1 then chars ('[' :: inside ++ [']']) else [Part.tag inside])
        ++ partsFrom 0 after := by
  rw [partsFrom]
  split
  case h_1 inside' after' h' =>
    obtain ⟨rfl, rfl⟩ := Prod.mk.inj (Option.some.inj (h'.symm.trans h))
    rfl
  case h_2 h' => cases h'.symm.trans h

theorem partsFrom_bracket {rest : List Char} (h : tag? rest = none) (n : Nat) :
    partsFrom n ('[' :: rest) = chars (backslashes (n - 1) ++ ['[']) ++ partsFrom 0 rest := by
  rw [partsFrom]
  split
  case h_1 h' => cases h'.symm.trans h
  case h_2 => rfl

theorem partsFrom_cons {c : Char} (hslash : c ≠ '\\') (hopening : c ≠ '[') (n : Nat)
    (rest : List Char) :
    partsFrom n (c :: rest) = chars (backslashes n ++ [c]) ++ partsFrom 0 rest := by
  rw [partsFrom]
  · exact fun h => hslash h
  · exact fun h => hopening h

theorem partsFrom_backslashes (n k : Nat) (cs : List Char) :
    partsFrom n (backslashes k ++ cs) = partsFrom (n + k) cs := by
  induction k generalizing n with
  | zero => rfl
  | succ k ih =>
    rw [backslashes, List.replicate_succ, List.cons_append, partsFrom]
    exact (ih (n + 1)).trans (congrArg (partsFrom · cs) (by omega))

/-- The characters that mean nothing in a markup. -/
def isPlain (c : Char) : Bool := c != '\\' && c != '['

/-- Text that means nothing in a markup is seen as it is. -/
theorem partsFrom_plain (h : cs.all isPlain = true) (tail : List Char) :
    partsFrom 0 (cs ++ tail) = chars cs ++ partsFrom 0 tail := by
  induction cs with
  | nil => rfl
  | cons c cs ih =>
    rw [List.all_cons, Bool.and_eq_true] at h
    obtain ⟨hslash, hopening⟩ : c ≠ '\\' ∧ c ≠ '[' := by simpa [isPlain] using h.1
    rw [List.cons_append, partsFrom_cons hslash hopening, ih h.2]
    rfl

theorem partsFrom_of_plain (h : cs.all isPlain = true) : partsFrom 0 cs = chars cs := by
  have hcs := partsFrom_plain h []
  rw [List.append_nil, partsFrom] at hcs
  simpa [chars, backslashes] using hcs

/-- What is seen of a markup are the characters among its parts. -/
theorem shownFrom_eq (n : Nat) (cs : List Char) :
    shownFrom n cs = (partsFrom n cs).filterMap Part.char? := by
  fun_induction shownFrom n cs with
  | case1 n => simp [partsFrom]
  | case2 n rest ih => rw [partsFrom, ih]
  | case3 n rest inside after h ih =>
    rw [partsFrom_tag h, ih]
    split <;> simp [List.filterMap_cons, Part.char?]
  | case4 n rest h ih => simp [partsFrom_bracket h, ih]
  | case5 n c rest hslash hopening ih =>
    simp [partsFrom_cons (fun h => hslash h) (fun h => hopening h), ih]

/-- The tags that take effect in a markup. -/
def tags (markup : String) : List String := (partsFrom 0 markup.toList).filterMap Part.tag?

end Cyclomatic.Console.Markup
