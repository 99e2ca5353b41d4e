import Cyclomatic.Proofs.Console.Markup
import Mathlib.Data.List.DropRight

/-!
# What is seen of an escaped message

Whatever stands behind an escaped message, none of the message's brackets is a tag
(`partsFrom_escapeFrom`). All its characters are seen but the backslashes directly in front of a
bracket that starts no tag: of those, one is lost (`kept`). The backslashes at the end of the
message are left to what stands behind it: at the end of the markup they are seen (`seenAtEnd`), and
in front of a closing tag they are halved, and an odd one turns the tag into text (`seenInTags`).
-/

set_option autoImplicit false

namespace Cyclomatic.Console.Markup

variable {cs tail : List Char}

/-! ## Backslashes at the end -/

/-- A text without the backslashes at its end. -/
def stem (cs : List Char) : List Char := cs.rdropWhile (· == '\\')

/-- How many backslashes a text ends in. -/
def trail (cs : List Char) : Nat := (cs.rtakeWhile (· == '\\')).length

theorem stem_append_trail (cs : List Char) : stem cs ++ backslashes (trail cs) = cs := by
  have h : cs.rtakeWhile (· == '\\') = backslashes (trail cs) :=
    List.eq_replicate_iff.2 ⟨rfl, fun c hc => by simpa using List.mem_rtakeWhile_imp hc⟩
  rw [← h]
  exact List.rdropWhile_append_rtakeWhile ..

@[simp] theorem stem_backslashes (n : Nat) : stem (backslashes n) = [] :=
  List.rdropWhile_eq_nil_iff.2 fun c hc => by simpa using List.eq_of_mem_replicate hc

theorem length_stem (cs : List Char) : (stem cs).length + trail cs = cs.length := by
  have h := congrArg List.length (stem_append_trail cs)
  simpa [backslashes] using h

@[simp] theorem trail_backslashes (n : Nat) : trail (backslashes n) = n := by
  have h := length_stem (backslashes n)
  rwa [stem_backslashes, List.length_nil, Nat.zero_add, backslashes, List.length_replicate] at h

theorem stem_append_cons {c : Char} (hc : c ≠ '\\') (cs tail : List Char) :
    stem (cs ++ c :: tail) = cs ++ c :: stem tail := by
  have hstop : (c :: cs.reverse).dropWhile (· == '\\') = c :: cs.reverse :=
    List.dropWhile_cons_of_neg (by simpa using hc)
  rw [stem, stem, List.rdropWhile, List.rdropWhile, List.reverse_append, List.reverse_cons,
    List.append_assoc, List.singleton_append, List.dropWhile_append, hstop]
  split
  case isTrue h => simp [List.isEmpty_iff.1 h]
  case isFalse => simp

theorem trail_append_cons {c : Char} (hc : c ≠ '\\') (cs tail : List Char) :
    trail (cs ++ c :: tail) = trail tail := by
  have h := length_stem (cs ++ c :: tail)
  have htail := length_stem tail
  rw [stem_append_cons hc] at h
  simp only [List.length_append, List.length_cons] at h
  omega

theorem stem_tag (n : Nat) (inside after : List Char) :
    stem (backslashes n ++ '[' :: (inside ++ ']' :: after)) =
      backslashes n ++ '[' :: (inside ++ ']' :: stem after) := by
  have h := stem_append_cons (c := ']') (by decide) (backslashes n ++ '[' :: inside) after
  simpa using h

theorem trail_tag (n : Nat) (inside after : List Char) :
    trail (backslashes n ++ '[' :: (inside ++ ']' :: after)) = trail after := by
  have h := trail_append_cons (c := ']') (by decide) (backslashes n ++ '[' :: inside) after
  simpa using h

theorem backslashes_append_cons (n : Nat) (cs : List Char) :
    backslashes n ++ '\\' :: cs = backslashes (n + 1) ++ cs := by
  rw [backslashes, backslashes, List.replicate_succ', List.append_assoc]
  rfl

/-- Backslashes at the end open and close no tag. -/
theorem isSome_tag?_append_backslashes (cs : List Char) (n : Nat) :
    (tag? (cs ++ backslashes n)).isSome = (tag? cs).isSome := by
  rw [Bool.eq_iff_iff, isSome_tag?_iff, isSome_tag?_iff, bracket?_append, bracket?_backslashes,
    Option.or_none]
  cases cs with
  | nil => simp [bracket?]
  | cons c rest => rfl

theorem isSome_tag?_stem (cs : List Char) : (tag? (stem cs)).isSome = (tag? cs).isSome := by
  rw [← isSome_tag?_append_backslashes (stem cs) (trail cs), stem_append_trail]

/-! ## What is kept of a message -/

/-- Whether a text starts with a bracket that starts no tag. -/
def startsBare : List Char → Bool
  | '[' :: after => (tag? after).isNone
  | _ => false

/-- A text without the backslashes directly in front of brackets that start no tag. -/
def kept : List Char → List Char
  | [] => []
  | c :: rest => if c = '\\' ∧ startsBare rest = true then kept rest else c :: kept rest

@[simp] theorem kept_nil : kept [] = [] := rfl

theorem kept_cons_of_ne {c : Char} (hc : c ≠ '\\') (rest : List Char) :
    kept (c :: rest) = c :: kept rest := if_neg fun h => hc h.1

theorem kept_backslashes_append (h : startsBare cs = false) (n : Nat) :
    kept (backslashes n ++ cs) = backslashes n ++ kept cs := by
  induction n with
  | zero => rfl
  | succ n ih =>
    have hbare : startsBare (backslashes n ++ cs) = false := by
      cases n with
      | zero => exact h
      | succ n => rfl
    rw [backslashes, List.replicate_succ, List.cons_append, ← backslashes, kept,
      if_neg fun hc => absurd hc.2 (by simp [hbare]), ih]
    rfl

theorem kept_backslashes_bare (h : startsBare cs = true) (n : Nat) :
    kept (backslashes n ++ cs) = backslashes (n - 1) ++ kept cs := by
  cases n with
  | zero => rfl
  | succ n =>
    rw [← backslashes_append_cons, kept_backslashes_append rfl, kept, if_pos ⟨rfl, h⟩]
    rfl

/-- In front of no bracket nothing is lost. -/
theorem kept_append_of_isTagChar (h : cs.all isTagChar = true) (tail : List Char) :
    kept (cs ++ ']' :: tail) = cs ++ ']' :: kept tail := by
  induction cs with
  | nil => exact kept_cons_of_ne (by decide) tail
  | cons c cs ih =>
    have hcs : cs.all isTagChar = true := by
      rw [List.all_cons, Bool.and_eq_true] at h
      exact h.2
    have hbare : startsBare (cs ++ ']' :: tail) = false := by
      cases cs with
      | nil => rfl
      | cons d cs =>
        have hd : d ≠ '[' := by rintro rfl; simp [isTagChar] at hcs
        simp [startsBare, hd]
    rw [List.cons_append, kept, if_neg fun hc => absurd hc.2 (by simp [hbare]), ih hcs]
    rfl

/-- In front of a tag nothing is lost, and in it neither. -/
theorem kept_tag {inside : List Char} (h : IsInside inside) (n : Nat) (after : List Char) :
    kept (backslashes n ++ '[' :: (inside ++ ']' :: after)) =
      backslashes n ++ '[' :: (inside ++ ']' :: kept after) := by
  have hbare : startsBare ('[' :: (inside ++ ']' :: after)) = false := by
    simp [startsBare, h.tag?]
  rw [kept_backslashes_append hbare, kept_cons_of_ne (by decide), kept_append_of_isTagChar h.chars]

/-- Backslashes at the end are kept. -/
theorem kept_append_backslashes (cs : List Char) (n : Nat) :
    kept (cs ++ backslashes n) = kept cs ++ backslashes n := by
  induction cs with
  | nil =>
    have h : startsBare [] = false := rfl
    simpa using kept_backslashes_append h n
  | cons c cs ih =>
    have hbare : startsBare (cs ++ backslashes n) = startsBare cs := by
      cases cs with
      | nil => cases n <;> rfl
      | cons d cs =>
        by_cases hd : d = '['
        · subst hd
          have h := isSome_tag?_append_backslashes cs n
          simp only [List.cons_append, startsBare, ← Option.not_isSome, h]
        · simp [startsBare, hd]
    rw [List.cons_append, kept, kept, hbare, ih]
    split <;> rfl

theorem kept_stem (cs : List Char) : kept cs = kept (stem cs) ++ backslashes (trail cs) := by
  rw [← kept_append_backslashes, stem_append_trail]

/-! ## Escaped messages -/

/-- Escaping adds no bracket. -/
theorem bracket?_escapeFrom (n : Nat) (cs : List Char) :
    bracket? (escapeFrom n cs) = bracket? cs := by
  fun_induction escapeFrom n cs with
  | case1 n => exact bracket?_backslashes n
  | case2 n rest ih => exact ih
  | case3 n rest inside after h ih => simp [bracket?_cons, isTagChar]
  | case4 n rest h ih => simp [bracket?_cons, isTagChar]
  | case5 n c rest hslash hopening ih => simp [bracket?_cons, ih]

theorem escapeFrom_succ (n : Nat) (cs : List Char) :
    ∃ more, escapeFrom (n + 1) cs = '\\' :: more := by
  generalize hk : n + 1 = k
  fun_induction escapeFrom k cs generalizing n with
  | case1 k => exact ⟨backslashes n, by rw [← hk]; rfl⟩
  | case2 k rest ih => exact ih (n + 1) (by omega)
  | case3 | case4 | case5 =>
    subst hk
    exact ⟨_, rfl⟩

/-- An escaped text starts with its own first character or with a backslash. -/
theorem escapeFrom_zero_cons (c : Char) (rest : List Char) :
    ∃ d more, escapeFrom 0 (c :: rest) = d :: more ∧ (d = c ∨ d = '\\') := by
  by_cases hslash : c = '\\'
  · subst hslash
    obtain ⟨more, hmore⟩ := escapeFrom_succ 0 rest
    exact ⟨'\\', more, by rw [escapeFrom, hmore], .inl rfl⟩
  by_cases hopening : c = '['
  · subst hopening
    rw [escapeFrom]
    split
    case h_1 => exact ⟨_, _, rfl, .inr rfl⟩
    case h_2 => exact ⟨_, _, rfl, .inl rfl⟩
  · rw [escapeFrom]
    · exact ⟨c, _, rfl, .inl rfl⟩
    · exact hslash
    · exact fun h => hopening h

/-- A bracket that starts no tag starts none when the text behind it is escaped. -/
theorem tag?_escapeFrom (h : tag? cs = none) (htail : bracket? tail ≠ some ']') :
    tag? (escapeFrom 0 cs ++ tail) = none := by
  rw [← Option.not_isSome_iff_eq_none, isSome_tag?_iff, bracket?_append, bracket?_escapeFrom]
  rintro ⟨hstart, hbracket⟩
  have hcs : bracket? cs = some ']' := by
    cases hb : bracket? cs with
    | none => exact absurd (by simpa [hb] using hbracket) htail
    | some b => simpa [hb] using hbracket
  cases cs with
  | nil => simp at hcs
  | cons c rest =>
    obtain ⟨d, more, hd, hdc⟩ := escapeFrom_zero_cons c rest
    rw [hd] at hstart
    have hc : (c :: rest).head?.any isTagStart = true := by
      rcases hdc with rfl | rfl
      · exact hstart
      · simp [isTagStart] at hstart
    simpa [h] using isSome_tag?_iff.2 ⟨hc, hcs⟩

/-- Whatever follows an escaped message, none of the message's brackets is a tag. -/
theorem partsFrom_escapeFrom (n : Nat) (cs : List Char) (htail : bracket? tail ≠ some ']') :
    partsFrom 0 (escapeFrom n cs ++ tail) =
      chars (kept (stem (backslashes n ++ cs)))
        ++ partsFrom (trail (backslashes n ++ cs)) tail := by
  -- along the escaping: `n` backslashes of the message are not written yet
  fun_induction escapeFrom n cs with
  | case1 n => simp [partsFrom_backslashes, chars]
  | case2 n rest ih => rw [ih, backslashes_append_cons]
  | case3 n rest inside after h ih =>
    -- `2 * n + 1` backslashes are seen as `n`, and the last one turns the tag into text
    obtain ⟨hinside, rfl⟩ := eq_of_tag? h
    have hhalf : (0 + (2 * n + 1)) / 2 = n := by omega
    have hodd : (0 + (2 * n + 1)) % 2 = 1 := by omega
    have ih : partsFrom 0 (escapeFrom 0 after ++ tail) =
        chars (kept (stem after)) ++ partsFrom (trail after) tail := ih
    rw [stem_tag, trail_tag, kept_tag hinside]
    simp only [List.append_assoc, List.cons_append]
    rw [partsFrom_backslashes, partsFrom_tag (hinside.tag? _), hhalf, if_pos hodd, ih]
    simp [chars]
  | case4 n rest h ih =>
    -- nothing is escaped, and rendering drops one of the `n` backslashes
    have hopening : ('[' : Char) ≠ '\\' := by decide
    have hbare : startsBare ('[' :: stem rest) = true := by
      rw [startsBare, ← Option.not_isSome, isSome_tag?_stem, h]
      rfl
    have ih : partsFrom 0 (escapeFrom 0 rest ++ tail) =
        chars (kept (stem rest)) ++ partsFrom (trail rest) tail := ih
    rw [stem_append_cons hopening, trail_append_cons hopening, kept_backslashes_bare hbare,
      kept_cons_of_ne hopening, List.append_assoc, List.cons_append, partsFrom_backslashes,
      partsFrom_bracket (tag?_escapeFrom h htail), ih, Nat.zero_add]
    simp [chars]
  | case5 n c rest hslash hopening ih =>
    have hc : c ≠ '\\' := hslash
    have hb : c ≠ '[' := fun h => hopening h
    have hbare : startsBare (c :: stem rest) = false := by simp [startsBare, hb]
    have ih : partsFrom 0 (escapeFrom 0 rest ++ tail) =
        chars (kept (stem rest)) ++ partsFrom (trail rest) tail := ih
    rw [stem_append_cons hc, trail_append_cons hc, kept_backslashes_append hbare,
      kept_cons_of_ne hc, List.append_assoc, List.cons_append, partsFrom_backslashes,
      partsFrom_cons hc hb, ih, Nat.zero_add]
    simp [chars]

/-- Escaping keeps the backslashes at the end. -/
theorem trail_escapeFrom (n : Nat) (cs : List Char) :
    trail (escapeFrom n cs) = trail (backslashes n ++ cs) := by
  fun_induction escapeFrom n cs with
  | case1 n => simp
  | case2 n rest ih => rw [ih, backslashes_append_cons]
  | case3 n rest inside after h ih =>
    obtain ⟨-, rfl⟩ := eq_of_tag? h
    rw [trail_append_cons (by decide), trail_tag, ih]
    rfl
  | case4 n rest h ih =>
    rw [trail_append_cons (by decide), trail_append_cons (by decide), ih]
    rfl
  | case5 n c rest hslash hopening ih =>
    rw [trail_append_cons hslash, trail_append_cons hslash, ih]
    rfl

theorem endsInOneBackslash_iff : endsInOneBackslash cs = true ↔ trail cs = 1 := by
  rw [trail, List.rtakeWhile, List.length_reverse, endsInOneBackslash]
  generalize cs.reverse = ds
  split
  case h_1 => simp
  case h_2 rest hmore =>
    cases rest with
    | nil => simp
    | cons d rest =>
      have hd : d ≠ '\\' := fun h => hmore rest (by rw [h])
      simp [hd]
  case h_3 _ hnone =>
    cases ds with
    | nil => simp
    | cons d ds =>
      have hd : d ≠ '\\' := fun h => hnone ds (by rw [h])
      simp [hd]

/-- How many backslashes an escaped message ends in. -/
def ending (cs : List Char) : Nat := if trail cs = 1 then 2 else trail cs

/-- What an escaped message and the text behind it are read as. -/
theorem partsFrom_escape (message : String) (htail : bracket? tail ≠ some ']') :
    partsFrom 0 ((escape message).toList ++ tail) =
      chars (kept (stem message.toList)) ++ partsFrom (ending message.toList) tail := by
  have hends : endsInOneBackslash (escapeFrom 0 message.toList) = true ↔
      trail message.toList = 1 := by
    rw [endsInOneBackslash_iff, trail_escapeFrom]
    rfl
  rw [escape, String.toList_ofList, ending]
  simp only [hends]
  split
  case isTrue hone =>
    have hmore : bracket? ('\\' :: tail) ≠ some ']' := by
      simpa [bracket?_cons, isTagChar] using htail
    have h : partsFrom 0 (escapeFrom 0 message.toList ++ '\\' :: tail) =
        chars (kept (stem message.toList)) ++ partsFrom (trail message.toList) ('\\' :: tail) :=
      partsFrom_escapeFrom 0 message.toList hmore
    rw [List.append_assoc, List.singleton_append, h, hone, partsFrom]
  case isFalse => exact partsFrom_escapeFrom 0 message.toList htail

/-! ## When a message is kept -/

/-- No backslash stands directly in front of a bracket that starts no tag. -/
def KeepsBackslashes (cs : List Char) : Prop :=
  ∀ after, '\\' :: '[' :: after <:+ cs → (tag? after).isSome = true

theorem exists_of_startsBare (h : startsBare cs = true) :
    ∃ after, cs = '[' :: after ∧ (tag? after).isSome = false := by
  unfold startsBare at h
  split at h
  case h_1 after => exact ⟨after, rfl, by simpa using h⟩
  case h_2 => cases h

theorem keepsBackslashes_iff : KeepsBackslashes cs ↔ kept cs = cs := by
  induction cs with
  | nil => simp [KeepsBackslashes]
  | cons c rest ih =>
    rw [kept]
    split
    case isTrue h =>
      obtain ⟨rfl, hbare⟩ := h
      obtain ⟨after, rfl, hnone⟩ := exists_of_startsBare hbare
      refine iff_of_false (fun hk => ?_) fun he => ?_
      · simpa [hnone] using hk after (List.suffix_refl _)
      · rw [kept_cons_of_ne (by decide)] at he
        simp at he
    case isFalse h =>
      rw [List.cons_inj_right, ← ih]
      refine ⟨fun hk after hs => hk after (hs.trans (List.suffix_cons c rest)),
        fun hk after hs => ?_⟩
      rcases List.suffix_cons_iff.1 hs with heq | hs
      · obtain ⟨rfl, rfl⟩ := List.cons.inj heq
        by_contra hnone
        exact h ⟨rfl, by simpa [startsBare] using hnone⟩
      · exact hk after hs

/-- Where a message is not kept, what is seen of it soon differs from it. -/
theorem kept_eq_of_append {xs ys : List Char} (h : kept cs ++ xs = cs ++ ys) : kept cs = cs := by
  induction cs with
  | nil => rfl
  | cons c rest ih =>
    rw [kept] at h ⊢
    split at h
    case isTrue hbare =>
      obtain ⟨rfl, hbare⟩ := hbare
      obtain ⟨after, rfl, -⟩ := exists_of_startsBare hbare
      rw [kept_cons_of_ne (by decide)] at h
      simp at h
    case isFalse hbare =>
      rw [if_neg hbare]
      exact congrArg (c :: ·) (ih (List.cons.inj h).2)

theorem keeps_of_kept_append {xs : List Char} (h : kept (stem cs) ++ xs = cs) :
    KeepsBackslashes cs ∧ xs = backslashes (trail cs) := by
  have hstem : kept (stem cs) ++ xs = stem cs ++ backslashes (trail cs) := by
    rw [h, stem_append_trail]
  have hkept := kept_eq_of_append hstem
  refine ⟨?_, List.append_cancel_left (hkept ▸ hstem)⟩
  rw [keepsBackslashes_iff, kept_stem, hkept, stem_append_trail]

theorem kept_stem_of_keeps (h : KeepsBackslashes cs) : kept (stem cs) = stem cs := by
  have hkept := (kept_stem cs).symm.trans (keepsBackslashes_iff.1 h)
  exact List.append_cancel_right (hkept.trans (stem_append_trail cs).symm)

/-! ## What is seen of a message -/

/-- What is seen of an escaped message at the end of a markup. -/
def seenAtEnd (message : String) : String :=
  String.ofList (kept (stem message.toList) ++ backslashes (ending message.toList))

/-- What is seen of an escaped message in front of a closing tag, with the tag if this is text. -/
def seenInTags (message : String) : String :=
  let n := ending message.toList
  String.ofList (kept (stem message.toList) ++ backslashes (n / 2))
    ++ if n % 2 = 1 then "[/]" else ""

/-- The parts of an escaped message and the closing tag behind it. -/
def partsInTags (message : String) : List Part :=
  let n := ending message.toList
  chars (kept (stem message.toList)) ++ chars (backslashes (n / 2))
    ++ if n % 2 = 1 then chars ['[', '/', ']'] else [Part.tag ['/']]

theorem partsFrom_inTags (message : String) (behind : List Char) :
    partsFrom 0 ((escape message).toList ++ '[' :: '/' :: ']' :: behind) =
      partsInTags message ++ partsFrom 0 behind := by
  have hslash : IsInside ['/'] := by decide
  have hclosing : tag? ('/' :: ']' :: behind) = some (['/'], behind) := hslash.tag? behind
  have hbracket : bracket? ('[' :: '/' :: ']' :: behind) ≠ some ']' := by
    simp [bracket?_cons, isTagChar]
  rw [partsFrom_escape message hbracket, partsFrom_tag hclosing, partsInTags]
  simp only [List.append_assoc, List.cons_append, List.nil_append]

theorem filterMap_char?_partsInTags (message : String) :
    (partsInTags message).filterMap Part.char? = (seenInTags message).toList := by
  rw [partsInTags, seenInTags]
  split <;> simp [List.filterMap_cons, Part.char?]

theorem filterMap_tag?_partsInTags (message : String) :
    (partsInTags message).filterMap Part.tag? =
      if ending message.toList % 2 = 1 then [] else ["/"] := by
  rw [partsInTags]
  split <;> simp [Part.tag?]

theorem partsFrom_atEnd (message : String) :
    partsFrom 0 (escape message).toList = chars (seenAtEnd message).toList := by
  have hnil : bracket? [] ≠ some ']' := by simp
  have h := partsFrom_escape message hnil
  rw [List.append_nil, partsFrom] at h
  rw [h, seenAtEnd, String.toList_ofList, chars, chars, chars, List.map_append]

/-- At the end of a markup a message is seen as it is if no backslash of it is lost and it does not
end in a single one. -/
theorem seenAtEnd_eq_iff (message : String) :
    seenAtEnd message = message ↔ KeepsBackslashes message.toList ∧ trail message.toList ≠ 1 := by
  rw [← String.toList_inj, seenAtEnd, String.toList_ofList]
  constructor
  · intro h
    obtain ⟨hkeeps, hends⟩ := keeps_of_kept_append h
    refine ⟨hkeeps, fun hone => ?_⟩
    have hlength := congrArg List.length hends
    simp [backslashes, ending, hone] at hlength
  · rintro ⟨hkeeps, hone⟩
    rw [kept_stem_of_keeps hkeeps, ending, if_neg hone, stem_append_trail]

/-- Between tags a message is seen as it is if no backslash of it is lost and it ends in one at
most. -/
theorem seenInTags_eq_iff (message : String) :
    seenInTags message = message ↔
      KeepsBackslashes message.toList ∧ trail message.toList ≤ 1 := by
  rw [← String.toList_inj, seenInTags, String.toList_append, String.toList_ofList,
    List.append_assoc]
  constructor
  · intro h
    obtain ⟨hkeeps, hends⟩ := keeps_of_kept_append h
    refine ⟨hkeeps, ?_⟩
    split at hends
    case isTrue =>
      -- the closing tag is seen, but a message ends in no bracket here
      have hmem : '[' ∈ backslashes (trail message.toList) := by simp [← hends]
      exact absurd (List.eq_of_mem_replicate hmem) (by decide)
    case isFalse =>
      have hlength := congrArg List.length hends
      simp only [backslashes, List.length_append, List.length_replicate, String.toList_empty,
        List.length_nil, ending] at hlength
      split at hlength <;> omega
  · rintro ⟨hkeeps, hone⟩
    have hends : ending message.toList = 2 * trail message.toList := by
      rw [ending]
      split <;> omega
    have heven : ¬ 2 * trail message.toList % 2 = 1 := by omega
    rw [kept_stem_of_keeps hkeeps, hends, if_neg heven, Nat.mul_div_cancel_left _ (by decide)]
    simpa using stem_append_trail message.toList

/-- Three backslashes escape the closing tag. -/
example : seenInTags "Lib\\\\\\" = "Lib\\[/]" := by decide +kernel

end Cyclomatic.Console.Markup
