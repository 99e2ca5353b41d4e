import Cyclomatic.Proofs.Token.Spelling
import Mathlib.Data.List.Find

/-!
# No token looks past a blank

What is read for one token stays the same whatever follows, if a blank comes first
(`Head.of_extend`), and so does what is skipped before it (`skip_extend`). This is proved reader by
reader:

* no longer sign comes of it, since signs hold no blank (`operator?_extend`);
* runs of characters end where they did, at a character that ended them or at the blank
  (`span_append_of_stop`, `span_append_of_blank`);
* searches stop at what they found (`stringBody?_extend`, `splitBefore?_extend`).
-/

set_option autoImplicit false

namespace Cyclomatic.Token

/-! ## Blanks -/

theorem skip_of_not_blank {c : Char} {cs : List Char} (hb : isBlank c = false) (hc : c ≠ '/') :
    skip .between (c :: cs) = ⟨[], c :: cs, true⟩ := by
  rw [skip]
  · simp [hb]
  · simp [hc]
  · simp [hc]

theorem skip_blank {c : Char} (cs : List Char) (hb : isBlank c = true) :
    skip .between (c :: cs) = (skip .between cs).cons c := by
  have hc : c ≠ '/' := by
    rintro rfl
    simp [isBlank] at hb
  rw [skip]
  · simp [hb]
  · simp [hc]
  · simp [hc]

namespace Head

/-- A character that passes a test is none that does not. -/
theorem ne_of_test {p : Char → Bool} {c d : Char} (h : p c = true) (hd : p d = false) :
    c ≠ d := by
  rintro rfl
  simp [h] at hd

theorem isBlank_of_test {p : Char → Bool} {c : Char} (h : p c = true)
    (hp : [' ', '\t', '\r', '\n'].any p = false) : isBlank c = false := by
  have hne : ∀ d ∈ [' ', '\t', '\r', '\n'], c ≠ d := fun d hd =>
    ne_of_test h (by simpa using List.any_eq_false.1 hp d hd)
  simpa [isBlank, and_assoc] using hne

theorem takeWhile_append_of_stop {p : Char → Bool} {cs rest : List Char}
    (hc : ∀ c ∈ cs, p c = true) (hr : ∀ c ∈ rest.head?, p c = false) :
    (cs ++ rest).takeWhile p = cs ∧ (cs ++ rest).dropWhile p = rest := by
  rw [List.takeWhile_append_of_pos hc, List.dropWhile_append_of_pos hc]
  cases rest with
  | nil => simp
  | cons c rest => simp [hr c rfl]

variable {cs text rest tail lexeme : List Char} {kind : Kind}

/-! ## Runs and searches -/

/-- A run of characters stays the same if what follows does not go on with it. -/
theorem span_append {p : Char → Bool} (h : ∀ c ∈ (cs.dropWhile p ++ tail).head?, p c = false) :
    (cs ++ tail).takeWhile p = cs.takeWhile p ∧
      (cs ++ tail).dropWhile p = cs.dropWhile p ++ tail := by
  have hspan := takeWhile_append_of_stop (forall_mem_takeWhile p cs) h
  rwa [← List.append_assoc, List.takeWhile_append_dropWhile] at hspan

theorem span_append_of_stop {p : Char → Bool} {c : Char} {after : List Char} (tail : List Char)
    (h : cs.dropWhile p = c :: after) :
    (cs ++ tail).takeWhile p = cs.takeWhile p ∧ (cs ++ tail).dropWhile p = c :: after ++ tail := by
  rw [← h]
  refine span_append fun d hd => ?_
  obtain rfl : c = d := by simpa [h] using hd
  exact not_of_dropWhile_eq_cons h

theorem stringBody?_extend {quote : Char} {escaped : Bool} (tail : List Char)
    (h : stringBody? quote escaped cs = some (text, rest)) :
    stringBody? quote escaped (cs ++ tail) = some (text, rest ++ tail) := by
  induction cs generalizing escaped text rest with
  | nil => simp [stringBody?] at h
  | cons c cs ih =>
    rw [List.cons_append, stringBody?]
    rw [stringBody?] at h
    split at h
    · rename_i hq
      cases h
      rw [if_pos hq]
    · rename_i hq
      simp only [Option.map_eq_some_iff, Prod.mk.injEq, Prod.exists] at h
      obtain ⟨body, after, hbody, rfl, rfl⟩ := h
      rw [if_neg hq, ih hbody]
      rfl

theorem string_extend {quote : Char} (tail : List Char)
    (h : string quote cs = .token kind lexeme text rest) :
    string quote (cs ++ tail) = .token kind lexeme text (rest ++ tail) := by
  unfold string at h ⊢
  split at h
  · rename_i body after hbody
    cases h
    rw [stringBody?_extend tail hbody]
  · cases h

/-- The first occurrence of a mark stays the first one: an earlier one would reach into what is
there already. -/
theorem splitBefore?_extend {mark before after : List Char} (tail : List Char)
    (h : splitBefore? mark cs = some (before, after)) :
    splitBefore? mark (cs ++ tail) = some (before, after ++ tail) := by
  induction cs generalizing before after with
  | nil =>
    rw [splitBefore?] at h
    split at h
    · rename_i hm
      cases h
      cases tail <;> simp_all [splitBefore?]
    · cases h
  | cons c cs ih =>
    rw [List.cons_append, splitBefore?]
    rw [splitBefore?] at h
    split at h
    · rename_i hm
      cases h
      have hmark : mark <+: c :: cs := List.isPrefixOf_iff_prefix.1 hm
      have hlong : mark <+: c :: (cs ++ tail) := hmark.trans (List.prefix_append (c :: cs) tail)
      rw [if_pos (List.isPrefixOf_iff_prefix.2 hlong)]
      rfl
    · rename_i hm
      simp only [Option.map_eq_some_iff, Prod.mk.injEq, Prod.exists] at h
      obtain ⟨before', after', hsplit, rfl, rfl⟩ := h
      have hnot : ¬ mark.isPrefixOf (c :: (cs ++ tail)) = true := by
        intro hp
        obtain ⟨happ, hpre⟩ := splitBefore?_eq_some hsplit
        have hlen : mark.length ≤ (c :: cs).length := by
          have := hpre.length_le
          simp [← happ]
          omega
        exact hm (List.isPrefixOf_iff_prefix.2 (List.prefix_of_prefix_length_le
          (List.isPrefixOf_iff_prefix.1 hp) (List.prefix_append (c :: cs) tail) hlen))
      rw [if_neg hnot, ih hsplit]
      rfl

theorem heredocBody_extend {opening title body : List Char} (tail : List Char)
    (h : heredocBody opening title body = .token kind lexeme text rest) :
    heredocBody opening title (body ++ tail) = .token kind lexeme text (rest ++ tail) := by
  unfold heredocBody at h ⊢
  split at h
  · cases h
  · rename_i ht
    rw [if_neg ht]
    split at h
    · rename_i doc after hsplit
      cases h
      rw [splitBefore?_extend tail hsplit]
      have hlen := (splitBefore?_eq_some hsplit).2.length_le
      simp [List.drop_append_of_le_length hlen]
    · cases h

theorem heredoc_extend (tail : List Char) (h : heredoc cs = .token kind lexeme text rest) :
    heredoc (cs ++ tail) = .token kind lexeme text (rest ++ tail) := by
  cases cs with
  | nil => cases h
  | cons q quotedTitle =>
    simp only [heredoc, List.cons_append] at h ⊢
    split at h
    · rename_i hq
      rw [if_pos hq]
      split at h
      · rename_i close gap body hd
        obtain ⟨htake, hdrop⟩ := span_append_of_stop tail hd
        rw [htake, hdrop]
        exact heredocBody_extend tail h
      · cases h
    · rename_i hq
      rw [if_neg hq]
      split at h
      · rename_i gap body hd
        obtain ⟨htake, hdrop⟩ := span_append_of_stop tail hd
        rw [List.cons_append] at htake hdrop
        rw [htake, hdrop]
        exact heredocBody_extend tail h
      · cases h

/-! ## Readers before a blank -/

/-- No sign starts with a character of an identifier or with a digit, and none holds a blank. -/
theorem operators_chars : ∀ entry ∈ operators, entry.2 ≠ [] ∧
    (∀ c ∈ entry.2.head?, startsIdentifier c = false ∧ c.isDigit = false) ∧
    ∀ c ∈ entry.2, isBlank c = false := by
  have hall : operators.all (fun entry => !entry.2.isEmpty &&
      entry.2.head?.all (fun c => !startsIdentifier c && !c.isDigit) &&
      entry.2.all (!isBlank ·)) = true := by decide
  intro entry hm
  have h := List.all_eq_true.1 hall entry hm
  simp only [Bool.and_eq_true, Bool.not_eq_eq_eq_not, Bool.not_true, List.isEmpty_eq_false_iff,
    Option.all_eq_true, List.all_eq_true] at h
  exact ⟨h.1.1, h.1.2, h.2⟩

section

variable (ht : ∀ c ∈ tail.head?, isBlank c = true)
include ht

/-- Before a blank, the signs that a text starts with are those that it starts with alone. -/
theorem operator?_extend : operator? (cs ++ tail) = operator? cs := by
  have hp : ∀ entry ∈ operators, entry.2.isPrefixOf (cs ++ tail) = entry.2.isPrefixOf cs := by
    intro entry hm
    rw [Bool.eq_iff_iff, List.isPrefixOf_iff_prefix, List.isPrefixOf_iff_prefix]
    refine ⟨fun h => ?_, fun h => h.trans (List.prefix_append _ _)⟩
    rcases List.prefix_or_prefix_of_prefix h (List.prefix_append cs tail) with hl | ⟨more, hl⟩
    · exact hl
    · -- a longer sign would go on with the blank
      rw [← hl, List.prefix_append_right_inj] at h
      cases more with
      | nil => exact ⟨[], by simpa using hl.symm⟩
      | cons d more =>
        have hd : isBlank d = false := (operators_chars _ hm).2.2 d (by simp [← hl])
        obtain ⟨after, rfl⟩ := h
        simp [ht d rfl] at hd
  exact List.find?_congr hp

/-- A character that is no blank and comes first comes from the text before a blank. -/
theorem exists_cons_of_append {c : Char} {more : List Char} (hc : isBlank c = false)
    (h : cs ++ tail = c :: more) : ∃ after, cs = c :: after := by
  cases cs with
  | nil =>
    obtain rfl : tail = c :: more := h
    exact absurd (ht c rfl) (by simp [hc])
  | cons d cs => exact ⟨cs, by rw [(List.cons.inj h).1]⟩

theorem span_append_of_blank {p : Char → Bool} (cs : List Char)
    (hp : [' ', '\t', '\r', '\n'].any p = false) :
    (cs ++ tail).takeWhile p = cs.takeWhile p ∧
      (cs ++ tail).dropWhile p = cs.dropWhile p ++ tail := by
  refine span_append fun c hc => ?_
  cases hd : cs.dropWhile p with
  | nil =>
    rw [hd, List.nil_append] at hc
    cases hpc : p c with
    | false => rfl
    | true =>
      have hb := isBlank_of_test hpc hp
      simp [ht c hc] at hb
  | cons d after =>
    obtain rfl : d = c := by simpa [hd] using hc
    exact not_of_dropWhile_eq_cons hd

theorem commonStart_extend {as : List Char} (bs : List Char) (ha : ∀ a ∈ as, isBlank a = false) :
    commonStart as (bs ++ tail) = commonStart as bs := by
  induction as generalizing bs with
  | nil => simp [commonStart]
  | cons a as ih =>
    cases bs with
    | nil =>
      cases tail with
      | nil => rfl
      | cons c tail =>
        have hne : a ≠ c := by
          rintro rfl
          simpa [ha a (by simp)] using ht a rfl
        simp [commonStart, hne]
    | cons b bs =>
      simp only [List.cons_append, commonStart]
      rw [ih bs fun d hd => ha d (by simp [hd])]

theorem comparison_extend {opening : List Char}
    (h : comparison opening cs = .token kind lexeme text rest) :
    comparison opening (cs ++ tail) = .token kind lexeme text (rest ++ tail) := by
  have hlen := (commonStart_begins tagName cs).length_le
  have htag : commonStart tagName (cs ++ tail) = commonStart tagName cs :=
    commonStart_extend ht cs (by simp [tagName, isBlank])
  simp only [comparison, htag, List.drop_append_of_le_length hlen] at h ⊢
  split at h
  · rename_i he
    cases h
    rw [if_pos he]
  · rename_i he
    rw [if_neg he]
    split at h
    · rename_i after hd
      cases h
      rw [hd]
      rfl
    · rename_i hd
      cases h
      split
      · rename_i after heq
        obtain ⟨more, hcs⟩ := exists_cons_of_append ht (by decide) heq
        exact absurd hcs (hd more)
      · rfl

theorem angle_extend (h : angle cs = .token kind lexeme text rest) :
    angle (cs ++ tail) = .token kind lexeme text (rest ++ tail) := by
  -- a second angle would be the first of `tail`, which is a blank
  have hangle {more after : List Char} (hm : ∀ before, more = '<' :: before → False)
      (he : more ++ tail = '<' :: after) : False := by
    obtain ⟨before, hb⟩ := exists_cons_of_append ht (by decide) he
    exact hm before hb
  unfold angle at h
  split at h
  · exact heredoc_extend tail h
  · rename_i more hm
    rw [List.cons_append, angle.eq_2 _ fun _ => hangle hm]
    exact comparison_extend ht h
  · rename_i hm₂ hm₁
    rw [angle.eq_3 _ (fun _ => hangle hm₁) fun _ => hangle hm₁]
    exact comparison_extend ht h

theorem number_extend {c : Char} (h : number c cs = .token kind lexeme text rest) :
    number c (cs ++ tail) = .token kind lexeme text (rest ++ tail) := by
  have hspan (cs : List Char) := @span_append_of_blank _ ht Text.isDigit cs rfl
  simp only [number, hspan] at h ⊢
  split at h
  · rename_i after hd
    cases h
    rw [hd, List.cons_append]
    simp only [hspan]
  · rename_i hd
    cases h
    split
    · rename_i after heq
      obtain ⟨more, hcs⟩ := exists_cons_of_append ht (by decide) heq
      exact absurd hcs (hd more)
    · rfl

theorem identifier_extend {c : Char} (h : identifier c cs = .token kind lexeme text rest) :
    identifier c (cs ++ tail) = .token kind lexeme text (rest ++ tail) := by
  have hspan := @span_append_of_blank _ ht continuesIdentifier cs rfl
  simp only [identifier, hspan] at h ⊢
  cases h
  rfl

/-- **No token looks past a blank.** -/
theorem of_extend {c : Char} (h : of c cs = .token kind lexeme text rest) :
    of c (cs ++ tail) = .token kind lexeme text (rest ++ tail) := by
  have hop : operator? (c :: (cs ++ tail)) = operator? (c :: cs) :=
    @operator?_extend (c :: cs) tail ht
  unfold of at h ⊢
  split at h
  · rename_i hc
    rw [if_pos hc]
    exact angle_extend ht h
  · rename_i hc
    rw [if_neg hc, hop]
    split at h
    · rename_i sign spelling hs
      cases h
      have hlen := (operator?_begins hs).1.length_le
      rw [← List.cons_append, List.drop_append_of_le_length hlen]
    · split at h
      · rename_i hq
        rw [if_pos hq]
        exact string_extend tail h
      · rename_i hq
        rw [if_neg hq]
        split at h
        · rename_i hd
          rw [if_pos hd]
          exact number_extend ht h
        · rename_i hd
          rw [if_neg hd]
          split at h
          · rename_i hi
            rw [if_pos hi]
            exact identifier_extend ht h
          · cases h

end

end Head

/-! ## Blanks and comments before a blank -/

/-- A character that does not come next does not come next if a blank follows, either. -/
theorem not_cons_extend {p : Prop} {c : Char} {cs tail : List Char} (hc : isBlank c = false)
    (ht : ∀ d ∈ tail.head?, isBlank d = true) (hn : ∀ after, p → cs = c :: after → False) :
    ∀ after, p → cs ++ tail = c :: after → False := by
  intro more hp he
  obtain ⟨after, ha⟩ := Head.exists_cons_of_append ht hc he
  exact hn after hp ha

theorem skip_extend {place : Place} {cs tail : List Char} (hr : (skip place cs).rest ≠ [])
    (ht : ∀ c ∈ tail.head?, isBlank c = true) :
    skip place (cs ++ tail) = { skip place cs with rest := (skip place cs).rest ++ tail } := by
  fun_induction skip place cs with
  | case1 => exact absurd rfl hr
  | case2 rest ih => simp [skip, ih hr, Gap.cons]
  | case3 rest ih => simp [skip, ih hr, Gap.cons]
  | case4 c rest _ _ hb ih => simp [skip_blank _ hb, ih hr, Gap.cons]
  | case5 c rest hline hblock hb =>
    -- a slash at the end of the text opens no comment, since a blank follows
    rw [List.cons_append, skip]
    · simp [hb]
    · exact not_cons_extend (by decide) ht hline
    · exact not_cons_extend (by decide) ht hblock
  | case6 => exact absurd rfl hr
  | case7 rest ih => simp [skip, ih hr, Gap.cons]
  | case8 c rest hn ih => simp [skip, ih hr, Gap.cons]
  | case9 => exact absurd rfl hr
  | case10 rest ih => simp [skip, ih hr, Gap.cons]
  | case11 c rest hn ih =>
    rw [List.cons_append, skip, ih hr]
    · rfl
    · exact not_cons_extend (by decide) ht hn

end Cyclomatic.Token
