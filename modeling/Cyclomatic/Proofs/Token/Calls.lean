import Cyclomatic.Token.Scan
import Mathlib.Data.List.Count

/-!
# Calls of the scanner

A scanner that goes on after each fault, from wherever it stands. `Cursor.after`: where it stands after
some calls, whatever they found. `calls_sound`: it always stands in its text, on the line that the
newlines before it make; each call that finds a token or a fault moves it forward; and it finds the end
after no more calls than the text has characters, and ever after.

One call keeps this, since it passes over a part of the text and counts its newlines
(`exists_passed`).
-/

set_option autoImplicit false

namespace Cyclomatic.Token

/-! ## One call -/

/-- What a call finds: the end behind skipped text, what stands at the head of the text that follows,
or a comment that is left open. -/
inductive Finds (cursor : Cursor) : Scan → Prop
  | done {gap : List Char} (hs : skip .between cursor.rest = ⟨gap, [], true⟩) :
      Finds cursor (.done (cursor.past gap []))
  | token {gap text rest after lexeme : List Char} {c : Char} {kind : Kind}
      (hs : skip .between cursor.rest = ⟨gap, c :: rest, true⟩)
      (hof : Head.of c rest = .token kind lexeme text after) :
      Finds cursor (.token ⟨kind, (cursor.past (gap ++ text) after).line, String.ofList lexeme⟩
        (cursor.past (gap ++ text) after))
  | fault {gap text rest after : List Char} {c : Char} {cause : Cause}
      (hs : skip .between cursor.rest = ⟨gap, c :: rest, true⟩)
      (hof : Head.of c rest = .fault cause text after) :
      Finds cursor (.fault ⟨(cursor.past (gap ++ text) after).line, cause⟩
        (cursor.past (gap ++ text) after))
  | openComment {gap : List Char} (hs : skip .between cursor.rest = ⟨gap, [], false⟩) :
      Finds cursor (.fault ⟨(cursor.past gap []).line, .unclosedComment⟩ (cursor.past gap []))

theorem Cursor.past_past (cursor : Cursor) (gap text rest after : List Char) :
    (cursor.past gap rest).past text after = cursor.past (gap ++ text) after := by
  simp [past, Nat.add_assoc]

theorem finds_iff {cursor : Cursor} {found : Scan} : Finds cursor found ↔ scan cursor = found := by
  constructor
  · intro h
    cases h with
    | done hs => simp [scan, hs]
    | token hs hof => simp [scan, hs, hof, Cursor.past_past]
    | fault hs hof => simp [scan, hs, hof, Cursor.past_past]
    | openComment hs => simp [scan, hs]
  · rintro rfl
    cases hs : skip .between cursor.rest with
    | mk gap rest closed =>
      cases closed with
      | false =>
        obtain rfl : rest = [] := by simpa [hs] using @skip_rest_of_open .between cursor.rest
        simpa [scan, hs] using Finds.openComment hs
      | true =>
        cases rest with
        | nil => simpa [scan, hs] using Finds.done hs
        | cons c rest =>
          cases hof : Head.of c rest with
          | token kind lexeme text after =>
            simpa [scan, hs, hof, Cursor.past_past] using Finds.token hs hof
          | fault cause text after =>
            simpa [scan, hs, hof, Cursor.past_past] using Finds.fault hs hof

theorem finds_scan (cursor : Cursor) : Finds cursor (scan cursor) := finds_iff.2 rfl

theorem skip_append_eq {cs gap rest : List Char} {closed : Bool}
    (hs : skip .between cs = ⟨gap, rest, closed⟩) : gap ++ rest = cs := by
  simpa [hs] using skip_append .between cs

namespace Head

variable {rest text after lexeme : List Char} {c : Char} {kind : Kind} {cause : Cause}

theorem append_of_token (h : of c rest = .token kind lexeme text after) :
    text ++ after = c :: rest := by
  simpa [h] using consumed_append_remaining c rest

theorem append_of_fault (h : of c rest = .fault cause text after) : text ++ after = c :: rest := by
  simpa [h] using consumed_append_remaining c rest

end Head

/-- Text that is skipped moves only the line on. -/
theorem scan_behind {before cs more : List Char} (line : Nat) (h : skip .between cs =
      { skip .between more with text := before ++ (skip .between more).text }) :
    scan ⟨cs, line⟩ = scan ⟨more, line + before.count '\n'⟩ := by
  have hpast (text rest : List Char) : Cursor.past ⟨cs, line⟩ (before ++ text) rest =
      Cursor.past ⟨more, line + before.count '\n'⟩ text rest := by
    simp [Cursor.past, Nat.add_assoc]
  simp only [scan, h, hpast]

section

variable {cursor : Cursor} {found : Scan}

/-- A call passes over a part of the text and counts its newlines, whatever it finds. -/
theorem Finds.exists_passed (h : Finds cursor found) :
    ∃ passed, passed ++ found.next.rest = cursor.rest ∧
      found.next.line = cursor.line + passed.count '\n' := by
  cases h with
  | done hs => exact ⟨_, skip_append_eq hs, rfl⟩
  | token hs hof =>
    exact ⟨_, by rw [List.append_assoc, ← skip_append_eq hs, ← Head.append_of_token hof]; rfl, rfl⟩
  | fault hs hof =>
    exact ⟨_, by rw [List.append_assoc, ← skip_append_eq hs, ← Head.append_of_fault hof]; rfl, rfl⟩
  | openComment hs => exact ⟨_, skip_append_eq hs, rfl⟩

/-- The newlines that are left are those that no line was counted for. -/
theorem Finds.line_add_count (h : Finds cursor found) :
    found.next.line + found.next.rest.count '\n' = cursor.line + cursor.rest.count '\n' := by
  obtain ⟨passed, hrest, hline⟩ := h.exists_passed
  rw [← hrest, hline, List.count_append, Nat.add_assoc]

end

theorem rest_of_done {cursor next : Cursor} (h : scan cursor = .done next) : next.rest = [] := by
  cases finds_iff.2 h
  rfl

theorem scan_of_rest_nil {cursor : Cursor} (h : cursor.rest = []) :
    scan cursor = .done cursor := by
  obtain ⟨rest, line⟩ := cursor
  obtain rfl : rest = [] := h
  rfl

/-- A text has at most as many tokens as characters. -/
theorem length_le_of_scanAll {cursor : Cursor} {tokens : List Token}
    (h : scanAll cursor = .ok tokens) : tokens.length ≤ cursor.rest.length := by
  fun_induction scanAll cursor generalizing tokens with
  | case1 =>
    cases h
    exact Nat.zero_le _
  | case2 => cases h
  | case3 cursor t next hs ih =>
    cases hn : scanAll next with
    | error fault =>
      rw [hn] at h
      cases h
    | ok others =>
      rw [hn] at h
      cases h
      have hlt := @scan_remaining_lt cursor (by simp [hs])
      have hrest := ih hn
      rw [hs, Scan.next] at hlt
      rw [List.length_cons]
      omega

/-! ## Any number of calls -/

/-- Where the cursor stands after `calls` calls, whatever they found. -/
def Cursor.after (cursor : Cursor) : (calls : Nat) → Cursor
  | 0 => cursor
  | calls + 1 => (scan (cursor.after calls)).next

/-- How many characters of the text are passed. -/
def Cursor.position (text : List Char) (cursor : Cursor) : Nat := text.length - cursor.rest.length

/-- The cursor stands in the text, on the line that the newlines before it make. -/
structure Cursor.StandsIn (text : List Char) (cursor : Cursor) : Prop where
  position_le : cursor.position text ≤ text.length
  rest : cursor.rest = text.drop (cursor.position text)
  line : cursor.line = 1 + (text.take (cursor.position text)).count '\n'

/-- What a call owes that starts at `before`. -/
def Scan.Sound (text : List Char) (before : Cursor) : Scan → Prop
  | .done next => next.position text = text.length
  | .token t next => before.position text < next.position text ∧ t.line = next.line
  | .fault f next => before.position text < next.position text ∧ f.line = next.line

theorem Cursor.standsIn_iff {text : List Char} {cursor : Cursor} :
    cursor.StandsIn text ↔
      ∃ passed, passed ++ cursor.rest = text ∧ cursor.line = 1 + passed.count '\n' := by
  constructor
  · intro h
    exact ⟨text.take (cursor.position text), by rw [h.rest, List.take_append_drop], h.line⟩
  · rintro ⟨passed, rfl, hline⟩
    have hpos : cursor.position (passed ++ cursor.rest) = passed.length := by simp [position]
    refine ⟨?_, ?_, ?_⟩ <;> rw [hpos]
    · simp
    · simp
    · simpa using hline

theorem Cursor.standsIn_start (text : List Char) : (Cursor.start text).StandsIn text :=
  standsIn_iff.2 ⟨[], rfl, rfl⟩

/-- A call leaves the cursor in its text. -/
theorem Cursor.StandsIn.scan {text : List Char} {cursor : Cursor} (h : cursor.StandsIn text) :
    (Token.scan cursor).next.StandsIn text := by
  obtain ⟨before, htext, hline⟩ := standsIn_iff.1 h
  obtain ⟨passed, hrest, hnext⟩ := (finds_scan cursor).exists_passed
  refine standsIn_iff.2 ⟨before ++ passed, ?_, ?_⟩
  · rw [List.append_assoc, hrest, htext]
  · rw [hnext, hline, List.count_append, Nat.add_assoc]

theorem Cursor.standsIn_after (text : List Char) (calls : Nat) :
    ((Cursor.start text).after calls).StandsIn text := by
  induction calls with
  | zero => exact standsIn_start text
  | succ calls ih => exact ih.scan

theorem Cursor.StandsIn.position_lt {text : List Char} {cursor next : Cursor}
    (h : cursor.StandsIn text) (hlt : next.rest.length < cursor.rest.length) :
    cursor.position text < next.position text := by
  obtain ⟨passed, rfl, -⟩ := standsIn_iff.1 h
  simp only [position, List.length_append]
  omega

/-- A call finds the end only behind the last character. Anything else moves the cursor forward and is on
the line where it leaves it. -/
theorem Cursor.StandsIn.sound {text : List Char} {cursor : Cursor} (h : cursor.StandsIn text) :
    (Token.scan cursor).Sound text cursor := by
  have hlt (hn : ∀ next, Token.scan cursor ≠ .done next) :
      cursor.position text < (Token.scan cursor).next.position text :=
    h.position_lt (scan_remaining_lt hn)
  have hf := finds_scan cursor
  generalize Token.scan cursor = found at hf hlt
  cases hf with
  | done => exact Nat.sub_zero _
  | token => exact ⟨hlt (by simp), rfl⟩
  | fault => exact ⟨hlt (by simp), rfl⟩
  | openComment => exact ⟨hlt (by simp), rfl⟩

theorem scan_after_done {cursor next : Cursor} {calls later : Nat}
    (h : scan (cursor.after calls) = .done next) (hl : calls < later) :
    scan (cursor.after later) = .done next := by
  induction later with
  | zero => omega
  | succ later ih =>
    have hnext : cursor.after (later + 1) = next := by
      rw [Cursor.after]
      by_cases he : calls = later
      · rw [← he, h, Scan.next]
      · rw [ih (by omega), Scan.next]
    rw [hnext, scan_of_rest_nil (rest_of_done h)]

/-- Calls that do not find the end use up the text. -/
theorem exists_done_or_length_le (cursor : Cursor) (calls : Nat) :
    (∃ n < calls, ∃ next, scan (cursor.after n) = .done next) ∨
      (cursor.after calls).rest.length + calls ≤ cursor.rest.length := by
  induction calls with
  | zero => exact .inr (Nat.le_refl _)
  | succ calls ih =>
    rcases ih with ⟨n, hn, hdone⟩ | hle
    · exact .inl ⟨n, by omega, hdone⟩
    · by_cases hd : ∃ next, scan (cursor.after calls) = .done next
      · exact .inl ⟨calls, by omega, hd⟩
      · have hlt := @scan_remaining_lt (cursor.after calls) (by simpa using hd)
        refine .inr ?_
        rw [Cursor.after]
        omega

/-- **The scanner stays sound after faults.** However often it is called, it stands in the text, on the
line that the newlines before it make. A token or a fault is on that line, and moves it forward. It
finds the end only behind the last character, ever after once it has, and after no more calls than
the text has characters. -/
theorem calls_sound (text : String) :
    (∀ calls, ((Cursor.start text.toList).after calls).StandsIn text.toList ∧
      (scan ((Cursor.start text.toList).after calls)).Sound text.toList
        ((Cursor.start text.toList).after calls)) ∧
    (∀ calls next, scan ((Cursor.start text.toList).after calls) = .done next →
      ∀ later > calls, scan ((Cursor.start text.toList).after later) = .done next) ∧
    ∃ calls ≤ text.length, ∃ next, scan ((Cursor.start text.toList).after calls) = .done next := by
  refine ⟨fun calls => ?_, fun calls next h later hl => scan_after_done h hl, ?_⟩
  · have hin := Cursor.standsIn_after text.toList calls
    exact ⟨hin, hin.sound⟩
  · have hlen : (Cursor.start text.toList).rest.length = text.length := String.length_toList
    rcases exists_done_or_length_le (Cursor.start text.toList) text.length with
      ⟨calls, hlt, hdone⟩ | hle
    · exact ⟨calls, Nat.le_of_lt hlt, hdone⟩
    · -- nothing is left after as many calls, so the next one finds the end
      rw [hlen] at hle
      have hzero : ((Cursor.start text.toList).after text.length).rest.length = 0 := by omega
      have hnil := List.length_eq_zero_iff.1 hzero
      exact ⟨text.length, Nat.le_refl _, _, scan_of_rest_nil hnil⟩

end Cyclomatic.Token
