import Cyclomatic.Proofs.Token.Calls
import Cyclomatic.Proofs.Token.Lookahead
import Mathlib.Algebra.Group.Nat.Even
import Mathlib.Data.Nat.Find
import Mathlib.Order.Bounds.Basic

/-!
# Where strings and heredocs end

Both end at the first place of a set: a string at the first quote behind an even number of backslashes
(`closings`, `scan_string`), a heredoc at the first occurrence of its title in its body (`occurrences`,
`scan_heredoc`). Without such a place the scanner comes to the end of the text and finds a fault.

The reader of strings keeps a flag, which tells whether an odd number of backslashes is behind it
(`isEscaped_snoc`); so what it looks for from some place on are the closings that are not before that
place (`stringBody?_of_isLeast`, `stringBody?_of_empty`).
-/

set_option autoImplicit false

namespace Cyclomatic.Token

theorem exists_isLeast {places : Set Nat} (h : places.Nonempty) : ∃ n, IsLeast places n := by
  classical
  exact ⟨Nat.find h, Nat.find_spec h, fun _ hm => Nat.find_min' h hm⟩

/-! ## Strings -/

/-- How many backslashes a text ends with. -/
def backslashes (cs : List Char) : Nat := (cs.reverse.takeWhile (· == '\\')).length

/-- The places in what follows an opening quote where the quote stands behind an even number of
backslashes. -/
def closings (quote : Char) (cs : List Char) : Set Nat :=
  {k | cs[k]? = some quote ∧ Even (backslashes (cs.take k))}

theorem backslashes_snoc (cs : List Char) (c : Char) :
    backslashes (cs ++ [c]) = if c = '\\' then backslashes cs + 1 else 0 := by
  unfold backslashes
  rw [List.reverse_append, List.reverse_singleton, List.singleton_append, List.takeWhile_cons]
  by_cases hc : c = '\\' <;> simp [hc]

/-- Whether a character is escaped by the backslashes before it. -/
def isEscaped (before : List Char) : Bool := decide (¬ Even (backslashes before))

/-- A backslash escapes what follows unless it is escaped itself, and nothing else does. -/
theorem isEscaped_snoc (cs : List Char) (c : Char) :
    isEscaped (cs ++ [c]) = (decide (c = '\\') && !isEscaped cs) := by
  unfold isEscaped
  rw [backslashes_snoc]
  by_cases hc : c = '\\'
  · by_cases he : Even (backslashes cs) <;> simp [hc, he, Nat.even_add_one]
  · simp [hc]

theorem mem_closings_append {quote c : Char} {before after : List Char} :
    before.length ∈ closings quote (before ++ c :: after) ↔ c = quote ∧ isEscaped before = false := by
  simp [closings, isEscaped]

namespace Head

/-- A string's text goes on to its first closing. `before` is what has been read of it. -/
theorem stringBody?_of_isLeast {quote : Char} {before cs : List Char} {k : Nat}
    (h : IsLeast {n ∈ closings quote (before ++ cs) | before.length ≤ n} (before.length + k)) :
    stringBody? quote (isEscaped before) cs = some (cs.take k, cs.drop (k + 1)) := by
  induction cs generalizing before k with
  | nil =>
    obtain ⟨⟨hquote, -⟩, -⟩ := h.1
    simp at hquote
  | cons c cs ih =>
    obtain ⟨⟨hk, -⟩, hleast⟩ := h
    have hword : before ++ c :: cs = (before ++ [c]) ++ cs := by simp
    rw [stringBody?]
    by_cases hc : c = quote ∧ isEscaped before = false
    · have hk0 : before.length + k ≤ before.length :=
        hleast ⟨mem_closings_append.2 hc, Nat.le_refl _⟩
      obtain rfl : k = 0 := by omega
      simp [hc]
    · obtain ⟨n, rfl⟩ : ∃ n, k = n + 1 := by
        refine Nat.exists_eq_succ_of_ne_zero ?_
        rintro rfl
        exact hc (mem_closings_append.1 hk)
      have hnext : IsLeast {m ∈ closings quote (before ++ [c] ++ cs) | (before ++ [c]).length ≤ m}
          ((before ++ [c]).length + n) := by
        rw [← hword]
        refine ⟨⟨?_, by omega⟩, fun m hm => ?_⟩
        · rwa [List.length_append, List.length_singleton, Nat.add_assoc, Nat.add_comm 1 n]
        · have hm' := hleast ⟨hm.1, by have := hm.2; simp at this; omega⟩
          simp
          omega
      rw [if_neg hc, ← isEscaped_snoc, ih hnext]
      rfl

/-- Without a closing, no text of a string is found. -/
theorem stringBody?_of_empty {quote : Char} {before cs : List Char}
    (h : ∀ n ∈ closings quote (before ++ cs), n < before.length) :
    stringBody? quote (isEscaped before) cs = none := by
  induction cs generalizing before with
  | nil => rfl
  | cons c cs ih =>
    have hc : ¬ (c = quote ∧ isEscaped before = false) := by
      intro hc
      exact Nat.lt_irrefl _ (h _ (mem_closings_append.2 hc))
    have hnext : ∀ n ∈ closings quote (before ++ [c] ++ cs), n < (before ++ [c]).length := by
      intro n hn
      have hlt := h n (by simpa using hn)
      simp
      omega
    rw [stringBody?, if_neg hc, ← isEscaped_snoc, ih hnext]
    rfl

end Head

/-! ## Heredocs -/

/-- The places where a mark occurs in a text. -/
def occurrences (mark cs : List Char) : Set Nat := {n | mark <+: cs.drop n}

/-- The title and the body in what follows `<<<`: the title ends with the line, or it stands between
two quotes, and the body comes one character behind them. -/
inductive Titled (title body : List Char) : List Char → Prop
  | line (hq : ∀ c ∈ title.head?, c ≠ '\'' ∧ c ≠ '"') (hn : '\n' ∉ title) :
      Titled title body (title ++ '\n' :: body)
  | quoted {quote gap : Char} (hq : quote = '\'' ∨ quote = '"') (hn : quote ∉ title) :
      Titled title body (quote :: (title ++ quote :: gap :: body))

/-- Why what follows `<<<` is no heredoc, and what is left when that shows. -/
inductive Undelimited (cs : List Char) : Cause → List Char → Prop
  | unopened (h : ∀ title body, ¬ Titled title body cs) : Undelimited cs .endOfText []
  | untitled {body : List Char} (h : Titled [] body cs) : Undelimited cs .untitledHeredoc body
  | unclosed {title body : List Char} (h : Titled title body cs) (ht : title ≠ [])
      (hn : occurrences title body = ∅) :
      Undelimited cs (.unclosedHeredoc (String.ofList title)) []

namespace Head

theorem splitBefore?_of_isLeast {mark cs : List Char} {n : Nat}
    (h : IsLeast (occurrences mark cs) n) :
    splitBefore? mark cs = some (cs.take n, cs.drop n) := by
  induction cs generalizing n with
  | nil =>
    have hmark : mark <+: [] := by simpa [occurrences] using h.1
    simp [splitBefore?, List.prefix_nil.1 hmark]
  | cons c cs ih =>
    rw [splitBefore?]
    by_cases hm : mark <+: c :: cs
    · obtain rfl : n = 0 := Nat.le_zero.1 (h.2 hm)
      rw [if_pos (List.isPrefixOf_iff_prefix.2 hm)]
      rfl
    · obtain ⟨k, rfl⟩ : ∃ k, n = k + 1 := by
        refine Nat.exists_eq_succ_of_ne_zero ?_
        rintro rfl
        exact hm h.1
      have hnext : IsLeast (occurrences mark cs) k :=
        ⟨h.1, fun m hm' => Nat.le_of_succ_le_succ (h.2 (show mark <+: (c :: cs).drop (m + 1) from hm'))⟩
      rw [if_neg (mt List.isPrefixOf_iff_prefix.1 hm), ih hnext]
      rfl

theorem splitBefore?_of_empty {mark cs : List Char} (h : occurrences mark cs = ∅) :
    splitBefore? mark cs = none := by
  rw [Set.eq_empty_iff_forall_notMem] at h
  induction cs with
  | nil =>
    have hmark : mark ≠ [] := by
      rintro rfl
      exact h 0 List.nil_prefix
    simp [splitBefore?, hmark]
  | cons c cs ih =>
    have hhead : ¬ mark <+: c :: cs := h 0
    rw [splitBefore?, if_neg (mt List.isPrefixOf_iff_prefix.1 hhead), ih fun n => h (n + 1)]
    rfl

variable {cs title body : List Char}

/-- A title and its body are what the reader takes for them. -/
theorem heredoc_of_titled (h : Titled title body cs) :
    ∃ opening, heredoc cs = heredocBody opening title body := by
  cases h with
  | line hq hn =>
    have hline : ∀ c ∈ title, decide (c ≠ '\n') = true := by
      intro c hc
      simpa using fun he : c = '\n' => hn (he ▸ hc)
    obtain ⟨htake, hdrop⟩ := @takeWhile_append_of_stop _ _ ('\n' :: body) hline (by simp)
    cases title with
    | nil => exact ⟨_, rfl⟩
    | cons q title =>
      have hquote : ¬ (q = '\'' ∨ q = '"') := not_or.2 (hq q rfl)
      rw [List.cons_append] at htake hdrop ⊢
      rw [heredoc]
      dsimp only
      rw [if_neg hquote, htake, hdrop]
      exact ⟨_, rfl⟩
  | @quoted quote gap hq hn =>
    have hline : ∀ c ∈ title, decide (c ≠ quote) = true := by
      intro c hc
      simpa using fun he : c = quote => hn (he ▸ hc)
    obtain ⟨htake, hdrop⟩ := @takeWhile_append_of_stop _ _ (quote :: gap :: body) hline (by simp)
    rw [heredoc]
    dsimp only
    rw [if_pos hq, htake, hdrop]
    exact ⟨_, rfl⟩

/-- Without a title and a body, the reader comes to the end of the text. -/
theorem heredoc_of_not_titled (h : ∀ title body, ¬ Titled title body cs) :
    ∃ written, heredoc cs = .fault .endOfText written [] := by
  cases cs with
  | nil => exact ⟨_, rfl⟩
  | cons q more =>
    unfold heredoc
    dsimp only
    by_cases hq : q = '\'' ∨ q = '"'
    · rw [if_pos hq]
      split
      · rename_i close gap body hd
        obtain rfl : close = q := by simpa using not_of_dropWhile_eq_cons hd
        have hn : close ∉ more.takeWhile (· ≠ close) := fun hm => by
          simpa using forall_mem_takeWhile _ _ _ hm
        have hmore : more = more.takeWhile (· ≠ close) ++ close :: gap :: body := by
          rw [← hd, List.takeWhile_append_dropWhile]
        rw [hmore] at h
        exact absurd (.quoted hq hn) (h _ body)
      · exact ⟨_, rfl⟩
    · rw [if_neg hq]
      split
      · rename_i gap body hd
        obtain rfl : gap = '\n' := by simpa using not_of_dropWhile_eq_cons hd
        have hn : '\n' ∉ (q :: more).takeWhile (· ≠ '\n') := fun hm => by
          simpa using forall_mem_takeWhile _ _ _ hm
        have hhead : ∀ c ∈ ((q :: more).takeWhile (· ≠ '\n')).head?, c ≠ '\'' ∧ c ≠ '"' := by
          intro c hc
          rw [List.takeWhile_cons] at hc
          split at hc
          · obtain rfl : q = c := by simpa using hc
            exact not_or.1 hq
          · simp at hc
        have hmore : q :: more = (q :: more).takeWhile (· ≠ '\n') ++ '\n' :: body := by
          rw [← hd, List.takeWhile_append_dropWhile]
        rw [hmore] at h
        exact absurd (.line hhead hn) (h _ body)
      · exact ⟨_, rfl⟩

theorem heredoc_of_isLeast {n : Nat} (h : Titled title body cs) (ht : title ≠ [])
    (hn : IsLeast (occurrences title body) n) : ∃ written, heredoc cs =
      .token .heredoc (body.take n) written (body.drop (n + title.length)) := by
  obtain ⟨opening, ho⟩ := heredoc_of_titled h
  rw [ho, heredocBody, if_neg (mt List.isEmpty_iff.1 ht), splitBefore?_of_isLeast hn,
    ← List.drop_drop]
  exact ⟨_, rfl⟩

theorem heredoc_of_undelimited {cause : Cause} {after : List Char} (h : Undelimited cs cause after) :
    ∃ written, heredoc cs = .fault cause written after := by
  cases h with
  | unopened h => exact heredoc_of_not_titled h
  | untitled h =>
    obtain ⟨opening, ho⟩ := heredoc_of_titled h
    rw [ho]
    exact ⟨opening, rfl⟩
  | unclosed h ht hn =>
    obtain ⟨opening, ho⟩ := heredoc_of_titled h
    rw [ho, heredocBody, if_neg (mt List.isEmpty_iff.1 ht), splitBefore?_of_empty hn]
    exact ⟨_, rfl⟩

end Head

/-! ## In a text -/

/-- The next token of the scanner starts with `cs`: what it skips before leaves no comment open. -/
def Cursor.Meets (cursor : Cursor) (cs : List Char) : Prop :=
  ∃ gap, skip .between cursor.rest = ⟨gap, cs, true⟩

section

variable {text cs after lexeme : List Char} {cursor : Cursor} {c quote : Char} {kind : Kind}
  {cause : Cause}

theorem Cursor.StandsIn.exists_token (hin : cursor.StandsIn text) (hm : cursor.Meets (c :: cs))
    (h : ∃ written, Head.of c cs = .token kind lexeme written after) :
    ∃ next, Token.scan cursor = .token ⟨kind, next.line, String.ofList lexeme⟩ next ∧
      next.StandsIn text ∧ next.rest = after := by
  obtain ⟨gap, hs⟩ := hm
  obtain ⟨written, hof⟩ := h
  have hscan := finds_iff.1 (Finds.token hs hof)
  refine ⟨_, hscan, ?_, rfl⟩
  have hnext := hin.scan
  rwa [hscan] at hnext

theorem Cursor.StandsIn.exists_fault (hin : cursor.StandsIn text) (hm : cursor.Meets (c :: cs))
    (h : ∃ written, Head.of c cs = .fault cause written after) :
    ∃ next, Token.scan cursor = .fault ⟨next.line, cause⟩ next ∧
      next.StandsIn text ∧ next.rest = after := by
  obtain ⟨gap, hs⟩ := hm
  obtain ⟨written, hof⟩ := h
  have hscan := finds_iff.1 (Finds.fault hs hof)
  refine ⟨_, hscan, ?_, rfl⟩
  have hnext := hin.scan
  rwa [hscan] at hnext

theorem Cursor.StandsIn.line_of_end (hin : cursor.StandsIn text) (h : cursor.rest = []) :
    cursor.line = 1 + text.count '\n' := by
  obtain ⟨passed, htext, hline⟩ := standsIn_iff.1 hin
  rw [hline, ← htext, h, List.append_nil]

/-- **A string ends at the right quote.** Where the scanner meets a quote, it finds a string up to the
first closing behind it and goes on right after that, or there is no closing and it finds a fault at
the end of the text. -/
theorem scan_string (hin : cursor.StandsIn text) (hm : cursor.Meets (quote :: cs))
    (hq : quote = '\'' ∨ quote = '"') :
    (∃ k next, IsLeast (closings quote cs) k ∧
      scan cursor = .token ⟨.string, next.line, String.ofList (cs.take k)⟩ next ∧
      next.StandsIn text ∧ next.rest = cs.drop (k + 1)) ∨
    (closings quote cs = ∅ ∧ ∃ next,
      scan cursor = .fault ⟨1 + text.count '\n', .unclosedString⟩ next ∧
      next.StandsIn text ∧ next.rest = []) := by
  have hof : Head.of quote cs = Head.string quote cs := by rcases hq with rfl | rfl <;> rfl
  have hescaped : isEscaped [] = false := rfl
  rcases Set.eq_empty_or_nonempty (closings quote cs) with he | hne
  · have hbody := @Head.stringBody?_of_empty quote [] cs (by simp [he])
    have hfault : ∃ written, Head.of quote cs = .fault .unclosedString written [] := by
      rw [hof, Head.string, ← hescaped, hbody]
      exact ⟨_, rfl⟩
    obtain ⟨next, hscan, hnext, hrest⟩ := hin.exists_fault hm hfault
    rw [hnext.line_of_end hrest] at hscan
    exact .inr ⟨he, next, hscan, hnext, hrest⟩
  · obtain ⟨k, hk⟩ : ∃ k, IsLeast (closings quote cs) k := exists_isLeast hne
    have hbody := @Head.stringBody?_of_isLeast quote [] cs k (by simpa using hk)
    have htoken : ∃ written, Head.of quote cs =
        .token .string (cs.take k) written (cs.drop (k + 1)) := by
      rw [hof, Head.string, ← hescaped, hbody]
      exact ⟨_, rfl⟩
    obtain ⟨next, hscan, hnext, hrest⟩ := hin.exists_token hm htoken
    exact .inl ⟨k, next, hk, hscan, hnext, hrest⟩

/-- A quote, a newline and two backslashes stand in the first string, and the second has no end. -/
def escapes : List Char := "f '\\'\n\"\\\\' 'z\\'".toList

theorem scan_string_of_escapes :
    (∃ k next, IsLeast (closings '\'' "\\'\n\"\\\\' 'z\\'".toList) k ∧
      scan ((Cursor.start escapes).after 1) = .token ⟨.string, next.line,
        String.ofList ("\\'\n\"\\\\' 'z\\'".toList.take k)⟩ next ∧
      next.StandsIn escapes ∧ next.rest = "\\'\n\"\\\\' 'z\\'".toList.drop (k + 1)) ∧
    closings '\'' "z\\'".toList = ∅ ∧ ∃ next,
      scan ((Cursor.start escapes).after 2) = .fault ⟨2, .unclosedString⟩ next ∧
      next.StandsIn escapes ∧ next.rest = [] := by
  have hfirst : ((Cursor.start escapes).after 1).Meets
      ('\'' :: "\\'\n\"\\\\' 'z\\'".toList) := ⟨[' '], rfl⟩
  have hsecond : ((Cursor.start escapes).after 2).Meets ('\'' :: "z\\'".toList) := ⟨[' '], rfl⟩
  constructor
  · rcases scan_string (Cursor.standsIn_after escapes 1) hfirst (.inl rfl) with
      hclosed | ⟨hnone, -⟩
    · exact hclosed
    · have hsix : 6 ∈ closings '\'' "\\'\n\"\\\\' 'z\\'".toList := by
        constructor <;> decide
      rw [hnone] at hsix
      cases hsix
  · rcases scan_string (Cursor.standsIn_after escapes 2) hsecond (.inl rfl) with
      ⟨k, next, hk, hscan, -⟩ | hopen
    · have hfault : scan ((Cursor.start escapes).after 2) =
          .fault ⟨2, .unclosedString⟩ ⟨[], 2⟩ := rfl
      cases hfault.symm.trans hscan
    · exact hopen

theorem exists_undelimited
    (h : ¬ ∃ title body, Titled title body cs ∧ title ≠ [] ∧ (occurrences title body).Nonempty) :
    ∃ cause after, Undelimited cs cause after := by
  by_cases ht : ∃ title body, Titled title body cs
  · obtain ⟨title, body, ht⟩ := ht
    by_cases hne : title = []
    · subst hne
      exact ⟨_, _, .untitled ht⟩
    · have hn : occurrences title body = ∅ := by
        by_contra hn
        exact h ⟨title, body, ht, hne, Set.nonempty_iff_ne_empty.2 hn⟩
      exact ⟨_, _, .unclosed ht hne hn⟩
  · exact ⟨_, _, .unopened fun title body hb => ht ⟨title, body, hb⟩⟩

/-- **A heredoc is delimited by its title.** Behind `<<<`, a title that is not empty and occurs in the
body makes a heredoc: its text ends where the title occurs first, and the scanner goes on right after
that. In exactly the other cases it finds a fault, at the end of the text if only the title is missing
in the body. -/
theorem scan_heredoc (hin : cursor.StandsIn text) (hm : cursor.Meets ('<' :: '<' :: '<' :: cs)) :
    (∀ title body n, Titled title body cs → title ≠ [] → IsLeast (occurrences title body) n →
      ∃ next, scan cursor = .token ⟨.heredoc, next.line, String.ofList (body.take n)⟩ next ∧
        next.StandsIn text ∧ next.rest = body.drop (n + title.length)) ∧
    ((∃ f next, scan cursor = .fault f next) ↔
      ¬ ∃ title body, Titled title body cs ∧ title ≠ [] ∧ (occurrences title body).Nonempty) ∧
    ∀ f next, scan cursor = .fault f next →
      f.line = next.line ∧ next.StandsIn text ∧ Undelimited cs f.cause next.rest := by
  have htoken : ∀ title body n, Titled title body cs → title ≠ [] →
      IsLeast (occurrences title body) n →
      ∃ next, scan cursor = .token ⟨.heredoc, next.line, String.ofList (body.take n)⟩ next ∧
        next.StandsIn text ∧ next.rest = body.drop (n + title.length) :=
    fun title body n h ht hn => hin.exists_token hm (Head.heredoc_of_isLeast h ht hn)
  have hdelimited : ∀ f next, scan cursor = .fault f next →
      ¬ ∃ title body, Titled title body cs ∧ title ≠ [] ∧ (occurrences title body).Nonempty := by
    rintro f next hscan ⟨title, body, h, ht, hne⟩
    obtain ⟨n, hn⟩ := exists_isLeast hne
    obtain ⟨other, hother, -⟩ := htoken title body n h ht hn
    cases hscan.symm.trans hother
  have hfault : (¬ ∃ title body, Titled title body cs ∧ title ≠ [] ∧
      (occurrences title body).Nonempty) → ∃ f next, scan cursor = .fault f next ∧
        f.line = next.line ∧ next.StandsIn text ∧ Undelimited cs f.cause next.rest := by
    intro hno
    obtain ⟨cause, after, hu⟩ := exists_undelimited hno
    obtain ⟨next, hscan, hnext, hrest⟩ := hin.exists_fault hm (Head.heredoc_of_undelimited hu)
    exact ⟨_, next, hscan, rfl, hnext, hrest ▸ hu⟩
  refine ⟨htoken, ⟨fun ⟨f, next, hscan⟩ => hdelimited f next hscan, fun hno => ?_⟩, ?_⟩
  · obtain ⟨f, next, hscan, -⟩ := hfault hno
    exact ⟨f, next, hscan⟩
  · intro f next hscan
    obtain ⟨f', next', hscan', hrest⟩ := hfault (hdelimited f next hscan)
    cases hscan.symm.trans hscan'
    exact hrest

/-- The title of the first heredoc begins in the end of its body, and the second is not closed. -/
def runsOfE : List Char := "<<<'EE'\nxEEE<<<EE\nE\n".toList

theorem scan_heredoc_of_runsOfE :
    (∃ next, scan (.start runsOfE) = .token ⟨.heredoc, next.line, "x"⟩ next ∧
      next.StandsIn runsOfE ∧ next.rest = "E<<<EE\nE\n".toList) ∧
    ∃ f next, scan ((Cursor.start runsOfE).after 2) = .fault f next ∧ f.line = next.line ∧
      next.StandsIn runsOfE ∧ Undelimited "EE\nE\n".toList f.cause next.rest := by
  have htitled : Titled ['E', 'E'] "xEEE<<<EE\nE\n".toList "'EE'\nxEEE<<<EE\nE\n".toList :=
    .quoted (.inl rfl) (by decide)
  have hleast : IsLeast (occurrences ['E', 'E'] "xEEE<<<EE\nE\n".toList) 1 := by
    refine ⟨show ['E', 'E'] <+: "EEE<<<EE\nE\n".toList by decide, fun n hn => ?_⟩
    refine Nat.pos_of_ne_zero ?_
    rintro rfl
    exact absurd hn (show ¬ ['E', 'E'] <+: "xEEE<<<EE\nE\n".toList by decide)
  obtain ⟨f, next, hscan⟩ : ∃ f next, scan ((Cursor.start runsOfE).after 2) = .fault f next :=
    ⟨_, _, rfl⟩
  exact ⟨(scan_heredoc (Cursor.standsIn_start runsOfE) ⟨[], rfl⟩).1 _ _ _ htitled (by simp) hleast,
    f, next, hscan,
    (scan_heredoc (Cursor.standsIn_after runsOfE 2) ⟨[], rfl⟩).2.2 f next hscan⟩

end

end Cyclomatic.Token
