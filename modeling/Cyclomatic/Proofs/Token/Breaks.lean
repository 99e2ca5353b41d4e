import Cyclomatic.Proofs.Token.Pieces

/-!
# Texts are read apart at line breaks

`a`, a line break and `b` have the tokens of `a`, and behind them those of `b` further down, or the
fault that `b` has (`ofText_append_break`).

* `scan_extend`: a cursor that finds a token finds the same one, since no token looks past a blank.
* `skip_break`, `scan_break`: a cursor that finds the end passes the break, a comment up to the end
  of the line included.
* `scanAll_moved`: lines are counted from where reading starts.
-/

set_option autoImplicit false

namespace Cyclomatic.Token

/-! ## Ends before a break -/

/-- Where skipping comes to the end, a break ends a comment up to the end of the line, and skipping goes
on behind it. -/
theorem skip_break {place : Place} {cs : List Char} (more : List Char)
    (hc : (skip place cs).closed = true) (hr : (skip place cs).rest = []) :
    skip place (cs ++ '\n' :: more) =
      { skip .between more with text := cs ++ ['\n'] ++ (skip .between more).text } := by
  fun_induction skip place cs with
  | case1 => rfl
  | case2 rest ih => simp [skip, ih hc hr, Gap.cons]
  | case3 rest ih => simp [skip, ih hc hr, Gap.cons]
  | case4 c rest _ _ hb ih => simp [skip_blank _ hb, ih hc hr, Gap.cons]
  | case5 => cases hr
  | case6 => rfl
  | case7 rest ih => simp [skip, ih hc hr, Gap.cons]
  | case8 c rest hn ih => simp [skip, ih hc hr, Gap.cons]
  | case9 => cases hc
  | case10 rest ih => simp [skip, ih hc hr, Gap.cons]
  | case11 c rest hn ih =>
    rw [List.cons_append, skip, ih hc hr]
    · rfl
    · exact not_cons_extend (by decide) (by simp [isBlank]) hn

/-! ## Calls -/

section

variable {cursor next : Cursor} {t : Token}

theorem scan_extend {tail : List Char} (ht : ∀ c ∈ tail.head?, isBlank c = true)
    (h : scan cursor = .token t next) :
    scan ⟨cursor.rest ++ tail, cursor.line⟩ = .token t ⟨next.rest ++ tail, next.line⟩ := by
  cases finds_iff.2 h with
  | @token gap text rest after lexeme c kind hs hof =>
    have hskip : skip .between (cursor.rest ++ tail) = ⟨gap, c :: (rest ++ tail), true⟩ := by
      rw [skip_extend (by simp [hs]) ht, hs]
      rfl
    have hfinds := @Finds.token ⟨cursor.rest ++ tail, cursor.line⟩ _ _ _ _ _ _ _ hskip
      (Head.of_extend ht hof)
    exact finds_iff.1 hfinds

theorem scan_break (more : List Char) (h : scan cursor = .done next) :
    scan ⟨cursor.rest ++ '\n' :: more, cursor.line⟩ =
      scan ⟨more, cursor.line + cursor.rest.count '\n' + 1⟩ := by
  cases finds_iff.2 h with
  | @done gap hs =>
    have hskip := skip_break more (by rw [hs]) (by rw [hs])
    rw [scan_behind cursor.line hskip, List.count_append, Nat.add_assoc]
    rfl

/-- `a`, a line break and `b`: the tokens of `a` come first, and `b` is read behind them. -/
theorem scanAll_append_break {tokens : List Token} (more : List Char)
    (h : scanAll cursor = .ok tokens) :
    scanAll ⟨cursor.rest ++ '\n' :: more, cursor.line⟩ =
      (scanAll ⟨more, cursor.line + cursor.rest.count '\n' + 1⟩).map (tokens ++ ·) := by
  fun_induction scanAll cursor generalizing tokens with
  | case1 cursor next hs =>
    cases h
    rw [scanAll_congr (scan_break more hs)]
    cases scanAll ⟨more, cursor.line + cursor.rest.count '\n' + 1⟩ <;> rfl
  | case2 => cases h
  | case3 cursor t next hs ih =>
    cases hn : scanAll next with
    | error fault => simp [hn, Except.map] at h
    | ok others =>
      obtain rfl : t :: others = tokens := by simpa [hn, Except.map] using h
      have hcount : next.line + next.rest.count '\n' = cursor.line + cursor.rest.count '\n' :=
        (finds_iff.2 hs).line_add_count
      have hextend := @scan_extend _ _ _ ('\n' :: more) (by simp [isBlank]) hs
      rw [scanAll_token hextend, ih hn, hcount]
      cases scanAll ⟨more, cursor.line + cursor.rest.count '\n' + 1⟩ <;> rfl

end

/-! ## Lines further down -/

/-- The cursor `n` lines further down. -/
def Cursor.moved (n : Nat) (cursor : Cursor) : Cursor := { cursor with line := cursor.line + n }

/-- The token `n` lines further down. -/
def moved (n : Nat) (t : Token) : Token := { t with line := t.line + n }

/-- The fault `n` lines further down. -/
def Fault.moved (n : Nat) (fault : Fault) : Fault := { fault with line := fault.line + n }

/-- What a call finds, `n` lines further down. -/
def Scan.moved (n : Nat) : Scan → Scan
  | done next => done (next.moved n)
  | token t next => token (t.moved n) (next.moved n)
  | fault f next => fault (f.moved n) (next.moved n)

/-- What a text has if it starts `n` lines further down. -/
def movedAll (n : Nat) : Except Fault (List Token) → Except Fault (List Token)
  | .ok tokens => .ok (tokens.map (moved n))
  | .error fault => .error (fault.moved n)

theorem Cursor.past_moved (n : Nat) (cursor : Cursor) (text rest : List Char) :
    (cursor.moved n).past text rest = (cursor.past text rest).moved n := by
  simp only [past, moved, Nat.add_right_comm]

theorem scan_moved (n : Nat) (cursor : Cursor) :
    scan (cursor.moved n) = (scan cursor).moved n := by
  have hf := finds_scan cursor
  generalize scan cursor = found at hf
  rw [← finds_iff]
  cases hf with
  | done hs =>
    have hdone := @Finds.done (cursor.moved n) _ hs
    rwa [Cursor.past_moved] at hdone
  | token hs hof =>
    have htoken := @Finds.token (cursor.moved n) _ _ _ _ _ _ _ hs hof
    rwa [Cursor.past_moved] at htoken
  | fault hs hof =>
    have hfault := @Finds.fault (cursor.moved n) _ _ _ _ _ _ hs hof
    rwa [Cursor.past_moved] at hfault
  | openComment hs =>
    have hopen := @Finds.openComment (cursor.moved n) _ hs
    rwa [Cursor.past_moved] at hopen

theorem scanAll_moved (n : Nat) (cursor : Cursor) :
    scanAll (cursor.moved n) = movedAll n (scanAll cursor) := by
  have hmoved := scan_moved n cursor
  fun_induction scanAll cursor with
  | case1 cursor next hs =>
    rw [hs] at hmoved
    exact scanAll_done hmoved
  | case2 cursor fault next hs =>
    rw [hs] at hmoved
    exact scanAll_fault hmoved
  | case3 cursor t next hs ih =>
    rw [hs] at hmoved
    rw [scanAll_token hmoved, ih (scan_moved n next)]
    cases scanAll next <;> rfl

/-- **Texts are read apart at line breaks.** If `a` has tokens, then `a`, a line break and `b` have
these, and behind them those of `b` below; or the fault of `b` below, if `b` has one. -/
theorem ofText_append_break {a : String} {tokens : List Token} (b : String)
    (ha : ofText a = .ok tokens) :
    ofText (a ++ "\n" ++ b) =
      match ofText b with
      | .ok others => .ok (tokens ++ others.map (moved (1 + a.toList.count '\n')))
      | .error fault => .error (fault.moved (1 + a.toList.count '\n')) := by
  have hlist : (a ++ "\n" ++ b).toList = a.toList ++ '\n' :: b.toList := by simp
  have hline : 1 + a.toList.count '\n' + 1 = 1 + (1 + a.toList.count '\n') := by omega
  calc ofText (a ++ "\n" ++ b)
      = (scanAll ⟨b.toList, 1 + a.toList.count '\n' + 1⟩).map (tokens ++ ·) := by
        rw [ofText, hlist]
        exact scanAll_append_break b.toList ha
    _ = (movedAll (1 + a.toList.count '\n') (ofText b)).map (tokens ++ ·) := by
        rw [hline]
        exact congrArg _ (scanAll_moved _ (.start b.toList))
    _ = _ := by cases ofText b <;> rfl

theorem ofText_append_break_of_comment :
    ofText "<<<T\nxT . // y" = .ok [⟨.heredoc, 2, "x"⟩, ⟨.dot, 2, "."⟩] ∧
      ofText ("<<<T\nxT . // y" ++ "\n" ++ "1.") =
        .ok [⟨.heredoc, 2, "x"⟩, ⟨.dot, 2, "."⟩, ⟨.number, 3, "1."⟩] ∧
      ofText ("<<<T\nxT . // y" ++ "\n" ++ "1 'z\n") = .error ⟨4, .unclosedString⟩ := by
  have ha : ofText "<<<T\nxT . // y" = .ok [⟨.heredoc, 2, "x"⟩, ⟨.dot, 2, "."⟩] := by cbv
  have hb : ofText "1." = .ok [⟨.number, 1, "1."⟩] := by cbv
  have hb' : ofText "1 'z\n" = .error ⟨2, .unclosedString⟩ := by cbv
  refine ⟨ha, (ofText_append_break "1." ha).trans ?_, (ofText_append_break "1 'z\n" ha).trans ?_⟩
  · rw [hb]
    rfl
  · rw [hb']
    rfl

end Cyclomatic.Token
