import Cyclomatic.CommandLine
import Cyclomatic.Proofs.Text.Integer

/-!
# Switches win over the environment

Two environments that differ in one variable give defaults that differ in one setting. The arguments
are taken in step over both: every switch changes the drafts alike, and the switch that stands
against the variable makes them equal (`Agree.apply`), so in the end they are equal if it is given
(`Agree.takeWords`). What remains is the environment's own check, which comes before the arguments:
a number of files that is none stops the run, also where the arguments give another
(`settings_of_given`).
-/

set_option autoImplicit false

namespace Cyclomatic

/-! ## Amounts -/

/-- The text writes no positive integer, and this is what is wrong with it. -/
inductive Amount.Missed (raw : String) : Amount.Fault → Prop
  | notInteger (h : ∀ n, ¬ Text.Writes raw n) : Missed raw (.notInteger raw)
  | notPositive {n : Int} (h : Text.Writes raw n) (hn : n ≤ 0) : Missed raw .notPositive

theorem Amount.parse_eq_error_iff {raw : String} {fault : Amount.Fault} :
    Amount.parse raw = .error fault ↔ Amount.Missed raw fault := by
  rw [Amount.parse]
  cases hn : Text.integer? raw with
  | none =>
    have hnone : ∀ n, ¬ Text.Writes raw n := fun n h => by
      cases hn.symm.trans (Text.integer?_eq_some_iff.2 h)
    constructor
    · rintro ⟨⟩
      exact .notInteger hnone
    · rintro (- | ⟨h, -⟩)
      · rfl
      · exact absurd h (hnone _)
  | some n =>
    have hwrites := Text.integer?_eq_some_iff.1 hn
    dsimp only
    rw [Amount.ofInt]
    split
    case isTrue hpos =>
      refine iff_of_false nofun ?_
      rintro (hnone | ⟨h, hle⟩)
      · exact hnone n hwrites
      · cases hn.symm.trans (Text.integer?_eq_some_iff.2 h)
        omega
    case isFalse hpos =>
      constructor
      · rintro ⟨⟩
        exact .notPositive hwrites (by omega)
      · rintro (hnone | ⟨h, hle⟩)
        · exact absurd hwrites (hnone n)
        · rfl

namespace CommandLine

open Settings

/-! ## Variables and switches -/

/-- The variables of the environment that a switch stands against. -/
inductive Variable where
  | topFiles | extension | logFile
  deriving DecidableEq, Repr

namespace Variable

/-- The switch that stands against a variable. -/
def switch : Variable → Switch
  | topFiles => .top
  | extension => .extension
  | logFile => .logFile

/-- The environment with another value of the variable, or without it. -/
def put (v : Variable) (value? : Option String) (env : Environment) : Environment :=
  match v with
  | topFiles => { env with topFiles? := value? }
  | extension => { env with extension? := value? }
  | logFile => { env with logFile? := value? }

/-- A number of files to show that is none. -/
def Refused (v : Variable) (value? : Option String) (fault : Amount.Fault) : Prop :=
  v = topFiles ∧ ∃ raw, value? = some raw ∧ raw ≠ "" ∧ Amount.Missed raw fault

/-- The settings without the one that the variable changes. -/
def forget (v : Variable) (s : Settings) : Settings :=
  match v with
  | topFiles => { s with topFiles? := none }
  | extension => { s with extension := "" }
  | logFile => { s with logFile := .nowhere }

end Variable

/-- What the words set, from left to right, up to the first fault. -/
def given (words : List Word) : List Setting :=
  match words with
  | [] => []
  | .switch s isLong attached? :: rest =>
    match cluster (next? rest) s isLong attached? with
    | .error _ => []
    | .ok c => c.settings ++ given (if c.takesNext then rest.tail else rest)
  | .value _ :: rest => given rest
  | .separator :: rest => given rest
  | .unknown _ :: rest => given rest
  termination_by words.length
  decreasing_by
    all_goals simp only [List.length_cons]
    · split
      · rw [List.length_tail]
        omega
      · omega
    all_goals omega

/-- A switch with a value. -/
def Setting.Gives (x : Setting) (s : Switch) : Prop := ∃ value, x = ⟨s, some value⟩

/-- The arguments give a switch with a value. -/
def Gives (arguments : List String) (s : Switch) : Prop :=
  ∃ words, Word.ofArguments arguments = .ok words ∧ ∃ x ∈ given words, x.Gives s

variable {v : Variable} {p : Prop} {D E : Settings} {d d' e : Draft} {x : Setting}

/-! ## Drafts in step -/

/-- Two drafts that differ in the setting of one variable at most, and not even in that once `p`. -/
structure Agree (v : Variable) (p : Prop) (d e : Draft) : Prop where
  forget : v.forget d.settings = v.forget e.settings
  lacksExtension : d.lacksExtension = e.lacksExtension
  path : d.path? = e.path?
  unknown : d.unknown = e.unknown
  same : p → d.settings = e.settings

theorem Agree.mono {q : Prop} (h : Agree v p d e) (hq : q → p) : Agree v q d e :=
  { h with same := fun hp => h.same (hq hp) }

theorem Agree.note (h : Agree v p d e) (s : String) : Agree v p (d.note s) (e.note s) :=
  { h with unknown := congrArg (· ++ [s]) h.unknown }

theorem Agree.withPath (h : Agree v p d e) (s : String) :
    Agree v p { d with path? := some s } { e with path? := some s } :=
  { h with path := rfl }

/-- A change of settings that does not look at the setting of a variable, and puts a new one in its
place if `p`. -/
def Respects (v : Variable) (p : Prop) (f : Settings → Settings) : Prop :=
  ∀ s t, v.forget s = v.forget t → v.forget (f s) = v.forget (f t) ∧ (p → f s = f t)

/-- What a switch does to one draft without a fault, it does to every draft over all defaults. -/
theorem exists_change (h : d.apply D x = .ok d') :
    ∃ (f : Settings → Settings) (lacks? : Option Bool),
    (∀ E (e : Draft), e.apply E x =
      .ok { e.set f with lacksExtension := lacks?.getD e.lacksExtension }) ∧
    ∀ v : Variable, Respects v (x.Gives v.switch) f := by
  obtain ⟨s, value?⟩ := x
  cases s
  case help | version => cases h
  case' top =>
    cases hr : readValue .top Amount.parse Amount.Fault.message value? with
    | error stop => simp [Draft.apply, hr, bind, Except.bind] at h
    | ok topFiles? => ?_
    refine ⟨({ · with topFiles? }), none, fun E e => ?_, fun v s t hst => ?_⟩
    · simp only [Draft.apply, hr]
      rfl
  case' sort =>
    cases hr : readValue .sort Criterion.ofName Criterion.Unknown.message value? with
    | error stop => simp [Draft.apply, hr, bind, Except.bind] at h
    | ok criterion? => ?_
    refine ⟨({ · with criterion? }), none, fun E e => ?_, fun v s t hst => ?_⟩
    · simp only [Draft.apply, hr]
      rfl
  case' extension =>
    refine ⟨fun s => { s with extension := value?.getD s.extension }, some value?.isNone,
      fun E e => ?_, fun v s t hst => ?_⟩
    · cases value? <;> rfl
  case' noInteractive =>
    refine ⟨({ · with interactive := false }), none, fun _ _ => rfl, fun v s t hst => ?_⟩
  case' json => refine ⟨({ · with json := true }), none, fun _ _ => rfl, fun v s t hst => ?_⟩
  case' output =>
    refine ⟨({ · with output := destination value? }), none, fun _ _ => rfl, fun v s t hst => ?_⟩
  case' tokens => refine ⟨({ · with tokens := true }), none, fun _ _ => rfl, fun v s t hst => ?_⟩
  case' logFile =>
    refine ⟨({ · with logFile := destination value? }), none, fun _ _ => rfl, fun v s t hst => ?_⟩
  case' verbose => refine ⟨({ · with verbose := true }), none, fun _ _ => rfl, fun v s t hst => ?_⟩
  all_goals cases v <;> simp_all [Variable.forget, Variable.switch, Setting.Gives]

/-- One switch keeps two drafts in step, and makes them equal if it stands against the variable. -/
theorem Agree.apply (h : Agree v p d e) (hd : d.apply D x = .ok d') :
    ∃ e', e.apply E x = .ok e' ∧ Agree v (p ∨ x.Gives v.switch) d' e' := by
  obtain ⟨f, lacks?, happly, hf⟩ := exists_change hd
  rw [happly] at hd
  cases hd
  refine ⟨_, happly E e, ?_, ?_, h.path, h.unknown, ?_⟩
  · exact (hf v _ _ h.forget).1
  · exact congrArg lacks?.getD h.lacksExtension
  · rintro (hp | hx)
    · exact congrArg f (h.same hp)
    · exact (hf v _ _ h.forget).2 hx

theorem Agree.foldlM {xs : List Setting} (h : Agree v p d e)
    (hd : xs.foldlM (Draft.apply D) d = .ok d') :
    ∃ e', xs.foldlM (Draft.apply E) e = .ok e' ∧
      Agree v (p ∨ ∃ x ∈ xs, x.Gives v.switch) d' e' := by
  induction xs generalizing d e p with
  | nil =>
    cases hd
    exact ⟨e, rfl, h.mono (by simp)⟩
  | cons x xs ih =>
    rw [List.foldlM_cons] at hd ⊢
    cases hx : d.apply D x with
    | error stop =>
      rw [hx] at hd
      cases hd
    | ok d₁ =>
      rw [hx] at hd
      obtain ⟨e₁, he₁, h₁⟩ := h.apply (E := E) hx
      obtain ⟨e', he', h'⟩ := ih h₁ hd
      rw [he₁]
      refine ⟨e', he', h'.mono ?_⟩
      simp only [List.mem_cons, exists_eq_or_imp, or_assoc]
      exact id

theorem given_dropSeparator (words : List Word) : given (dropSeparator words) = given words := by
  unfold dropSeparator
  split
  · simp only [given]
  · rfl

/-- The words keep two drafts in step; one switch among them that stands against the variable is
enough to make them equal. -/
theorem Agree.takeWords {words : List Word} (h : Agree v p d e)
    (hd : takeWords D d words = .ok d') :
    ∃ e', takeWords E e words = .ok e' ∧
      Agree v (p ∨ ∃ x ∈ given words, x.Gives v.switch) d' e' := by
  fun_induction CommandLine.takeWords D d words generalizing e p with
  | case1 d =>
    cases hd
    exact ⟨e, by rw [CommandLine.takeWords], h.mono (by simp [given])⟩
  | case2 d s rest hpath ih =>
    rw [CommandLine.takeWords, if_pos (h.path ▸ hpath), given, ← given_dropSeparator]
    exact ih (h.withPath s) hd
  | case3 d s rest hpath ih =>
    rw [CommandLine.takeWords, if_neg (h.path ▸ hpath), given]
    exact ih (h.note s) hd
  | case4 d s rest hpath ih =>
    -- the separator in front of the path goes with it
    rw [CommandLine.takeWords, if_pos (h.path ▸ hpath), given, given]
    exact ih (h.withPath s) hd
  | case5 d s rest hpath ih =>
    rw [CommandLine.takeWords, if_neg (h.path ▸ hpath), given, given]
    exact ih ((h.note "--").note s) hd
  | case6 d rest hrest ih =>
    rw [CommandLine.takeWords.eq_4 _ _ _ hrest, given]
    exact ih (h.note "--") hd
  | case7 d s rest ih =>
    rw [CommandLine.takeWords, given]
    exact ih (h.note s) hd
  | case8 => cases hd
  | case9 => cases hd
  | case10 d s isLong attached? rest c hc d₁ hd₁ ih =>
    -- the switches of one argument first, then the words that are left
    obtain ⟨e₁, he₁, h₁⟩ := h.foldlM (E := E) hd₁
    obtain ⟨e', he', h'⟩ := ih h₁ hd
    rw [CommandLine.takeWords, hc]
    simp only [he₁]
    refine ⟨e', he', h'.mono ?_⟩
    rw [given, hc]
    simp only [List.mem_append, or_and_right, exists_or, or_assoc]
    exact id

/-! ## Environments -/

theorem nonempty?_eq_some {value? : Option String} {raw : String} :
    nonempty? value? = some raw ↔ value? = some raw ∧ raw ≠ "" := by
  rw [nonempty?, Option.filter_eq_some_iff]
  simp

/-- The number of files to show in an environment, on top of the settings without one. -/
def topFilesOf (base : Settings) (value? : Option String) : Except Amount.Fault (Option Amount) :=
  match nonempty? value? with
  | some raw => (Amount.parse raw).map some
  | none => .ok base.topFiles?

/-- The defaults in an environment with a number of files to show. -/
def defaultsWith (base : Settings) (env : Environment) (topFiles? : Option Amount) : Settings :=
  { base with
    topFiles?
    extension := ((nonempty? env.extension?).map dotted).getD base.extension
    logFile := .ofPath? (nonempty? env.logFile?)
    prettyLogs := env.logFormat? == some "PRETTY" }

theorem exists_base : ∃ base, ∀ env : Environment,
    ofEnvironment env = (topFilesOf base env.topFiles?).map (defaultsWith base env) := by
  refine ⟨{}, fun env => ?_⟩
  unfold ofEnvironment topFilesOf
  cases nonempty? env.topFiles? with
  | none => rfl
  | some raw =>
    dsimp only
    cases Amount.parse raw <;> rfl

theorem topFilesOf_eq_error {base : Settings} {value? : Option String} {fault : Amount.Fault} :
    topFilesOf base value? = .error fault ↔ Variable.topFiles.Refused value? fault := by
  unfold topFilesOf
  constructor
  · intro h
    cases hn : nonempty? value? with
    | none =>
      rw [hn] at h
      cases h
    | some raw =>
      rw [hn] at h
      dsimp only at h
      obtain ⟨hv, hne⟩ := nonempty?_eq_some.1 hn
      cases hp : Amount.parse raw with
      | error other =>
        rw [hp] at h
        cases h
        exact ⟨rfl, raw, hv, hne, Amount.parse_eq_error_iff.1 hp⟩
      | ok n =>
        rw [hp] at h
        cases h
  · rintro ⟨-, raw, hv, hne, hp⟩
    rw [nonempty?_eq_some.2 ⟨hv, hne⟩]
    dsimp only
    rw [Amount.parse_eq_error_iff.2 hp]
    rfl

/-- Another value of a variable is refused, or changes no default but the one of its setting. -/
theorem ofEnvironment_put {env : Environment} (h : ofEnvironment env = .ok D) (v : Variable)
    (value? : Option String) :
    (∃ fault, v.Refused value? fault ∧ ofEnvironment (v.put value? env) = .error fault) ∨
      (∀ fault, ¬ v.Refused value? fault) ∧
        ∃ E, v.forget D = v.forget E ∧ ofEnvironment (v.put value? env) = .ok E := by
  obtain ⟨base, hbase⟩ := exists_base
  rw [hbase] at h ⊢
  cases hD : topFilesOf base env.topFiles? with
  | error fault =>
    rw [hD] at h
    cases h
  | ok topFiles? =>
    rw [hD] at h
    cases h
    by_cases hv : v = .topFiles
    · subst hv
      change (∃ fault, _ ∧ (topFilesOf base value?).map (defaultsWith base env) = _) ∨
        _ ∧ ∃ E, _ ∧ (topFilesOf base value?).map (defaultsWith base env) = _
      cases hE : topFilesOf base value? with
      | error fault => exact .inl ⟨fault, topFilesOf_eq_error.1 hE, rfl⟩
      | ok other =>
        refine .inr ⟨fun fault hf => ?_, defaultsWith base env other, rfl, rfl⟩
        rw [topFilesOf_eq_error.2 hf] at hE
        cases hE
    · -- the check looks at no other variable
      have hput : topFilesOf base (v.put value? env).topFiles? = .ok topFiles? := by
        cases v <;> first | contradiction | exact hD
      rw [hput]
      refine .inr ⟨fun fault hf => hv hf.1, defaultsWith base (v.put value? env) topFiles?, ?_, rfl⟩
      cases v <;> first | contradiction | rfl

/-! ## Runs -/

theorem settingsOver_of_words {arguments : List String} {words : List Word}
    (hw : Word.ofArguments arguments = .ok words) (D : Settings) :
    settingsOver D arguments = takeWords D { settings := D } words >>= Draft.finish := by
  unfold settingsOver
  rw [hw]
  rfl

theorem Agree.eq (h : Agree v p d e) (hp : p) : d = e := by
  obtain ⟨ds, dl, dp, du⟩ := d
  obtain ⟨es, el, ep, eu⟩ := e
  obtain rfl : ds = es := h.same hp
  obtain rfl : dl = el := h.lacksExtension
  obtain rfl : dp = ep := h.path
  obtain rfl : du = eu := h.unknown
  rfl

theorem settingsOver_of_given {arguments : List String} {s : Settings}
    (hg : Gives arguments v.switch) (hf : v.forget D = v.forget E)
    (h : settingsOver D arguments = .ok s) : settingsOver E arguments = .ok s := by
  obtain ⟨words, hw, x, hx, hgives⟩ := hg
  rw [settingsOver_of_words hw] at h ⊢
  cases hd : takeWords D { settings := D } words with
  | error stop =>
    rw [hd] at h
    cases h
  | ok d =>
    have hstart : Agree v False { settings := D } { settings := E } :=
      ⟨hf, rfl, rfl, rfl, False.elim⟩
    obtain ⟨e, he, hagree⟩ := hstart.takeWords (E := E) hd
    rw [hd] at h
    rw [he, ← hagree.eq (.inr ⟨x, hx, hgives⟩)]
    exact h

/-- **Switches win over the environment.** Where the arguments give a switch and lead to settings,
they lead to the same ones whatever the variable holds that the switch stands against, unless the
variable is the number of files to show and holds a text that is not empty and writes no positive
integer. The environment is then refused before the arguments are looked at. -/
theorem settings_of_given {env : Environment} {arguments : List String} {s : Settings}
    {v : Variable} (hg : Gives arguments v.switch) (h : settings env arguments = .ok s)
    (value? : Option String) :
    (∃ fault, v.Refused value? fault ∧
        settings (v.put value? env) arguments = .error (.environment fault) ∧
        (Stop.environment fault).exit =
          .ok { status := .text ("❌ Configuración inválida: " ++ fault.message) }) ∨
      (∀ fault, ¬ v.Refused value? fault) ∧ settings (v.put value? env) arguments = .ok s := by
  unfold settings at h ⊢
  cases hD : ofEnvironment env with
  | error fault =>
    rw [hD] at h
    cases h
  | ok D =>
    rw [hD] at h
    rcases ofEnvironment_put hD v value? with ⟨fault, hr, hE⟩ | ⟨hr, E, hf, hE⟩
    · rw [hE]
      exact .inl ⟨fault, hr, rfl, rfl⟩
    · rw [hE]
      exact .inr ⟨hr, settingsOver_of_given hg hf h⟩

/-- Arguments that ask for three files with another ending. -/
def threeFiles : List String := ["src", "-vn3", "--ext=inc"]

/-- The settings that they lead to. -/
def threeFilesSettings : Settings :=
  { root := "src", extension := ".inc", topFiles? := some ⟨3, by decide⟩, verbose := true }

theorem eq_ok_of_toOption {ε α : Type} {r : Except ε α} {a : α} (h : r.toOption = some a) :
    r = .ok a := by
  cases r with
  | error e => cases h
  | ok b => exact congrArg Except.ok (Option.some.inj h)

theorem given_threeFiles :
    ((Word.ofArguments threeFiles).toOption.map given) =
      some [⟨.verbose, none⟩, ⟨.top, some "3"⟩, ⟨.extension, some "inc"⟩] := by
  decide +kernel

theorem gives_threeFiles {s : Switch} (value : String)
    (h : ⟨s, some value⟩ ∈
      [⟨.verbose, none⟩, ⟨.top, some "3"⟩, (⟨.extension, some "inc"⟩ : Setting)]) :
    Gives threeFiles s := by
  obtain ⟨words, hw, hgiven⟩ := Option.map_eq_some_iff.1 given_threeFiles
  exact ⟨words, eq_ok_of_toOption hw, _, hgiven ▸ h, value, rfl⟩

theorem settings_of_given_of_threeFiles :
    Gives threeFiles .top ∧ Gives threeFiles .extension ∧
      settings { topFiles? := some "7" } threeFiles = .ok threeFilesSettings ∧
      settings { topFiles? := some " 12 " } threeFiles = .ok threeFilesSettings ∧
      settings { topFiles? := some "7", extension? := some "php5" } threeFiles =
        .ok threeFilesSettings := by
  have htop : Gives threeFiles .top := gives_threeFiles "3" (by decide)
  have hext : Gives threeFiles .extension := gives_threeFiles "inc" (by decide)
  have h : settings { topFiles? := some "7" } threeFiles = .ok threeFilesSettings :=
    eq_ok_of_toOption (by decide +kernel)
  refine ⟨htop, hext, h, ?_, ?_⟩
  · rcases settings_of_given (v := .topFiles) htop h (some " 12 ") with ⟨fault, hr, -⟩ | ⟨-, hs⟩
    · have hparse : (topFilesOf {} (some " 12 ")).toOption.isSome = true := by decide +kernel
      rw [topFilesOf_eq_error.2 hr] at hparse
      cases hparse
    · exact hs
  · rcases settings_of_given (v := .extension) hext h (some "php5") with ⟨fault, hr, -⟩ | ⟨-, hs⟩
    · cases hr.1
    · exact hs

/-- A number of files that is none stops the run although the arguments give one. -/
theorem not_forall_settings_put :
    ¬ ∀ (v : Variable) (env : Environment) (arguments : List String) (s : Settings)
      (value? : Option String), Gives arguments v.switch → settings env arguments = .ok s →
        settings (v.put value? env) arguments = .ok s := by
  intro h
  have hbad := h .topFiles {} threeFiles threeFilesSettings (some "cero")
    (gives_threeFiles "3" (by decide)) (eq_ok_of_toOption (by decide +kernel))
  have herror : (settings (Variable.topFiles.put (some "cero") {}) threeFiles).toOption = none := by
    decide +kernel
  rw [hbad] at herror
  cases herror

end CommandLine

end Cyclomatic
