import Cyclomatic.Reading.File
import Cyclomatic.Token.Scan

/-!
# Running reading steps

What single steps do on a tape whose next tokens are known. `take_of_end`, `take_of_match` and
`take_of_word` are the three things that a token of a body can do to the progress made: end a
choice, count in a match, or be read as a word.
-/

set_option autoImplicit false

namespace Cyclomatic.Reading

/-! ## Steps -/

section

variable {σ α β : Type} {step : EStateM Fault σ α} {a : α} {state after : σ}

theorem bind_run {f : α → EStateM Fault σ β} (h : step state = .ok a after) :
    (step >>= f) state = f a after := by
  simp [bind, EStateM.bind, h]

theorem map_run (f : α → β) (h : step state = .ok a after) :
    (f <$> step) state = .ok (f a) after := by
  simp [Functor.map, EStateM.map, h]

end

variable {tape rest : Tape} {t : Token} {left : List Token} {brackets : List Bracket}

theorem next?_run (h : fault? t brackets = none) :
    next? ⟨t :: left, brackets⟩ = .ok (some t) ⟨left, after t brackets⟩ := by
  simp [next?, h]

theorem next_cons : next ⟨t :: left, brackets⟩ =
    match fault? t brackets with
    | none => .ok t ⟨left, after t brackets⟩
    | some fault => .error fault ⟨left, after t brackets⟩ := by
  cases h : fault? t brackets with
  | none => rw [next, bind_run (next?_run h)]; rfl
  | some fault => simp [next, next?, bind, EStateM.bind, h]

theorem next_run (h : fault? t brackets = none) :
    next ⟨t :: left, brackets⟩ = .ok t ⟨left, after t brackets⟩ := by
  rw [next_cons, h]

/-- A token that is no bracket leaves the brackets as they are. -/
theorem after_plain (ho : opened? t = none) (hc : closed? t = none) :
    after t brackets = brackets := by
  simp [after, ho, hc]

theorem next_plain (ho : opened? t = none) (hc : closed? t = none) :
    next ⟨t :: left, brackets⟩ = .ok t ⟨left, brackets⟩ := by
  rw [next_run (by simp [fault?, hc]), after_plain ho hc]

theorem next_opening {b : Bracket} (ho : opened? t = some b) (hc : closed? t = none) :
    next ⟨t :: left, brackets⟩ = .ok t ⟨left, b :: brackets⟩ := by
  have hafter : after t brackets = b :: brackets := by simp [after, ho]
  rw [next_run (by simp [fault?, hc]), hafter]

theorem next_eq_ok {others : List Token} {opened : List Bracket}
    (h : next ⟨left, brackets⟩ = .ok t ⟨others, opened⟩) :
    left = t :: others ∧ fault? t brackets = none ∧ opened = after t brackets := by
  cases left with
  | nil => cases h
  | cons u left =>
    rw [next_cons] at h
    split at h
    · rename_i hf
      cases h
      exact ⟨rfl, hf, rfl⟩
    · cases h

theorem depth_run : depth ⟨left, brackets⟩ = .ok brackets.length ⟨left, brackets⟩ := rfl

/-- Nothing is taken where the next token passes the test. -/
theorem takeUntil_run {test : Token → Bool} (h : test t = true) :
    takeUntil test ⟨t :: left, brackets⟩ = .ok [] ⟨t :: left, brackets⟩ := by
  simp [takeUntil, takeUntilFrom, h]

theorem takeUntilFrom_run {stop : Tape → Bool} {taken : List Token}
    (hs : stop ⟨t :: left, brackets⟩ = false) (hf : fault? t brackets = none)
    (h : takeUntilFrom stop left (after t brackets) = .ok taken rest) :
    takeUntilFrom stop (t :: left) brackets = .ok (t :: taken) rest := by
  simp [takeUntilFrom, hs, hf, h]

theorem takeUntil_pass {test : Token → Bool} (h : test t = false) (hf : fault? t brackets = none) :
    takeUntil test ⟨t :: left, brackets⟩ =
      match takeUntil test ⟨left, after t brackets⟩ with
      | .ok taken tape => .ok (t :: taken) tape
      | .error fault tape => .error fault tape := by
  simp only [takeUntil]
  rw [takeUntilFrom, if_neg (by simp [h]), hf]
  rfl

/-! ## Bodies -/

namespace Progress

variable {p : Progress} {n : Nat}

theorem take_of_end {c : OpenChoice} {outer : List OpenChoice} (hp : p.choices = c :: outer)
    (hk : t.kind = .rightBrace) (hn : n = c.depth) : p.take t n = p.close := by
  obtain ⟨choices, statements⟩ := p
  obtain rfl : choices = c :: outer := hp
  simp [take, hk, hn]

theorem take_of_match {c : OpenChoice} {outer : List OpenChoice} (hp : p.choices = c :: outer)
    (hc : c.kind = .match_) (he : (t.kind == .rightBrace && n == c.depth) = false) :
    p.take t n = if t.kind = .fatArrow then p.addCase else p := by
  obtain ⟨choices, statements⟩ := p
  obtain rfl : choices = c :: outer := hp
  simp [take, hc, he]

/-- Where no match is innermost, words are read. -/
theorem take_of_word (hc : ∀ c ∈ p.choices.head?, c.kind = .switch_)
    (he : (t.kind == .rightBrace && p.choices.head?.any (n == ·.depth)) = false) :
    p.take t n = match t.keyword? with
      | some k => if p.choices ≠ [] ∧ k = .case_ then p.addCase else p.start k t.line n
      | none => p := by
  obtain ⟨choices, statements⟩ := p
  cases choices with
  | nil => cases hk : t.keyword? <;> simp [take, hk]
  | cons c outer =>
    have hs : c.kind = .switch_ := hc c rfl
    have he' : (t.kind == .rightBrace && n == c.depth) = false := by simpa using he
    simp only [take, he', hs]
    cases hk : t.keyword? with
    | none => rfl
    | some k => cases k <;> simp

end Progress

/-! ## Classes and files -/

theorem membersFrom_cons {imports : Imports} {depth : Nat} {tape next rest : Tape} {m : Member}
    {ms : List Member} (hd : tape.depth ≠ depth) (hm : member imports tape = .ok m next)
    (h : membersFrom imports depth next = .ok ms rest) :
    membersFrom imports depth tape = .ok (m :: ms) rest := by
  rw [membersFrom, if_neg hd]
  split
  · simp_all
  · simp_all

variable {state : State}

theorem onTape_run {α : Type} {step : Read α} {a : α} (h : step state.tape = .ok a tape) :
    onTape step state = .ok a { state with tape } := by
  simp [onTape, h]

/-- A file is read on from the declaration that its next token starts, unless that is its class. -/
theorem fileFrom_run (ht : next? state.tape = .ok (some t) tape) :
    fileFrom state = match declaration t { state with tape } with
      | .error fault rest => .error fault rest
      | .ok (some c) rest => .ok (some c) rest
      | .ok none rest => fileFrom rest := by
  rw [fileFrom]
  split
  · simp_all
  · simp_all
  · rename_i u tape' hu
    obtain ⟨rfl, rfl⟩ : u = t ∧ tape' = tape := by simpa [ht, eq_comm] using hu
    split <;> simp_all

theorem fileFrom_pass {next : State} (ht : next? state.tape = .ok (some t) tape)
    (hd : declaration t { state with tape } = .ok none next) : fileFrom state = fileFrom next := by
  rw [fileFrom_run ht, hd]

theorem fileFrom_class {next : State} {c : Class} (ht : next? state.tape = .ok (some t) tape)
    (hd : declaration t { state with tape } = .ok (some c) next) :
    fileFrom state = .ok (some c) next := by
  rw [fileFrom_run ht, hd]

/-- The class that reading ends with, and the state in which it ends. -/
def classRead? : EStateM.Result Fault State (Option Class) → Option (Class × State)
  | .ok (some c) rest => some (c, rest)
  | _ => none

theorem eq_of_classRead? {result : EStateM.Result Fault State (Option Class)} {c : Class}
    {rest : State} (h : classRead? result = some (c, rest)) : result = .ok (some c) rest := by
  unfold classRead? at h
  split at h <;> cases h
  rfl

theorem exists_class_of_isSome {result : EStateM.Result Fault State (Option Class)}
    (h : (classRead? result).isSome = true) : ∃ c rest, result = .ok (some c) rest := by
  obtain ⟨⟨c, rest⟩, hr⟩ := Option.isSome_iff_exists.1 h
  exact ⟨c, rest, eq_of_classRead? hr⟩

/-- The tokens of a text and the class that is read from them. -/
def classOf? (text : String) : Option (List Token × Class) :=
  (Token.ofText text).toOption.bind fun tokens =>
    (classRead? (file tokens)).map fun read => (tokens, read.1)

theorem eq_of_classOf? {text : String} {tokens : List Token} {c : Class}
    (h : classOf? text = some (tokens, c)) :
    Token.ofText text = .ok tokens ∧ Class.ofTokens tokens = .ok (some c) := by
  obtain ⟨others, ht, h⟩ := Option.bind_eq_some_iff.1 h
  obtain ⟨⟨c, rest⟩, hr, h⟩ := Option.map_eq_some_iff.1 h
  cases h
  constructor
  · cases he : Token.ofText text with
    | error fault => simp [he, Except.toOption] at ht
    | ok tokens => simpa [he, Except.toOption] using ht
  · rw [Class.ofTokens, eq_of_classRead? hr]

theorem exists_of_isSome_classOf? {text : String} (h : (classOf? text).isSome = true) :
    ∃ tokens c, Token.ofText text = .ok tokens ∧ Class.ofTokens tokens = .ok (some c) := by
  obtain ⟨⟨tokens, c⟩, hr⟩ := Option.isSome_iff_exists.1 h
  exact ⟨tokens, c, eq_of_classOf? hr⟩

end Cyclomatic.Reading
