import Cyclomatic.Menu
import Cyclomatic.Proofs.Console.Answers
import Cyclomatic.Proofs.Listing
import Cyclomatic.Proofs.Project.Ranking

/-!
# Conversations with the menu

Which prompt follows an answer, and what the answer changes, depends on the prompt and the answer alone
(`Prompt.reply`): not on the project, the view or the criterion. So a conversation is a fold of its
answers (`converse`), and the state at each of its prompts is the one that the accepted changes make of
the first (`After`).

* `step_follows`: a step does what the reply says, in every state whose keys are known.
* `exists_asking`: the menu asks what the conversation asks, in the state of its changes.
* `run_sound`: a run goes on up to the first answer that leaves the menu, and never fails.
-/

set_option autoImplicit false

namespace Cyclomatic.Menu

open Console (Answer)

/-! ## The conversation -/

/-- What an answer changes. -/
inductive Change where
  | fileCount (n : Nat)
  | dependencies
  | methodLimit (limit? : Option Nat)
  | statements
  /-- A search, whose query is gone after its listing. -/
  | query
  | criterion (c : Criterion)
  deriving DecidableEq, Repr

namespace Change

/-- The view after a change. -/
def onView (view : View) : Change → View
  | fileCount n => { view with topFiles? := some (n : Int) }
  | dependencies => { view with dependencies := !view.dependencies }
  | methodLimit limit? => { view with methodLimit? := limit?.map Int.ofNat }
  | statements => { view with statements := !view.statements }
  | query => { view with query? := none }
  | criterion _ => view

/-- The criterion of a ranking. -/
def criterion? : Change → Option Criterion
  | criterion c => some c
  | _ => none

end Change

/-- What an answer leads to: the next prompt and what is changed, if anything is. -/
structure Reply where
  next : Prompt
  change? : Option Change := none

/-- What a number leads to; none, if it leaves the menu. -/
def Prompt.onNumber : Prompt → Nat → Option Reply
  | main, 3 => some { next := setting }
  | main, 4 => some { next := query }
  | main, 5 => some { next := criterion }
  | main, 8 => none
  | main, _ => some { next := main }
  | setting, 1 => some { next := fileCount }
  | setting, 2 => some { next := main, change? := some .dependencies }
  | setting, 3 => some { next := limitWanted }
  | setting, 4 => some { next := main, change? := some .statements }
  | setting, 8 => some { next := main }
  | setting, _ => some { next := setting }
  | fileCount, n => some { next := main, change? := some (.fileCount n) }
  | limitWanted, 1 => some { next := methodLimit }
  | limitWanted, 2 => some { next := setting, change? := some (.methodLimit none) }
  | limitWanted, _ => some { next := setting }
  | methodLimit, n => some { next := main, change? := some (.methodLimit (some n)) }
  | query, _ => some { next := main }
  | criterion, 1 => some { next := main, change? := some (.criterion .classComplexity) }
  | criterion, 2 => some { next := main, change? := some (.criterion .uses) }
  | criterion, 3 => some { next := main, change? := some (.criterion .dependencies) }
  | criterion, 4 => some { next := main, change? := some (.criterion .methodComplexity) }
  | criterion, 5 => some { next := main, change? := some (.criterion .tokenCount) }
  | criterion, _ => some { next := main }

/-- The prompt that follows what cannot be read as an answer. -/
def Prompt.again : Prompt → Prompt
  | main | query | criterion => main
  | setting | fileCount | limitWanted | methodLimit => setting

/-- What an answer leads to; none, if it leaves the menu. -/
def Prompt.reply : Prompt → Answer → Option Reply
  | query, .text s =>
    match Console.readText s with
    | .ok _ => some { next := main, change? := some .query }
    | .error _ => some { next := query.again }
  | prompt, .text s =>
    match Console.readNumber s with
    | .ok n => prompt.onNumber n
    | .error _ => some { next := prompt.again }
  | _, .unreadable | _, .ended => none

/-- The prompt after one more answer, and what has been changed until then. -/
def hear (place : Prompt × List Change) (a : Answer) : Option (Prompt × List Change) :=
  (place.1.reply a).map fun reply => (reply.next, place.2 ++ reply.change?.toList)

/-- The prompt after some answers, and what they have changed; none, if one of them leaves the menu. -/
def converse (answers : List Answer) : Option (Prompt × List Change) :=
  answers.foldlM hear (.main, [])

/-- The answer leaves the menu. -/
def Quits (prompt : Prompt) : Answer → Prop
  | .text s => prompt = .main ∧ Text.Writes s 8
  | .unreadable | .ended => True

/-- The numbers that a prompt offers. -/
def Prompt.Offers : Prompt → Nat → Prop
  | main, n => n ∈ [1, 2, 3, 4, 5, 8]
  | setting, n => n ∈ [1, 2, 3, 4, 8]
  | limitWanted, n => n ∈ [1, 2]
  | criterion, n => n ∈ [1, 2, 3, 4, 5]
  | fileCount, _ | methodLimit, _ => True
  | query, _ => False

/-- The answer is a text that the prompt takes for nothing: it is empty, or no number that the prompt
offers. -/
def Refused (prompt : Prompt) : Answer → Prop
  | .text s =>
    if prompt = .query then Text.Strips s.toList []
    else ∀ n : Nat, Text.Writes s n → ¬ prompt.Offers n
  | .unreadable | .ended => False

/-! ## States -/

/-- Nothing breaks the menu off: the number of files is there, and all keys have values. -/
structure State.Ready (s : State) : Prop where
  count : ∃ n, s.view.topFiles? = some n
  known : ∀ c : Criterion, c.Known s.project.index s.project.files

/-- The criteria of all rankings. -/
def criteria (first : Criterion) (changes : List Change) : List Criterion :=
  first :: changes.filterMap Change.criterion?

/-- What changes make of a state in which the menu starts with the criterion `first`. -/
structure After (initial : State) (first : Criterion) (changes : List Change) (s : State) :
    Prop where
  view : s.view = changes.foldl Change.onView initial.view
  criterion : s.criterion? = (criteria first changes).getLast?
  ranked : RankedInTurn (·.value initial.project.index) initial.project.files
    (criteria first changes) s.project.files
  perm : s.project.files.Perm initial.project.files
  project : s.project = { initial.project with files := s.project.files }

/-- What a reply does to a state. -/
inductive Follows (s : State) : Option Reply → Stand → Prop
  | leaves : Follows s none (.left s)
  | keeps {next : Prompt} : Follows s (some ⟨next, none⟩) (.asking next s)
  | views {next : Prompt} {change : Change} (hc : change.criterion? = none) :
      Follows s (some ⟨next, some change⟩) (.asking next { s with view := change.onView s.view })
  | ranks {next : Prompt} {c : Criterion} {files : List SourceFile}
      (hr : Ranks (c.value s.project.index) s.project.files files) :
      Follows s (some ⟨next, some (.criterion c)⟩)
        (.asking next { s with criterion? := some c, project := { s.project with files } })

variable {s : State} {prompt : Prompt}

theorem State.Ready.measurable (h : s.Ready) : ∀ f ∈ s.project.files, f.Measurable :=
  (h.known .classComplexity).measurable

/-! ## Conversations -/

section

variable {text : String} {n : Nat} {e : Console.InputError}

theorem reply_number (hp : prompt ≠ .query) (hn : Console.readNumber text = .ok n) :
    prompt.reply (.text text) = prompt.onNumber n := by
  cases prompt <;> simp only [Prompt.reply, hn, ne_eq, not_true_eq_false] at hp ⊢

theorem reply_no_number (hp : prompt ≠ .query) (hn : Console.readNumber text = .error e) :
    prompt.reply (.text text) = some { next := prompt.again } := by
  cases prompt <;> simp only [Prompt.reply, hn, ne_eq, not_true_eq_false] at hp ⊢

end

theorem onNumber_eq_none {n : Nat} : prompt.onNumber n = none ↔ prompt = .main ∧ n = 8 := by
  unfold Prompt.onNumber
  split <;> simp_all

theorem reply_eq_none {a : Answer} : prompt.reply a = none ↔ Quits prompt a := by
  cases a with
  | unreadable => exact ⟨fun _ => trivial, fun _ => by cases prompt <;> rfl⟩
  | ended => exact ⟨fun _ => trivial, fun _ => by cases prompt <;> rfl⟩
  | text text =>
    rw [Quits]
    by_cases hp : prompt = .query
    · subst hp
      rw [Prompt.reply]
      cases Console.readText text <;> simp
    · have height : Text.Writes text 8 ↔ Console.readNumber text = .ok 8 :=
        Console.readNumber_eq_ok_iff.symm
      rw [height]
      cases hn : Console.readNumber text with
      | error e => simp [reply_no_number hp hn]
      | ok n => simp [reply_number hp hn, onNumber_eq_none]

/-- A conversation is heard to its end, or to the first answer that leaves the menu. -/
theorem exists_heard (answers : List Answer) (place : Prompt × List Change) :
    ∃ read last, read.foldlM hear place = some last ∧
      (answers = read ∨ ∃ a rest, Quits last.1 a ∧ answers = read ++ a :: rest) := by
  induction answers generalizing place with
  | nil => exact ⟨[], place, rfl, .inl rfl⟩
  | cons a answers ih =>
    cases hr : place.1.reply a with
    | none => exact ⟨[], place, rfl, .inr ⟨a, answers, reply_eq_none.1 hr, rfl⟩⟩
    | some reply =>
      have hh : hear place a = some (reply.next, place.2 ++ reply.change?.toList) := by
        rw [hear, hr]
        rfl
      obtain ⟨read, last, hl, h⟩ := ih (reply.next, place.2 ++ reply.change?.toList)
      refine ⟨a :: read, last, by rw [List.foldlM_cons, hh]; exact hl, ?_⟩
      rcases h with rfl | ⟨b, rest, hq, rfl⟩
      · exact .inl rfl
      · exact .inr ⟨b, rest, hq, rfl⟩

/-- The prompts on the way to a prompt: each answer goes on from the one before it. -/
theorem converse_of_prefix {before read : List Answer} {last : Prompt × List Change}
    (h : converse read = some last) (hp : before <+: read) :
    ∃ prompt changes, converse before = some (prompt, changes) ∧
      ∀ a, before ++ [a] <+: read → ¬ Quits prompt a := by
  obtain ⟨rest, rfl⟩ := hp
  rw [converse, List.foldlM_append] at h
  obtain ⟨⟨prompt, changes⟩, hb, h⟩ := Option.bind_eq_some_iff.1 h
  refine ⟨prompt, changes, hb, fun a ha hq => ?_⟩
  obtain ⟨others, ho⟩ := ha
  rw [List.append_assoc, List.append_right_inj] at ho
  rw [← ho, List.singleton_append, List.foldlM_cons] at h
  obtain ⟨middle, hm, -⟩ := Option.bind_eq_some_iff.1 h
  rw [hear, reply_eq_none.2 hq] at hm
  cases hm

/-! ## States after changes -/

variable {initial : State} {first : Criterion} {changes : List Change}

theorem topFiles?_foldl (changes : List Change) {view : View} (h : ∃ n, view.topFiles? = some n) :
    ∃ n, (changes.foldl Change.onView view).topFiles? = some n := by
  induction changes generalizing view with
  | nil => exact h
  | cons change changes ih =>
    apply ih
    cases change with
    | fileCount n => exact ⟨n, rfl⟩
    | _ => exact h

theorem After.ready (hi : initial.Ready) (h : After initial first changes s) : s.Ready := by
  constructor
  · rw [h.view]
    exact topFiles?_foldl changes hi.count
  · intro c
    rw [h.project]
    exact (hi.known c).of_perm h.perm

/-- The changes go on with the reply. -/
theorem After.follows {reply : Reply} {stand : Stand} (h : After initial first changes s)
    (hf : Follows s (some reply) stand) :
    ∃ s', stand = .asking reply.next s' ∧
      After initial first (changes ++ reply.change?.toList) s' := by
  cases hf with
  | keeps => exact ⟨s, rfl, by simpa using h⟩
  | @views next change hc =>
    have hcriteria : criteria first (changes ++ [change]) = criteria first changes := by
      simp [criteria, hc]
    refine ⟨_, rfl, ?_, ?_, ?_, h.perm, h.project⟩
    · rw [Option.toList_some, List.foldl_append, ← h.view]
      rfl
    · rw [Option.toList_some, hcriteria]
      exact h.criterion
    · rw [Option.toList_some, hcriteria]
      exact h.ranked
  | @ranks next c files hr =>
    have hcriteria : criteria first (changes ++ [.criterion c]) = criteria first changes ++ [c] := by
      simp [criteria, Change.criterion?]
    have hindex : s.project.index = initial.project.index := by rw [h.project]
    rw [hindex] at hr
    refine ⟨_, rfl, ?_, ?_, ?_, (h.ranked.next hr).perm, ?_⟩
    · rw [Option.toList_some, List.foldl_append, ← h.view]
      rfl
    · rw [Option.toList_some, hcriteria, List.getLast?_concat]
    · rw [Option.toList_some, hcriteria]
      exact h.ranked.next hr
    · rw [h.project]

/-! ## One step -/

section

variable [Console.Terminal]

/-- A listing does not move the menu. -/
theorem stand_list (h : s.Ready) (view : View) (hv : view.topFiles? = s.view.topFiles?)
    (after : State) (before : String) :
    (list { s with view } after before).stand = .asking .main after := by
  obtain ⟨n, hn⟩ := h.count
  have hs : Listing.selected? view s.project.files =
      some (Listing.firstItems n (SourceFile.search view.query? s.project.files)) := by
    rw [Listing.selected?, hv, hn]
    rfl
  have hshows : (Listing.files view s.project.index s.project.files).Shows view _ _ :=
    Listing.files_shows hs fun f hf => h.measurable f ((Listing.selected?_sublist hs).subset hf)
  rw [list]
  simp only [hshows.fault]
  rfl

theorem follows_action (h : s.Ready) (n : Nat) :
    Follows s (Prompt.onNumber .main n) (chooseAction s n).stand := by
  rcases n with _ | _ | _ | _ | _ | _ | _ | _ | _ | n
  case succ.zero =>
    rw [chooseAction, stand_list h s.view rfl s]
    exact .keeps
  case succ.succ.succ.succ.succ.succ.succ.succ.zero => exact .leaves
  all_goals exact .keeps

theorem follows_setting (s : State) (n : Nat) :
    Follows s (Prompt.onNumber .setting n) (chooseSetting s n).stand := by
  rcases n with _ | _ | _ | _ | _ | _ | _ | _ | _ | n
  case succ.succ.zero => exact @Follows.views s .main .dependencies rfl
  case succ.succ.succ.succ.zero => exact @Follows.views s .main .statements rfl
  all_goals exact .keeps

theorem follows_limit (s : State) (n : Nat) :
    Follows s (Prompt.onNumber .limitWanted n) (chooseLimit s n).stand := by
  rcases n with _ | _ | _ | n
  case succ.succ.zero => exact @Follows.views s .setting (.methodLimit none) rfl
  all_goals exact .keeps

theorem follows_ranking (h : s.Ready) {n : Nat} {c : Criterion} (hn : criterion? n = some c) :
    Follows s (some ⟨.main, some (.criterion c)⟩) (chooseCriterion s n).stand := by
  obtain ⟨files, hrank, hr⟩ := Project.exists_rankedBy (h.known c)
  rw [chooseCriterion, hn]
  dsimp only
  rw [hrank]
  exact .ranks hr

theorem follows_criterion (h : s.Ready) (n : Nat) :
    Follows s (Prompt.onNumber .criterion n) (chooseCriterion s n).stand := by
  rcases n with _ | _ | _ | _ | _ | _ | n
  case zero => exact .keeps
  case succ.succ.succ.succ.succ.succ =>
    exact .keeps
  all_goals exact follows_ranking h rfl

theorem follows_number (h : s.Ready) (prompt : Prompt) (n : Nat) :
    Follows s (prompt.onNumber n) (takeNumber s prompt n).stand := by
  cases prompt with
  | main => exact follows_action h n
  | setting => exact follows_setting s n
  | fileCount => exact @Follows.views s .main (.fileCount n) rfl
  | limitWanted => exact follows_limit s n
  | methodLimit => exact @Follows.views s .main (.methodLimit (some n)) rfl
  | query => exact .keeps
  | criterion => exact follows_criterion h n

theorem stand_refuse (s : State) (prompt : Prompt) (e : Console.InputError) :
    (refuse s prompt e).stand = .asking prompt.again s := by
  cases prompt <;> rfl

section

variable {text : String} {n : Nat} {e : Console.InputError}

theorem step_number (hp : prompt ≠ .query) (hn : Console.readNumber text = .ok n) :
    step s prompt (.text text) = takeNumber s prompt n := by
  cases prompt <;> simp only [step, takeText, hn, ne_eq, not_true_eq_false] at hp ⊢

theorem step_no_number (hp : prompt ≠ .query) (hn : Console.readNumber text = .error e) :
    step s prompt (.text text) = refuse s prompt e := by
  cases prompt <;> simp only [step, takeText, hn, ne_eq, not_true_eq_false] at hp ⊢

end

/-- **A step does what the reply says.** -/
theorem step_follows (h : s.Ready) (prompt : Prompt) (a : Answer) :
    Follows s (prompt.reply a) (step s prompt a).stand := by
  cases a with
  | unreadable => cases prompt <;> exact .leaves
  | ended => cases prompt <;> exact .leaves
  | text text =>
    by_cases hp : prompt = .query
    · subst hp
      rw [Prompt.reply, step, takeText]
      cases Console.readText text with
      | error e => exact .keeps
      | ok query =>
        dsimp only
        rw [search, stand_list h { s.view with query? := some query } rfl]
        exact @Follows.views s .main .query rfl
    · cases hn : Console.readNumber text with
      | error e =>
        rw [reply_no_number hp hn, step_no_number hp hn, stand_refuse]
        exact .keeps
      | ok n =>
        rw [reply_number hp hn, step_number hp hn]
        exact follows_number h prompt n

/-! ## Any number of steps -/

section

variable {turn : Turn} {answers : List Answer}

theorem play_of_left (h : turn.stand = .left s) (answers : List Answer) :
    play turn answers = ⟨turn, answers⟩ := by
  cases answers with
  | nil => rfl
  | cons a rest => simp only [play, h]

theorem play_of_asking (h : turn.stand = .asking prompt s) (a : Answer) (rest : List Answer) :
    play turn (a :: rest) = play (turn.after (step s prompt a)) rest := by
  simp only [play, h]

/-- A menu that asks has read all answers, and goes on from there. -/
theorem play_append (h : (play turn answers).turn.stand = .asking prompt s) :
    (play turn answers).unread = [] ∧
      ∀ rest, play turn (answers ++ rest) = play (play turn answers).turn rest := by
  induction answers generalizing turn with
  | nil => exact ⟨rfl, fun rest => rfl⟩
  | cons a answers ih =>
    cases ht : turn.stand with
    | asking prompt' s' =>
      rw [play_of_asking ht] at h ⊢
      refine ⟨(ih h).1, fun rest => ?_⟩
      rw [List.cons_append, play_of_asking ht]
      exact (ih h).2 rest
    | left s' =>
      rw [play_of_left ht] at h
      cases ht.symm.trans h
    | failed fault s' =>
      simp only [play, ht] at h
      cases h

end

/-- From any prompt on, the menu asks what the conversation asks. -/
theorem asking_of_foldlM (hi : initial.Ready) {turn : Turn} {answers : List Answer}
    {place : Prompt × List Change} (ht : turn.stand = .asking prompt s)
    (hs : After initial first changes s) (h : answers.foldlM hear (prompt, changes) = some place) :
    ∃ s', (play turn answers).turn.stand = .asking place.1 s' ∧ After initial first place.2 s' := by
  induction answers generalizing turn prompt s changes with
  | nil =>
    cases h
    exact ⟨s, ht, hs⟩
  | cons a answers ih =>
    rw [List.foldlM_cons] at h
    obtain ⟨middle, hm, h⟩ := Option.bind_eq_some_iff.1 h
    obtain ⟨reply, hreply, rfl⟩ := Option.map_eq_some_iff.1 hm
    have hf := step_follows (hs.ready hi) prompt a
    rw [hreply] at hf
    obtain ⟨s', hstand, hs'⟩ := hs.follows hf
    rw [play_of_asking ht]
    exact ih hstand hs' h

theorem start_asks (hi : initial.Ready) (hc : initial.criterion? = some first) :
    ∃ s, (start initial).stand = .asking .main s ∧ After initial first [] s := by
  obtain ⟨files, hrank, hr⟩ := Project.exists_rankedBy (hi.known first)
  refine ⟨{ initial with project := { initial.project with files } }, ?_, ?_⟩
  · simp only [start, hc, hrank]
    rfl
  · exact ⟨rfl, hc, .next .unranked hr, hr.perm, rfl⟩

theorem exists_asking (hi : initial.Ready) (hc : initial.criterion? = some first)
    {read : List Answer} (h : converse read = some (prompt, changes)) :
    ∃ s, (play (start initial) read).turn.stand = .asking prompt s ∧
      After initial first changes s := by
  obtain ⟨s, hs, hafter⟩ := start_asks hi hc
  exact asking_of_foldlM hi hs hafter h

/-! ## Leaving the menu -/

theorem stand_of_not_offered (s : State) {n : Nat} (h : ¬ prompt.Offers n) :
    ∃ next, (takeNumber s prompt n).stand = .asking next s := by
  cases prompt with
  | main =>
    rcases n with _ | _ | _ | _ | _ | _ | _ | _ | _ | n
    all_goals first | exact absurd (show _ ∈ [1, 2, 3, 4, 5, 8] by decide) h | exact ⟨_, rfl⟩
  | setting =>
    rcases n with _ | _ | _ | _ | _ | _ | _ | _ | _ | n
    all_goals first | exact absurd (show _ ∈ [1, 2, 3, 4, 8] by decide) h | exact ⟨_, rfl⟩
  | limitWanted =>
    rcases n with _ | _ | _ | n
    all_goals first | exact absurd (show _ ∈ [1, 2] by decide) h | exact ⟨_, rfl⟩
  | criterion =>
    rcases n with _ | _ | _ | _ | _ | _ | n
    all_goals first | exact absurd (show _ ∈ [1, 2, 3, 4, 5] by decide) h | exact ⟨_, rfl⟩
  | fileCount => exact absurd trivial h
  | methodLimit => exact absurd trivial h
  | query => exact ⟨_, rfl⟩

/-- What is refused changes nothing, in any state. -/
theorem stand_of_refused (s : State) {a : Answer} (h : Refused prompt a) :
    ∃ next, (step s prompt a).stand = .asking next s := by
  cases a with
  | unreadable => exact h.elim
  | ended => exact h.elim
  | text text =>
    rw [Refused] at h
    by_cases hp : prompt = .query
    · subst hp
      obtain ⟨e, he⟩ := Console.exists_readText_error_iff.2 h
      refine ⟨.main, ?_⟩
      rw [step, takeText, he]
      rfl
    · rw [if_neg hp] at h
      cases hn : Console.readNumber text with
      | error e => exact ⟨_, by rw [step_no_number hp hn, stand_refuse]⟩
      | ok n =>
        rw [step_number hp hn]
        exact stand_of_not_offered s (h n (Console.readNumber_eq_ok_iff.1 hn))

theorem stand_of_quits (s : State) {a : Answer} (h : Quits prompt a) :
    (step s prompt a).stand = .left s := by
  cases a with
  | unreadable => cases prompt <;> rfl
  | ended => cases prompt <;> rfl
  | text text =>
    obtain ⟨rfl, hn⟩ := h
    have hexit : Console.readNumber text = .ok 8 := Console.readNumber_eq_ok_iff.2 hn
    rw [step_number (by decide) hexit]
    rfl

/-- A menu that still asks after all answers is left there. -/
theorem run_of_asking {answers : List Answer}
    (h : (play (start initial) answers).turn.stand = .asking prompt s) :
    (run initial answers).turn.stand = .left s ∧ (run initial answers).unread = [] := by
  simp only [run, h]
  exact ⟨stand_of_quits s trivial, (play_append h).1⟩

theorem run_of_quits {read rest : List Answer} {a : Answer}
    (h : (play (start initial) read).turn.stand = .asking prompt s) (hq : Quits prompt a) :
    (run initial (read ++ a :: rest)).turn.stand = .left s ∧
      (run initial (read ++ a :: rest)).unread = rest := by
  have hstand : ((play (start initial) read).turn.after (step s prompt a)).stand = .left s :=
    stand_of_quits s hq
  have hplay : play (start initial) (read ++ a :: rest) =
      ⟨(play (start initial) read).turn.after (step s prompt a), rest⟩ := by
    rw [(play_append h).2, play_of_asking h, play_of_left hstand]
  simp only [run, hplay, hstand, and_self]

/-- On the way to a prompt, the menu stands at every prompt in the state of the changes until then. -/
theorem exists_asking_of_prefix (hi : initial.Ready) (hc : initial.criterion? = some first)
    {before read : List Answer} {last : Prompt × List Change} (h : converse read = some last)
    (hb : before <+: read) :
    ∃ prompt changes s, converse before = some (prompt, changes) ∧
      (play (start initial) before).turn.stand = .asking prompt s ∧
      After initial first changes s ∧ ∀ a, before ++ [a] <+: read → ¬ Quits prompt a := by
  obtain ⟨prompt, changes, hconv, hq⟩ := converse_of_prefix h hb
  obtain ⟨s, hs, ha⟩ := exists_asking hi hc hconv
  exact ⟨prompt, changes, s, hconv, hs, ha, hq⟩

/-- A query is gone at the prompt that follows its search. -/
theorem query?_of_search (hi : initial.Ready) (hc : initial.criterion? = some first)
    {before : List Answer} {text query : String} (hb : converse before = some (.query, changes))
    (ht : Console.readText text = .ok query) :
    ∃ s, (play (start initial) (before ++ [.text text])).turn.stand = .asking .main s ∧
      s.view.query? = none := by
  have hconv : converse (before ++ [.text text]) = some (.main, changes ++ [.query]) := by
    rw [converse, List.foldlM_append, show before.foldlM hear _ = _ from hb]
    simp [hear, Prompt.reply, ht]
  obtain ⟨s, hs, ha⟩ := exists_asking hi hc hconv
  refine ⟨s, hs, ?_⟩
  rw [ha.view, List.foldl_append]
  rfl

/-- **The menu is a sound state machine.** Let the number of files be there and all keys have values.
Then, whatever is answered, the menu is left and never fails.

* It reads the answers up to the first one that leaves it (`Quits`), or all of them if none does, and no
  others.
* At each prompt until then, and in the end, its state is what the accepted answers make of the first
  one (`After`): the files as the criteria rank them one after the other, the last of these as its
  criterion, and the view as a fold of the changes.
* What is refused changes nothing, and a query lasts only for its search.
* A number is an answer that writes one (`Text.Writes`), and a query what is left of an answer without
  the blanks at its ends, if anything is. -/
theorem run_sound {n : Int} (hn : initial.view.topFiles? = some n)
    (hc : initial.criterion? = some first)
    (hk : ∀ c : Criterion, c.Known initial.project.index initial.project.files)
    (answers : List Answer) :
    ∃ read prompt changes final, converse read = some (prompt, changes) ∧
      (run initial answers).turn.stand = .left final ∧ After initial first changes final ∧
      (answers = read ∧ (run initial answers).unread = [] ∨
        ∃ a, Quits prompt a ∧ answers = read ++ a :: (run initial answers).unread) ∧
      (∀ before, before <+: read → ∃ prompt changes s, converse before = some (prompt, changes) ∧
        (play (start initial) before).turn.stand = .asking prompt s ∧
        After initial first changes s ∧ ∀ a, before ++ [a] <+: read → ¬ Quits prompt a) ∧
      (∀ s prompt a, Refused prompt a → ∃ next, (step s prompt a).stand = .asking next s) ∧
      (∀ before changes text query, converse before = some (.query, changes) →
        Console.readText text = .ok query →
        ∃ s, (play (start initial) (before ++ [.text text])).turn.stand = .asking .main s ∧
          s.view.query? = none) ∧
      (∀ (text : String) (n : Nat), Console.readNumber text = .ok n ↔ Text.Writes text n) ∧
      ∀ text query : String, Console.readText text = .ok query ↔
        query ≠ "" ∧ Text.Strips text.toList query.toList := by
  have hi : initial.Ready := ⟨⟨n, hn⟩, hk⟩
  obtain ⟨read, ⟨prompt, changes⟩, hl, hend⟩ := exists_heard answers (.main, [])
  obtain ⟨s, hs, ha⟩ := exists_asking hi hc hl
  rcases hend with rfl | ⟨a, rest, hq, rfl⟩
  · obtain ⟨hleft, hunread⟩ := run_of_asking hs
    exact ⟨answers, prompt, changes, s, hl, hleft, ha, .inl ⟨rfl, hunread⟩,
      fun _ => exists_asking_of_prefix hi hc hl, fun s _ _ => stand_of_refused s,
      fun _ _ _ _ => query?_of_search hi hc, fun _ _ => Console.readNumber_eq_ok_iff,
      fun _ _ => Console.readText_eq_ok_iff⟩
  · obtain ⟨hleft, hunread⟩ : (run initial (read ++ a :: rest)).turn.stand = .left s ∧
        (run initial (read ++ a :: rest)).unread = rest := run_of_quits hs hq
    exact ⟨read, prompt, changes, s, hl, hleft, ha, .inr ⟨a, hq, by rw [hunread]⟩,
      fun _ => exists_asking_of_prefix hi hc hl, fun s _ _ => stand_of_refused s,
      fun _ _ _ _ => query?_of_search hi hc, fun _ _ => Console.readNumber_eq_ok_iff,
      fun _ _ => Console.readText_eq_ok_iff⟩

end

/-- Something that is no number, a setting, a ranking that is not offered, one that is, and the exit. -/
def answersAndMore : List Answer :=
  ["x", "3", "2", "5", "7", "5", " 3 ", "8", "1"].map .text

example : converse (answersAndMore.take 7) =
    some (.main, [.dependencies, .criterion .dependencies]) := by decide +kernel

/-- A menu on two files, the second of which has a dependency. -/
def twoFiles : State where
  project := .ofFiles
    [⟨"a.php", { name := "\\A" }, 1, 0, []⟩,
      ⟨"b.php", { name := "\\B", dependencies := ["\\A"] }, 1, 0, []⟩]

theorem measurable_twoFiles : ∀ f ∈ twoFiles.project.files, f.Measurable := by
  have h : ∀ f ∈ twoFiles.project.files, f.declared.averageComplexity.toOption.isSome = true := by
    decide +kernel
  intro f hf
  have hf := h f hf
  rcases ha : f.declared.averageComplexity with e | average
  · rw [ha] at hf
    cases hf
  · exact ⟨average, ha⟩

theorem run_sound_of_twoFiles :
    ∃ read prompt changes final, converse read = some (prompt, changes) ∧
      (run twoFiles answersAndMore).turn.stand = .left final ∧
      After twoFiles .classComplexity changes final ∧
      (answersAndMore = read ∧ (run twoFiles answersAndMore).unread = [] ∨
        ∃ a, Quits prompt a ∧ answersAndMore = read ++ a :: (run twoFiles answersAndMore).unread) := by
  obtain ⟨read, prompt, changes, final, hconv, hleft, ha, hend, -⟩ :=
    @run_sound twoFiles .classComplexity Console.wide 10 rfl rfl
      (Criterion.known_of_measurable · measurable_twoFiles) answersAndMore
  exact ⟨read, prompt, changes, final, hconv, hleft, ha, hend⟩

end Cyclomatic.Menu
