import Cyclomatic.Proofs.Reading.Completion
import Cyclomatic.Proofs.Reading.Imports

/-!
# The order of imports

Two files that differ in the order of their use statements have the same class, up to the order of
its dependencies, if the local names of the imports are distinct and no import under another name is
the path made up for another one (`file_of_perm`). The second condition is needed: real names are put
for made-up paths alias after alias, and one that has just been put may be taken for a path
(`not_forall_parent?_of_perm`).
-/

set_option autoImplicit false

namespace Cyclomatic.Reading

open Token

/-! ## Classes -/

section

variable {imports others : Imports}

theorem type?_congr (h : others.resolve = imports.resolve) : others.type? = imports.type? := by
  funext t
  simp only [Imports.type?, h]

/-- Members depend on imports only by what names stand for. -/
theorem member_congr (h : others.resolve = imports.resolve) : member others = member imports := by
  have htype := type?_congr h
  simp only [member, visible, declared, method, returnType, typed, h, htype]

theorem membersFrom_congr (h : others.resolve = imports.resolve) (depth : Nat) (tape : Tape) :
    membersFrom others depth tape = membersFrom imports depth tape := by
  have hm : member others = member imports := member_congr h
  fun_induction membersFrom imports depth tape with
  | case1 tape hd => rw [membersFrom, if_pos hd]
  | case2 tape hd fault rest hr =>
    rw [membersFrom, if_neg hd]
    split <;> simp_all
  | case3 tape hd m middle hr fault rest hs ih =>
    rw [membersFrom, if_neg hd]
    split <;> simp_all
  | case4 tape hd m middle hr ms rest hs ih =>
    exact membersFrom_cons hd (by rw [hm, hr]) (ih.trans hs)

theorem classBody_congr (hb : others.base = imports.base) (h : others.resolve = imports.resolve)
    (isAbstract : Bool) : classBody others isAbstract = classBody imports isAbstract := by
  have hmembers (depth : Nat) : members others depth = members imports depth :=
    funext (membersFrom_congr h depth)
  have hparent : parent others = parent imports := by simp only [parent, h]
  simp only [classBody, hmembers, hparent, Imports.inNamespace, hb]

/-- Classes that differ in the order of their dependencies only. -/
def SameButOrder (c d : Class) : Prop :=
  d = { c with dependencies := d.dependencies } ∧ d.dependencies.Perm c.dependencies

theorem complete_of_reordered (h : imports.Reordered others) (hd : imports.Distinct)
    (ht : imports.Traced) (hu : imports.Unchained) {c : Class} (hc : Class.Clean c.dependencies) :
    SameButOrder (complete imports c) (complete others c) := by
  have hreal := Imports.realName_of_reordered h hd ht hu
  have hrecorded : (recorded others c).Perm (recorded imports c) := by
    have hn := (hc.foldl_offer imports.uses).nodup
    have hn' := (hc.foldl_offer others.uses).nodup
    refine (List.perm_ext_iff_of_nodup hn' hn).2 fun name => ?_
    rw [Class.mem_foldl_offer, Class.mem_foldl_offer, h.uses.mem_iff]
  rw [complete_eq, complete_eq, hreal]
  exact ⟨rfl, hrecorded.map _⟩

end

/-! ## Files -/

theorem Imports.Reordered.declareAll {imports others : Imports} (h : imports.Reordered others)
    (ds : List Declared) :
    (declareAll ds imports).Reordered (declareAll ds others) := by
  induction ds generalizing imports others with
  | nil => exact h
  | cons d ds ih =>
    refine ih ?_
    cases d with
    | base name => exact ⟨rfl, h.uses, h.aliases⟩
    | use name => exact ⟨h.base, h.uses.append_right _, h.aliases⟩
    | useAs name other => exact ⟨h.base, h.uses.append_right _, h.aliases.append_right _⟩

theorem traced_declareAll (ds : List Declared) {imports : Imports} (h : imports.Traced) :
    (declareAll ds imports).Traced := by
  induction ds generalizing imports with
  | nil => exact h
  | cons d ds ih =>
    refine ih ?_
    cases d with
    | base name => exact h
    | use name => exact h.trans (List.sublist_append_left _ _)
    | useAs name other =>
      rw [Imports.Traced, Declared.addTo, Imports.useAs, List.map_append]
      exact h.append (List.Sublist.refl _)

namespace UseStatement

/-- What is imported: the name, with another last segment if it has another name. -/
def path (u : UseStatement) : String :=
  match u.other? with
  | none => u.name.1.lexeme
  | some (_, other) => qualifier u.name.1.lexeme ++ other.1.lexeme

/-- The alias that the statement makes. -/
def alias? (u : UseStatement) : Option Alias := u.other?.map fun _ => ⟨u.name.1.lexeme, u.path⟩

theorem addTo_declared (u : UseStatement) (imports : Imports) :
    u.declared.addTo imports =
      { imports with
        uses := imports.uses ++ [u.path]
        aliases := imports.aliases ++ u.alias?.toList } := by
  obtain ⟨use, name, other?, semicolon⟩ := u
  cases other? <;> simp [declared, Declared.addTo, Imports.use, Imports.useAs, path, alias?]

end UseStatement

/-- A file but for some of its use statements. The `i`-th gap stands before the `i`-th of them; it is
passed over at the top level, whatever follows it, and may open brackets and declare namespaces. What
comes after the use statements is `post`. -/
structure Frame where
  gap : Nat → List Token
  names : Nat → List String
  brackets : Nat → List Bracket
  post : List Token
  start : brackets 0 = []
  passed : ∀ i left imports, fileFrom ⟨⟨gap i ++ left, brackets i⟩, imports⟩ =
    fileFrom ⟨⟨left, brackets (i + 1)⟩, declareAll ((names i).map .base) imports⟩

namespace Frame

variable (f : Frame) {us others : List UseStatement}

/-- The file from a gap on, with use statements put in. -/
def tokensFrom (i : Nat) : List UseStatement → List Token
  | [] => f.gap i ++ f.post
  | u :: us => f.gap i ++ (u.tokens ++ tokensFrom (i + 1) us)

/-- The file with use statements put in. -/
def tokens (us : List UseStatement) : List Token := f.tokensFrom 0 us

/-- The imports where the use statements are passed. -/
def importsFrom (i : Nat) : List UseStatement → Imports → Imports
  | [], imports => declareAll ((f.names i).map .base) imports
  | u :: us, imports =>
    importsFrom (i + 1) us (u.declared.addTo (declareAll ((f.names i).map .base) imports))

theorem fileFrom_tokensFrom (i : Nat) (us : List UseStatement) (imports : Imports) :
    fileFrom ⟨⟨f.tokensFrom i us, f.brackets i⟩, imports⟩ =
      fileFrom ⟨⟨f.post, f.brackets (i + us.length + 1)⟩, f.importsFrom i us imports⟩ := by
  induction us generalizing i imports with
  | nil => exact f.passed i _ _
  | cons u us ih =>
    have hi : i + (u :: us).length = i + 1 + us.length := by
      rw [List.length_cons]
      omega
    rw [tokensFrom, f.passed, fileFrom_use, ih, hi]
    rfl

theorem declareAll_base (names : List String) (imports : Imports) :
    declareAll (names.map .base) imports = { imports with base := names.getLastD imports.base } := by
  induction names generalizing imports with
  | nil => rfl
  | cons name names ih =>
    change declareAll (names.map .base) { imports with base := name } = _
    rw [ih]
    cases names <;> rfl

theorem uses_importsFrom (i : Nat) (us : List UseStatement) (imports : Imports) :
    (f.importsFrom i us imports).uses = imports.uses ++ us.map UseStatement.path := by
  induction us generalizing i imports with
  | nil => simp [importsFrom, declareAll_base]
  | cons u us ih => simp [importsFrom, ih, UseStatement.addTo_declared, declareAll_base]

theorem aliases_importsFrom (i : Nat) (us : List UseStatement) (imports : Imports) :
    (f.importsFrom i us imports).aliases =
      imports.aliases ++ us.flatMap (·.alias?.toList) := by
  induction us generalizing i imports with
  | nil => simp [importsFrom, declareAll_base]
  | cons u us ih => simp [importsFrom, ih, UseStatement.addTo_declared, declareAll_base]

theorem base_importsFrom (i : Nat) (hl : others.length = us.length) {imports later : Imports}
    (hb : later.base = imports.base) :
    (f.importsFrom i others later).base = (f.importsFrom i us imports).base := by
  induction us generalizing i others imports later with
  | nil =>
    obtain rfl := List.length_eq_zero_iff.1 hl
    simp [importsFrom, declareAll_base, hb]
  | cons u us ih =>
    obtain ⟨v, others, rfl⟩ := List.exists_cons_of_length_eq_add_one hl
    refine ih (i + 1) (by simpa using hl) ?_
    simp [UseStatement.addTo_declared, declareAll_base, hb]

theorem reordered_importsFrom (h : others.Perm us) (imports : Imports) :
    (f.importsFrom 0 us imports).Reordered (f.importsFrom 0 others imports) := by
  refine ⟨f.base_importsFrom 0 h.length_eq rfl, ?_, ?_⟩
  · rw [uses_importsFrom, uses_importsFrom]
    exact (h.map _).append_left _
  · rw [aliases_importsFrom, aliases_importsFrom]
    exact (h.flatMap_right _).append_left _

theorem traced_importsFrom (i : Nat) (us : List UseStatement) {imports : Imports}
    (h : imports.Traced) : (f.importsFrom i us imports).Traced := by
  induction us generalizing i imports with
  | nil => exact traced_declareAll _ h
  | cons u us ih => exact ih (i + 1) (traced_declareAll [u.declared] (traced_declareAll _ h))

end Frame

/-! ## Readings -/

/-- The imports that a reading ends with. -/
def importsOf : EStateM.Result Fault State (Option Class) → Imports
  | .ok _ rest => rest.imports
  | .error _ rest => rest.imports

/-- Two readings fail both, find no class both, or find classes that are the same but for the order of
their dependencies. -/
inductive Alike : EStateM.Result Fault State (Option Class) →
    EStateM.Result Fault State (Option Class) → Prop where
  | fails {fault : Fault} {rest last : State} : Alike (.error fault rest) (.error fault last)
  | none {rest last : State} : Alike (.ok none rest) (.ok none last)
  | class {c d : Class} {rest last : State} (h : SameButOrder c d) :
    Alike (.ok (some c) rest) (.ok (some d) last)

theorem importsOf_onTape (step : Read Class) (state : State) :
    importsOf ((some <$> onTape step : FileRead (Option Class)) state) = state.imports := by
  cases hs : step state.tape <;> simp [Functor.map, EStateM.map, onTape, hs, importsOf]

theorem exists_importsOf (tape : Tape) :
    ∃ ds, ∀ imports, importsOf (fileFrom ⟨tape, imports⟩) = declareAll ds imports := by
  cases fileFrom_outcome tape with
  | fails ds fault rest h => exact ⟨ds, fun imports => by rw [h]; rfl⟩
  | ends ds rest h => exact ⟨ds, fun imports => by rw [h]; rfl⟩
  | starts ds isAbstract rest h => exact ⟨ds, fun imports => by rw [h, importsOf_onTape]⟩

variable {imports others : Imports}

/-- A class is the same in both orders, or faults in both. -/
theorem alike_class (h : imports.Reordered others) (hd : imports.Distinct) (ht : imports.Traced)
    (hu : imports.Unchained) (isAbstract : Bool) (tape : Tape) :
    Alike ((some <$> onTape (classDeclaration imports isAbstract)) ⟨tape, imports⟩)
      ((some <$> onTape (classDeclaration others isAbstract)) ⟨tape, others⟩) := by
  -- the order of the imports shows only where the class is completed
  have hbody : classBody others isAbstract = classBody imports isAbstract :=
    classBody_congr h.base (Imports.resolve_of_reordered h hd) isAbstract
  rw [classDeclaration_eq, classDeclaration_eq, hbody]
  cases hc : classBody imports isAbstract tape with
  | error fault rest =>
    have hfault (i : Imports) : (some <$> onTape (complete i <$> classBody imports isAbstract) :
        FileRead (Option Class)) ⟨tape, i⟩ = .error fault ⟨rest, i⟩ := by
      simp [Functor.map, EStateM.map, onTape, hc]
    rw [hfault, hfault]
    exact .fails
  | ok c rest =>
    have hclass (i : Imports) : (some <$> onTape (complete i <$> classBody imports isAbstract) :
        FileRead (Option Class)) ⟨tape, i⟩ = .ok (some (complete i c)) ⟨rest, i⟩ :=
      map_run some (onTape_run (map_run (complete i) hc))
    rw [hclass, hclass]
    exact .class (complete_of_reordered h hd ht hu (clean_classBody hc))

theorem alike_of_reordered (h : imports.Reordered others) (ht : imports.Traced) {tape : Tape}
    (hd : (importsOf (fileFrom ⟨tape, imports⟩)).Distinct)
    (hu : (importsOf (fileFrom ⟨tape, imports⟩)).Unchained) :
    Alike (fileFrom ⟨tape, imports⟩) (fileFrom ⟨tape, others⟩) := by
  cases fileFrom_outcome tape with
  | fails ds fault rest hr =>
    rw [hr, hr]
    exact .fails
  | ends ds rest hr =>
    rw [hr, hr]
    exact .none
  | starts ds isAbstract rest hr =>
    rw [hr, importsOf_onTape] at hd hu
    rw [hr, hr]
    exact alike_class (h.declareAll ds) hd (traced_declareAll ds ht) hu isAbstract rest

/-- **The order of the use statements does not matter**, wherever they stand in the file, if the local
names of all imports are distinct and no import under another name is the path made up for another
one: in every order the file faults, or has no class, or has the class that it has in the given order,
up to the order of its dependencies. Every import under another name stands for its real name. -/
theorem file_of_perm (f : Frame) {us others : List UseStatement} (hp : others.Perm us)
    (hd : (importsOf (file (f.tokens us))).Distinct)
    (hu : (importsOf (file (f.tokens us))).Unchained) :
    Alike (file (f.tokens us)) (file (f.tokens others)) ∧
      (importsOf (file (f.tokens others))).Faithful := by
  have hfile (us : List UseStatement) : file (f.tokens us) =
      fileFrom ⟨⟨f.post, f.brackets (us.length + 1)⟩, f.importsFrom 0 us {}⟩ := by
    have h := f.fileFrom_tokensFrom 0 us {}
    rw [f.start, Nat.zero_add] at h
    exact h
  have hr := f.reordered_importsFrom hp {}
  have ht : (f.importsFrom 0 us {}).Traced := f.traced_importsFrom 0 us (List.Sublist.refl [])
  -- with as many use statements, both files come to what follows with the same brackets open
  rw [hfile] at hd hu ⊢
  rw [hfile, hp.length_eq]
  refine ⟨alike_of_reordered hr ht hd hu, ?_⟩
  obtain ⟨ds, hds⟩ := exists_importsOf ⟨f.post, f.brackets (us.length + 1)⟩
  rw [hds] at hd hu ⊢
  exact (hr.declareAll ds).faithful hd (traced_declareAll ds ht) hu

/-- `use X;` or `use X as Y;` on the first line. -/
def importing (name : String) (other? : Option String) : UseStatement where
  use := reserved .use_
  name := Token.name name
  other? := other?.map fun other => (reserved .as_, Token.name other)
  semicolon := sign .semicolon ";"

/-- `<?php namespace N; … f(); … class K extends D { public B $b; }`, with use statements before and
after `f();`. -/
def frameOfK : Frame where
  gap
    | 0 => [⟨.phpTag, 1, "<?php"⟩, ⟨.identifier, 1, "namespace"⟩, ⟨.identifier, 1, "N"⟩,
        ⟨.semicolon, 1, ";"⟩]
    | 1 => [⟨.identifier, 1, "f"⟩, ⟨.leftParen, 1, "("⟩, ⟨.rightParen, 1, ")"⟩,
        ⟨.semicolon, 1, ";"⟩]
    | _ => []
  names
    | 0 => ["N"]
    | _ => []
  brackets _ := []
  post := [⟨.identifier, 1, "class"⟩, ⟨.identifier, 1, "K"⟩, ⟨.identifier, 1, "extends"⟩,
    ⟨.identifier, 1, "D"⟩, ⟨.leftBrace, 1, "\x7b"⟩, ⟨.identifier, 1, "public"⟩,
    ⟨.identifier, 1, "B"⟩, ⟨.identifier, 1, "$b"⟩, ⟨.semicolon, 1, ";"⟩, ⟨.rightBrace, 1, "\x7d"⟩]
  start := rfl
  passed i left imports := by
    match i with
    | 0 =>
      refine (fileFrom_pass (next?_run rfl) rfl).trans ?_
      exact (fileFrom_pass (next?_run rfl) rfl).trans (fileFrom_pass (next?_run rfl) rfl)
    | 1 =>
      refine (fileFrom_pass (next?_run rfl) rfl).trans ((fileFrom_pass (next?_run rfl) rfl).trans ?_)
      exact (fileFrom_pass (next?_run rfl) rfl).trans (fileFrom_pass (next?_run rfl) rfl)
    | i + 2 => rfl

theorem file_of_perm_of_frameOfK :
    ∃ c rest, file (frameOfK.tokens [importing "A\\B" none, importing "A\\C" (some "D")]) =
        .ok (some c) rest ∧ c.parent? = some "A\\C" ∧
      Alike (.ok (some c) rest)
        (file (frameOfK.tokens [importing "A\\C" (some "D"), importing "A\\B" none])) := by
  have h : (classRead? (file (frameOfK.tokens
      [importing "A\\B" none, importing "A\\C" (some "D")]))).map (·.1.parent?) =
        some (some "A\\C") := by decide +kernel
  obtain ⟨⟨c, rest⟩, hr, hp⟩ := Option.map_eq_some_iff.1 h
  refine ⟨c, rest, eq_of_classRead? hr, hp, ?_⟩
  rw [← eq_of_classRead? hr]
  exact (file_of_perm frameOfK (.swap _ _ _) (by decide +kernel) (by decide +kernel)).1

/-- Two chained imports, in one order and in the other, give a class different parents. -/
theorem not_forall_parent?_of_perm :
    ¬ ∀ (f : Frame) (us others : List UseStatement), others.Perm us →
      (importsOf (file (f.tokens us))).Distinct →
      ∀ c d rest last, file (f.tokens us) = .ok (some c) rest →
        file (f.tokens others) = .ok (some d) last → d.parent? = c.parent? := by
  intro hall
  have hc : (classRead? (file (frameOfK.tokens
      [importing "A\\C" (some "D"), importing "A\\B" (some "C")]))).map (·.1.parent?) =
        some (some "A\\B") := by decide +kernel
  have hd : (classRead? (file (frameOfK.tokens
      [importing "A\\B" (some "C"), importing "A\\C" (some "D")]))).map (·.1.parent?) =
        some (some "A\\C") := by decide +kernel
  obtain ⟨⟨c, rest⟩, hrc, hpc⟩ := Option.map_eq_some_iff.1 hc
  obtain ⟨⟨d, last⟩, hrd, hpd⟩ := Option.map_eq_some_iff.1 hd
  have hp : d.parent? = c.parent? := hall frameOfK _ _ (.swap _ _ _) (by decide +kernel) c d rest last
    (eq_of_classRead? hrc) (eq_of_classRead? hrd)
  rw [hpc, hpd] at hp
  exact absurd hp (by decide)

end Cyclomatic.Reading
