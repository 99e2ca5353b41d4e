import Cyclomatic.Proofs.Reading.Modifiers
import Cyclomatic.Proofs.Token.Spelling

/-!
# Parameter lists

Between the parentheses of a parameter list, every token that starts with a dollar counts as a
parameter, and every other name that is no keyword and not built in is taken for a type. Both also
happens in default values: so the number of parameters is right if no literal of a default value starts
with a dollar (`params_of_method`), and a class depends on the constants of its default values as on
the types of its parameters (`dependencies_of_parameters`).
-/

set_option autoImplicit false

namespace Cyclomatic.Reading

open Token

/-! ## The text of a list -/

/-- A sign in its own spelling. -/
abbrev Mark (kind : Kind) := { t : Token // t.kind = kind ∧ kind.sign? = some t.lexeme.toList }

/-- The signs of a type. -/
def typeSigns : List Kind := [.question, .pipe, .reference, .leftParen, .rightParen]

/-- What types are made of. -/
abbrev TypePart :=
  { t : Token // t.isTypeName = true ∨ t.kind ∈ typeSigns ∧ t.kind.sign? = some t.lexeme.toList }

/-- A default value: an expression without variables that creates no object. -/
structure DefaultText where
  tokens : List Token
  nests : nesting tokens = some []
  constant : ∀ t ∈ tokens, t.isIdentifier = true →
    startsWith t.lexeme '$' = false ∧ t.lexeme ≠ "new"

/-- `[modifiers] [type] [&] [...] $p [= default] [,]`. -/
structure ParameterText where
  modifiers : List Modifier
  type : List TypePart
  nests : nesting (type.map (·.1)) = some []
  reference? : Option (Mark .reference)
  dots? : Option (Mark .dot × Mark .dot × Mark .dot)
  name : Token.Variable
  default? : Option (Mark .equal × DefaultText)
  comma? : Option (Mark .comma)

/-- The names that have a `::` directly behind them, or those that have none. -/
def names (qualifies : Bool) : List Token → List Token
  | [] => []
  | t :: rest =>
    if t.isIdentifier && rest.head?.any (·.kind == .colonColon) == qualifies then
      t :: names qualifies rest
    else names qualifies rest

namespace ParameterText

/-- What stands between the type and the variable. -/
def signs (p : ParameterText) : List Token :=
  p.reference?.toList.map (·.1) ++
    p.dots?.toList.flatMap fun dots => [dots.1.1, dots.2.1.1, dots.2.2.1]

def value (p : ParameterText) : List Token := p.default?.toList.flatMap (·.2.tokens)

def tokens (p : ParameterText) : List Token :=
  p.modifiers.map Modifier.token ++ (p.type.map (·.1) ++ (p.signs ++ p.name.1 ::
    (p.default?.toList.map (·.1.1) ++ (p.value ++ p.comma?.toList.map (·.1)))))

def types (p : ParameterText) : List Token := (p.type.map (·.1)).filter isTypeName

end ParameterText

structure ParameterList where
  opening : Sign .leftParen
  params : List ParameterText
  closing : Mark .rightParen

namespace ParameterList

def list (ps : ParameterList) : List Token := ps.params.flatMap ParameterText.tokens

def tokens (ps : ParameterList) : List Token := ps.opening.1 :: (ps.list ++ [ps.closing.1])

def types (ps : ParameterList) : List Token := ps.params.flatMap ParameterText.types

def values (ps : ParameterList) : List Token := ps.params.flatMap ParameterText.value

/-- The classes whose constants are in default values. -/
def classNames (ps : ParameterList) : List Token := ps.params.flatMap (names true ·.value)

/-- The names of constants in default values. -/
def constantNames (ps : ParameterList) : List Token := ps.params.flatMap (names false ·.value)

/-- The list without its parameters. -/
def empty (ps : ParameterList) : ParameterList := { ps with params := [] }

end ParameterList

/-! ## What is in a list -/

variable {t : Token} {imports : Imports} {left : List Token} {brackets : List Bracket}

theorem mem_names {ts : List Token} :
    t ∈ names true ts ∨ t ∈ names false ts ↔ t ∈ ts ∧ t.isIdentifier = true := by
  induction ts with
  | nil => simp [names]
  | cons u ts ih =>
    simp only [names, List.mem_cons]
    cases hi : u.isIdentifier <;> cases hh : ts.head?.any (·.kind == .colonColon) <;> simp <;> grind

/-- A token that is no bracket, no parameter and no type. -/
structure Quiet (t : Token) : Prop where
  opened : opened? t = none
  closed : closed? t = none
  param : isParam t = false
  type : ∀ imports : Imports, imports.type? t = none

theorem not_isParam_of_sign? {kind : Kind} (h : kind.sign? = some t.lexeme.toList) :
    isParam t = false := by
  have hall : ∀ text, kind.sign? = some text → text.head? ≠ some '$' := by
    intro text
    cases kind <;> rintro ⟨⟩ <;> decide
  simpa [isParam, startsWith] using hall _ h

theorem quiet_mark {kind : Kind} (s : Mark kind) (hi : kind ≠ .identifier)
    (h : kind ∉ Kind.brackets) : Quiet s.1 := by
  obtain ⟨ho, hc⟩ := plain_of_kind s.2.1 h
  exact ⟨ho, hc, not_isParam_of_sign? s.2.2,
    fun _ => type?_of_not_identifier (not_isIdentifier_of_kind s.2.1 hi)⟩

theorem quiet_modifier (m : Modifier) : Quiet m.token := by
  obtain ⟨k, hk, -⟩ := m.keyword?
  obtain ⟨ho, hc⟩ := plain_of_isIdentifier (isIdentifier_of_keyword? hk)
  exact ⟨ho, hc, not_startsWith_of_keyword? hk, fun _ => type?_of_keyword? hk⟩

theorem not_isParam_of_isTypeName (h : t.isTypeName = true) : isParam t = false := by
  have hall : ∀ word ∈ builtInTypes, startsWith word '$' = false := by decide +kernel
  simp only [isTypeName, isBuiltInType, Bool.or_eq_true, Bool.and_eq_true, List.contains_iff_mem,
    Bool.not_eq_true'] at h
  rcases h with ⟨-, hb⟩ | ⟨-, hs⟩
  · exact hall t.lexeme hb
  · exact hs

theorem isTypeName_of_type? {type : String} (h : imports.type? t = some type) :
    t.isTypeName = true := by
  unfold Imports.type? at h
  split at h
  · simp_all [isTypeName]
  · cases h

theorem isIdentifier_of_type? {type : String} (h : imports.type? t = some type) :
    t.isIdentifier = true :=
  isIdentifier_of_isTypeName (isTypeName_of_type? h)

theorem nesting_of_quiet {ts : List Token} (h : ∀ t ∈ ts, Quiet t) : nesting ts = some [] :=
  nesting_of_plain fun t ht => ⟨(h t ht).opened, (h t ht).closed⟩

theorem countP_of_quiet {ts : List Token} (h : ∀ t ∈ ts, Quiet t) : ts.countP isParam = 0 :=
  List.countP_eq_zero.2 fun t ht => by simp [(h t ht).param]

namespace ParameterText

variable {p : ParameterText}

theorem quiet_modifiers : ∀ t ∈ p.modifiers.map Modifier.token, Quiet t := by
  intro t ht
  obtain ⟨m, -, rfl⟩ := List.mem_map.1 ht
  exact quiet_modifier m

theorem quiet_signs : ∀ t ∈ p.signs, Quiet t := by
  intro t ht
  simp only [signs, List.mem_append, List.mem_map, List.mem_flatMap, Option.mem_toList, List.mem_cons,
    List.not_mem_nil, or_false] at ht
  rcases ht with ⟨r, -, rfl⟩ | ⟨dots, -, rfl | rfl | rfl⟩
  · exact quiet_mark r (by decide) (by decide)
  · exact quiet_mark dots.1 (by decide) (by decide)
  · exact quiet_mark dots.2.1 (by decide) (by decide)
  · exact quiet_mark dots.2.2 (by decide) (by decide)

theorem quiet_equal : ∀ t ∈ p.default?.toList.map (·.1.1), Quiet t := by
  intro t ht
  obtain ⟨d, -, rfl⟩ := List.mem_map.1 ht
  exact quiet_mark d.1 (by decide) (by decide)

theorem quiet_comma : ∀ t ∈ p.comma?.toList.map (·.1), Quiet t := by
  intro t ht
  obtain ⟨comma, -, rfl⟩ := List.mem_map.1 ht
  exact quiet_mark comma (by decide) (by decide)

theorem not_isParam_type : ∀ t ∈ p.type.map (·.1), isParam t = false := by
  intro t ht
  obtain ⟨⟨u, hu⟩, -, rfl⟩ := List.mem_map.1 ht
  rcases hu with hn | ⟨-, hs⟩
  · exact not_isParam_of_isTypeName hn
  · exact not_isParam_of_sign? hs

theorem nesting_value (p : ParameterText) : nesting p.value = some [] :=
  nesting_flatMap fun d _ => d.2.nests

/-- A parameter leaves no bracket open. -/
theorem nesting_tokens (p : ParameterText) : nesting p.tokens = some [] := by
  have hname : nesting [p.name.1] = some [] :=
    nesting_of_plain (by simpa using plain_of_isIdentifier p.name.2.1)
  exact nesting_append_of_nesting (nesting_of_quiet quiet_modifiers)
    (nesting_append_of_nesting p.nests (nesting_append_of_nesting (nesting_of_quiet quiet_signs)
      (nesting_append_of_nesting hname (nesting_append_of_nesting (nesting_of_quiet quiet_equal)
        (nesting_append_of_nesting p.nesting_value (nesting_of_quiet quiet_comma))))))

/-- A parameter counts once, and once more for each token of its default value that looks like one. -/
theorem countP_tokens (p : ParameterText) :
    p.tokens.countP isParam = 1 + p.value.countP isParam := by
  have hname : isParam p.name.1 = true := p.name.2.2
  have htype : (p.type.map (·.1)).countP isParam = 0 :=
    List.countP_eq_zero.2 fun t ht => by simp [not_isParam_type t ht]
  simp only [tokens, List.countP_append, List.countP_cons, hname, htype,
    countP_of_quiet quiet_modifiers, countP_of_quiet quiet_signs, countP_of_quiet quiet_equal,
    countP_of_quiet quiet_comma]
  simp
  omega

/-- The tokens that are taken for types: those in the type, and those in the default value. -/
theorem mem_tokens_of_type? {type : String} (h : imports.type? t = some type) :
    t ∈ p.tokens ↔ t ∈ p.types ∨ t ∈ p.value := by
  have hquiet {ts : List Token} (hq : ∀ t ∈ ts, Quiet t) : t ∉ ts := fun ht => by
    cases h.symm.trans ((hq t ht).type imports)
  have hname : t ≠ p.name.1 := by
    rintro rfl
    cases h.symm.trans (type?_of_startsWith p.name.2.2)
  have htypes : t ∈ p.types ↔ t ∈ p.type.map (·.1) := by
    rw [types, List.mem_filter]
    exact and_iff_left (isTypeName_of_type? h)
  rw [htypes]
  simp only [tokens, List.mem_append, List.mem_cons, hquiet quiet_modifiers, hquiet quiet_signs,
    hquiet quiet_equal, hquiet quiet_comma, hname, false_or, or_false]

end ParameterText

namespace ParameterList

variable (ps : ParameterList)

theorem nesting_list : nesting ps.list = some [] :=
  nesting_flatMap fun p _ => p.nesting_tokens

theorem countP_list :
    (ps.list ++ [ps.closing.1]).countP isParam = ps.params.length + ps.values.countP isParam := by
  have hclosing : isParam ps.closing.1 = false := not_isParam_of_sign? ps.closing.2.2
  rw [List.countP_append, List.countP_singleton, hclosing]
  exact countP_flatMap_of_one_more ParameterText.countP_tokens ps.params

theorem mem_list_of_type? {type : String} (h : imports.type? t = some type) :
    t ∈ ps.list ↔ t ∈ ps.types ∨ t ∈ ps.classNames ∨ t ∈ ps.constantNames := by
  have hi := isIdentifier_of_type? h
  have hvalue (p : ParameterText) : t ∈ p.value ↔ t ∈ names true p.value ∨ t ∈ names false p.value :=
    ⟨fun ht => mem_names.2 ⟨ht, hi⟩, fun ht => (mem_names.1 ht).1⟩
  simp only [list, types, classNames, constantNames, List.mem_flatMap,
    ParameterText.mem_tokens_of_type? h, hvalue]
  grind

end ParameterList

/-! ## Methods -/

/-- What stands behind the parameter list of a method. -/
structure MethodEnd where
  returnType? : Option String
  isAbstract : Bool
  statements : List Statement

/-- Reads a method behind its parameter list. -/
def methodEnd (imports : Imports) : Read MethodEnd := do
  let returnType? ← returnType imports
  let outside ← depth
  let t ← next
  let statements ← if t.kind == .semicolon then pure [] else body outside
  pure ⟨returnType?, t.kind == .semicolon, statements⟩

/-- The method with a name, a parameter list and what stands behind it. -/
def MethodEnd.method (imports : Imports) (v : Visibility) (name : Name) (ps : ParameterList)
    (e : MethodEnd) : Member :=
  Signature.method imports v ⟨name.1, ps.list ++ [ps.closing.1], e.returnType?⟩ e.isAbstract
    e.statements

/-- **What stands behind a parameter list is read whatever is in the list.** -/
theorem method_list (imports : Imports) (v : Visibility) (name : Name) (ps : ParameterList)
    (left : List Token) (brackets : List Bracket) :
    method imports v ⟨name.1 :: (ps.tokens ++ left), brackets⟩ =
      (MethodEnd.method imports v name ps <$> methodEnd imports) ⟨left, brackets⟩ := by
  have htokens : ps.tokens ++ left = ps.opening.1 :: (ps.list ++ ps.closing.1 :: left) := by
    simp [ParameterList.tokens]
  rw [htokens, method, bind_run (next_name name.2), bind_run depth_run,
    bind_run (next_opening_of_kind .paren ps.opening.2),
    bind_run (takeToDepth_nested ps.nesting_list ps.closing.2.1), map_eq_pure_bind, methodEnd]
  simp only [bind_assoc, pure_bind]
  refine congrFun (congrArg _ (funext fun returnType? => congrArg _ (funext fun outside =>
    congrArg _ (funext fun t => ?_)))) _
  split
  · rfl
  · simp only [bind_assoc, pure_bind]
    rfl

theorem method_list_eq_ok {v : Visibility} {name : Name} {ps : ParameterList} {m : Member}
    {rest : Tape} (h : method imports v ⟨name.1 :: (ps.tokens ++ left), brackets⟩ = .ok m rest) :
    ∃ e : MethodEnd, m = e.method imports v name ps ∧ ∀ qs : ParameterList,
      method imports v ⟨name.1 :: (qs.tokens ++ left), brackets⟩ =
        .ok (e.method imports v name qs) rest := by
  rw [method_list, map_eq_pure_bind] at h
  obtain ⟨e, middle, he, h⟩ := bind_eq_ok h
  cases h
  exact ⟨e, rfl, fun qs => by rw [method_list, map_run _ he]⟩

/-! ## How many parameters there are -/

theorem MethodEnd.method?_eq (imports : Imports) (v : Visibility) (name : Name) (ps : ParameterList)
    (e : MethodEnd) : (e.method imports v name ps).method? = some
      { name := name.1.lexeme
        statements := e.statements
        params := ps.params.length + ps.values.countP isParam
        returnType? := e.returnType?
        visibility := v
        isAbstract := e.isAbstract } := by
  simp [MethodEnd.method, Signature.method, ps.countP_list]

/-- In a default value, only literals can look like parameters. -/
theorem countP_values_eq_zero_iff (ps : ParameterList) : ps.values.countP isParam = 0 ↔
    ∀ t ∈ ps.values, t.isIdentifier = false → isParam t = false := by
  rw [List.countP_eq_zero]
  refine ⟨fun h t ht _ => by simpa using h t ht, fun h t ht => ?_⟩
  cases hi : t.isIdentifier with
  | false => simp [h t ht hi]
  | true =>
    simp only [ParameterList.values, ParameterText.value, List.mem_flatMap] at ht
    obtain ⟨p, -, d, -, ht⟩ := ht
    have hconstant : isParam t = false := (d.2.constant t ht hi).1
    simp [hconstant]

/-- **A method has as many parameters as its list, and one more for each literal in a default value that
starts with a dollar.** Any other list in its place is read, too, and changes nothing else of the
method. -/
theorem params_of_method {v : Visibility} {name : Name} {ps : ParameterList} {m : Member} {rest : Tape}
    (h : method imports v ⟨name.1 :: (ps.tokens ++ left), brackets⟩ = .ok m rest) :
    ∃ f, m.method? = some f ∧ f.params = ps.params.length + ps.values.countP isParam ∧
      (f.params = ps.params.length ↔
        ∀ t ∈ ps.values, t.isIdentifier = false → isParam t = false) ∧
      ∀ qs : ParameterList, ∃ m',
        method imports v ⟨name.1 :: (qs.tokens ++ left), brackets⟩ = .ok m' rest ∧
        m'.method? = some { f with params := qs.params.length + qs.values.countP isParam } := by
  obtain ⟨e, rfl, hothers⟩ := method_list_eq_ok h
  refine ⟨_, e.method?_eq imports v name ps, rfl, ?_, fun qs => ⟨_, hothers qs, ?_⟩⟩
  · rw [← countP_values_eq_zero_iff]
    dsimp only
    omega
  · exact e.method?_eq imports v name qs

def equalMark : Mark .equal := ⟨⟨.equal, 1, "="⟩, rfl, rfl⟩

/-- `type $x = default`. -/
def parameterX (type : List TypePart) (h : nesting (type.map (·.1)) = some []) (d : DefaultText) :
    ParameterText :=
  ⟨[], type, h, none, none, variableName "$x" rfl, some (equalMark, d), none⟩

def listOf (params : List ParameterText) : ParameterList :=
  ⟨sign .leftParen "(", params, ⟨⟨.rightParen, 1, ")"⟩, rfl, rfl⟩⟩

/-- `$x = 'text'`. -/
def literalX (text : String) : ParameterText :=
  parameterX [] rfl ⟨[⟨.string, 1, text⟩], rfl, by
    intro t ht hi
    obtain rfl := List.mem_singleton.1 ht
    cases hi⟩

/-- A text that starts with a dollar is a parameter more; any other is none. -/
theorem params_of_method_of_literalX :
    ∃ m rest f, method {} .public_ ⟨(name "f").1 :: ((listOf [literalX "y"]).tokens ++ restOfF.drop 3),
        [.brace]⟩ = .ok m rest ∧ m.method? = some f ∧ f.params = 1 ∧
      ∃ m', method {} .public_ ⟨(name "f").1 :: ((listOf [literalX "$y"]).tokens ++ restOfF.drop 3),
        [.brace]⟩ = .ok m' rest ∧ m'.method? = some { f with params := 2 } := by
  obtain ⟨m, rest, hread⟩ : ∃ m rest, method {} .public_
      ⟨(name "f").1 :: ((listOf [literalX "y"]).tokens ++ restOfF.drop 3), [.brace]⟩ = .ok m rest :=
    ⟨_, _, rfl⟩
  obtain ⟨f, hf, hcount, -, hothers⟩ := params_of_method hread
  obtain ⟨m', hm', hf'⟩ := hothers (listOf [literalX "$y"])
  exact ⟨m, rest, f, hread, hf, hcount, m', hm', hf'⟩

/-- The number of parameters is not that of the declared ones. -/
theorem not_forall_params_eq_length :
    ¬ ∀ (imports : Imports) (v : Visibility) (name : Name) (ps : ParameterList) (left : List Token)
      (brackets : List Bracket) (m : Member) (rest : Tape) (f : Method),
      method imports v ⟨name.1 :: (ps.tokens ++ left), brackets⟩ = .ok m rest → m.method? = some f →
      f.params = ps.params.length := by
  intro h
  have heq := h {} .public_ (name "f") (listOf [literalX "$y"]) (restOfF.drop 3) [.brace] _ _ _ rfl rfl
  revert heq
  decide

/-! ## What a class depends on -/

/-- A class that mentions `t` as a type depends on the name. -/
def Records (imports : Imports) (t : Token) (name : String) : Prop :=
  ∃ type, imports.type? t = some type ∧ Class.isDependencyName type = true ∧
    imports.realName type = name

theorem types_method (imports : Imports) (v : Visibility) (name : Name) (ps : ParameterList)
    (e : MethodEnd) : (e.method imports v name ps).types = ps.list.filterMap imports.type? := by
  have hclosing : imports.type? ps.closing.1 = none :=
    type?_of_not_identifier (not_isIdentifier_of_kind ps.closing.2.1 (by decide))
  rw [MethodEnd.method, Signature.method, filterMap_type?_filter, List.filterMap_append]
  simp [hclosing]

/-- Adding a method records what its list mentions, and what is recorded without the list. -/
theorem mem_dependencies_method (d : Class) (v : Visibility) (name : Name) (ps : ParameterList)
    (e : MethodEnd) (n : String) :
    n ∈ ((e.method imports v name ps).addTo d).dependencies ↔
      n ∈ ((e.method imports v name ps.empty).addTo d).dependencies ∨
        Class.isDependencyName n = true ∧ ∃ t ∈ ps.list, imports.type? t = some n := by
  have hreturn (qs : ParameterList) : ((e.method imports v name qs).method?.bind
      Method.returnType?).toList = e.returnType?.toList := rfl
  have hempty : ps.empty.list = [] := rfl
  simp only [dependencies_addTo, Class.mem_foldl_offer, Member.offered, types_method, hreturn, hempty,
    List.mem_append, List.mem_filterMap]
  simp only [List.not_mem_nil, false_and, exists_false, false_or]
  constructor
  · rintro (hd | ⟨ht | hr, hc⟩)
    · exact .inl (.inl hd)
    · exact .inr ⟨hc, ht⟩
    · exact .inl (.inr ⟨hr, hc⟩)
  · rintro ((hd | ⟨hr, hc⟩) | ⟨hc, ht⟩)
    · exact .inl hd
    · exact .inr ⟨.inr hr, hc⟩
    · exact .inr ⟨.inl ht, hc⟩

/-- What a list mentions is recorded for its types, or for what default values name. -/
theorem recorded_list (ps : ParameterList) (d : String) :
    (∃ n, (Class.isDependencyName n = true ∧ ∃ t ∈ ps.list, imports.type? t = some n) ∧
        imports.realName n = d) ↔
      (∃ t ∈ ps.types, Records imports t d) ∨ (∃ t ∈ ps.classNames, Records imports t d) ∨
        ∃ t ∈ ps.constantNames, Records imports t d := by
  constructor
  · rintro ⟨n, ⟨hcap, t, ht, htype⟩, hreal⟩
    have hrecords : Records imports t d := ⟨n, htype, hcap, hreal⟩
    rcases (ps.mem_list_of_type? htype).1 ht with ht | ht | ht
    · exact .inl ⟨t, ht, hrecords⟩
    · exact .inr (.inl ⟨t, ht, hrecords⟩)
    · exact .inr (.inr ⟨t, ht, hrecords⟩)
  · have hlist {t : Token} (ht : t ∈ ps.types ∨ t ∈ ps.classNames ∨ t ∈ ps.constantNames)
        (hr : Records imports t d) : ∃ n, (Class.isDependencyName n = true ∧
          ∃ t ∈ ps.list, imports.type? t = some n) ∧ imports.realName n = d := by
      obtain ⟨n, htype, hcap, hreal⟩ := hr
      exact ⟨n, ⟨hcap, t, (ps.mem_list_of_type? htype).2 ht, htype⟩, hreal⟩
    rintro (⟨t, ht, hr⟩ | ⟨t, ht, hr⟩ | ⟨t, ht, hr⟩)
    · exact hlist (.inl ht) hr
    · exact hlist (.inr (.inl ht)) hr
    · exact hlist (.inr (.inr ht)) hr

/-- **A class depends on the types of its parameters, and on what default values name.** A method with a
parameter list adds to the class that has the method without parameters just these names: those that
the types of the list stand for, those of the classes whose constants are in default values, and those
that other constants stand for as if they were types. Constants add nothing exactly if their names are
recorded without them. -/
theorem dependencies_of_parameters {p : Place} {before : List Token} (hp : p.StandsBehind before)
    (hi : p.Inside) {ms : List Modifier} (hm : OfMethod ms) (fn : Reserved .function_) (name : Name)
    (ps : ParameterList) {c : Class} {state : State}
    (hc : file (before ++ (ms.map Modifier.token ++ fn.1 :: name.1 :: (ps.tokens ++ left))) =
      .ok (some c) state) :
    ∃ c₀, file (before ++ (ms.map Modifier.token ++ fn.1 :: name.1 :: (ps.empty.tokens ++ left))) =
        .ok (some c₀) state ∧
      (∀ d, d ∈ c.dependencies ↔ d ∈ c₀.dependencies ∨ (∃ t ∈ ps.types, Records p.imports t d) ∨
        (∃ t ∈ ps.classNames, Records p.imports t d) ∨
        ∃ t ∈ ps.constantNames, Records p.imports t d) ∧
      ((∀ d ∈ c.dependencies, d ∈ c₀.dependencies ∨ (∃ t ∈ ps.types, Records p.imports t d) ∨
          ∃ t ∈ ps.classNames, Records p.imports t d) ↔
        ∀ t ∈ ps.constantNames, ∀ d, Records p.imports t d → d ∈ c₀.dependencies ∨
          (∃ t ∈ ps.types, Records p.imports t d) ∨
          ∃ t ∈ ps.classNames, Records p.imports t d) := by
  rw [hp] at hc
  obtain ⟨m, rest, opened, hread, hc⟩ := hm.exists_method hi fn hc
  obtain ⟨e, rfl, hothers⟩ := method_list_eq_ok hread
  obtain ⟨c₀, hc₀, hmem⟩ := Place.resume_without (mem_dependencies_method p.soFar _ name ps e) hc
  have hexact (d : String) : d ∈ c.dependencies ↔ d ∈ c₀.dependencies ∨
      (∃ t ∈ ps.types, Records p.imports t d) ∨ (∃ t ∈ ps.classNames, Records p.imports t d) ∨
      ∃ t ∈ ps.constantNames, Records p.imports t d := by
    rw [hmem, recorded_list]
  refine ⟨c₀, ?_, hexact, ?_⟩
  · rw [hp, hm.resume_method hi fn (hothers ps.empty)]
    exact hc₀
  · simp only [hexact]
    grind

/-- `T $x = X::class`. -/
def classX : ParameterText :=
  parameterX [⟨typeT.name.1, .inl typeT.name.2⟩] rfl
    ⟨[⟨.identifier, 1, "X"⟩, ⟨.colonColon, 1, "::"⟩, ⟨.identifier, 1, "class"⟩], rfl, by decide⟩

/-- `int $x = LIMIT`. -/
def limitX : ParameterText :=
  parameterX [⟨(name "int").1, .inl (by decide +kernel)⟩] rfl
    ⟨[⟨.identifier, 1, "LIMIT"⟩], rfl, by decide⟩

theorem dependencies_of_parameters_of_classX :
    insideA.StandsBehind openingOfA ∧ insideA.Inside ∧ OfMethod [privateWord] ∧
      ∃ c state, file (openingOfA ++ ([privateWord].map Modifier.token ++ (reserved .function_).1 ::
          (name "f").1 :: ((listOf [classX]).tokens ++ restOfF.drop 3))) = .ok (some c) state ∧
        "N\\T" ∈ c.dependencies ∧ "N\\X" ∈ c.dependencies := by
  have hm : OfMethod [privateWord] := ⟨by decide, by decide⟩
  obtain ⟨c, state, hc⟩ : ∃ c state, file (openingOfA ++ ([privateWord].map Modifier.token ++
      (reserved .function_).1 :: (name "f").1 :: ((listOf [classX]).tokens ++ restOfF.drop 3))) =
        .ok (some c) state := exists_class_of_isSome (by decide +kernel)
  obtain ⟨c₀, -, hexact, -⟩ := dependencies_of_parameters insideA_standsBehind insideA_inside hm
    (reserved .function_) (name "f") (listOf [classX]) hc
  refine ⟨insideA_standsBehind, insideA_inside, hm, c, state, hc, (hexact _).2 (.inr (.inl ?_)),
    (hexact _).2 (.inr (.inr (.inl ?_)))⟩
  · exact ⟨⟨.identifier, 1, "T"⟩, by decide +kernel, "N\\T", by decide +kernel, by decide +kernel, rfl⟩
  · exact ⟨⟨.identifier, 1, "X"⟩, by decide +kernel, "N\\X", by decide +kernel, by decide +kernel, rfl⟩

/-- Constants of default values are recorded as if they were types. -/
theorem not_forall_dependencies_of_parameters :
    ¬ ∀ (before left : List Token) (ms : List Modifier) (fn : Reserved .function_) (name : Name)
      (ps : ParameterList) (c c₀ : Class) (state : State),
      file (before ++ (ms.map Modifier.token ++ fn.1 :: name.1 :: (ps.tokens ++ left))) =
        .ok (some c) state →
      file (before ++ (ms.map Modifier.token ++ fn.1 :: name.1 :: (ps.empty.tokens ++ left))) =
        .ok (some c₀) state →
      ∀ d ∈ c.dependencies, d ∈ c₀.dependencies ∨ (∃ t ∈ ps.types, Records state.imports t d) ∨
        ∃ t ∈ ps.classNames, Records state.imports t d := by
  intro h
  have hlimit : (classRead? (file (openingOfA ++ ([privateWord].map Modifier.token ++
      (reserved .function_).1 :: (name "f").1 :: ((listOf [limitX]).tokens ++ restOfF.drop 3))))).map
        (fun read => (read.1.dependencies, read.2)) =
      some (["N\\LIMIT"], ⟨⟨[], []⟩, { base := "N" }⟩) := by decide +kernel
  have hempty : (classRead? (file (openingOfA ++ ([privateWord].map Modifier.token ++
      (reserved .function_).1 :: (name "f").1 :: ((listOf [limitX]).empty.tokens ++
        restOfF.drop 3))))).map (fun read => (read.1.dependencies, read.2)) =
      some ([], ⟨⟨[], []⟩, { base := "N" }⟩) := by decide +kernel
  obtain ⟨⟨c, state⟩, hc, hlimit⟩ := Option.map_eq_some_iff.1 hlimit
  obtain ⟨⟨c₀, state₀⟩, hc₀, hempty⟩ := Option.map_eq_some_iff.1 hempty
  obtain ⟨hd, rfl⟩ : c.dependencies = _ ∧ state = _ := Prod.mk.inj hlimit
  obtain ⟨hd₀, rfl⟩ : c₀.dependencies = _ ∧ state₀ = _ := Prod.mk.inj hempty
  have htypes : (listOf [limitX]).types = [⟨.identifier, 1, "int"⟩] := by decide +kernel
  have hclasses : (listOf [limitX]).classNames = [] := by decide +kernel
  rcases h _ _ _ _ _ _ c c₀ _ (eq_of_classRead? hc) (eq_of_classRead? hc₀) "N\\LIMIT" (by simp [hd])
    with hmem | ⟨t, ht, type, htype, -⟩ | ⟨t, ht, -⟩
  · simp [hd₀] at hmem
  · rw [htypes, List.mem_singleton] at ht
    rw [ht, type?_of_isBuiltInType (by decide +kernel)] at htype
    cases htype
  · simp [hclasses] at ht

end Cyclomatic.Reading
