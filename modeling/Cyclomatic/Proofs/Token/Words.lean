import Cyclomatic.Class.Statement
import Cyclomatic.Token.Keyword

/-!
# Keywords and their spellings

Each keyword is the only meaning of its spelling, and apart from `bool`, which the two truth values
stand for as well, its spelling is the only word for it (`ofWord?_eq_some`).
-/

set_option autoImplicit false

namespace Cyclomatic

/-- The keyword that a decision is written with. -/
def Decision.keyword : Decision → Keyword
  | .if_ => .if_
  | .elseif_ => .elseif_
  | .for_ => .for_
  | .foreach_ => .foreach_
  | .throw_ => .throw_
  | .catch_ => .catch_

/-- The keyword that a choice is written with. -/
def Choice.keyword : Choice → Keyword
  | .switch_ => .switch_
  | .match_ => .match_

end Cyclomatic

namespace Cyclomatic.Keyword

theorem spelling_of_ofWord? {word : String} {k : Keyword} (h : ofWord? word = some k) :
    word = k.spelling ∨ k = .bool_ ∧ (word = "true" ∨ word = "false") := by
  unfold ofWord? at h
  split at h
  · rename_i hw
    cases h
    exact .inr ⟨rfl, by simpa using hw⟩
  · have hs := List.find?_some h
    exact .inl (by simpa using (beq_iff_eq.1 hs).symm)

theorem ofWord?_spelling (k : Keyword) : ofWord? k.spelling = some k := by
  cases k <;> rfl

theorem ofWord?_eq_some {word : String} {k : Keyword} (hk : k ≠ .bool_) :
    ofWord? word = some k ↔ word = k.spelling := by
  constructor
  · intro h
    rcases spelling_of_ofWord? h with hs | ⟨hb, -⟩
    · exact hs
    · exact absurd hb hk
  · rintro rfl
    exact ofWord?_spelling k

/-- An identifier that is spelled like a keyword is it. -/
theorem keyword?_spelling (k : Keyword) (line : Int) :
    (⟨.identifier, line, k.spelling⟩ : Token).keyword? = some k :=
  ofWord?_spelling k

end Cyclomatic.Keyword
