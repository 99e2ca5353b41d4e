/-!
# Keyed lists

Lists of pairs in which each key stands once, in the order in which the keys were first used.
`update` is the only way in which they grow: `keys_update` says that it keeps the keys in order and
puts a new one at the end, and `lookup_update` that it changes the value of no other key.
-/

set_option autoImplicit false

namespace Cyclomatic.Keyed

variable {κ α : Type} [DecidableEq κ]

/-- Gives `key` the value that `f` makes of its old one; a new key is put at the end. -/
def update (key : κ) (f : Option α → α) : List (κ × α) → List (κ × α)
  | [] => [(key, f none)]
  | (k, a) :: rest => if k = key then (k, f (some a)) :: rest else (k, a) :: update key f rest

/-- Puts `value` under `key`: in place if the key is there, else at the end. -/
def put (key : κ) (value : α) (entries : List (κ × α)) : List (κ × α) :=
  update key (fun _ => value) entries

/-- Puts the pairs of the second list into the first one, one after the other. -/
def merge (entries more : List (κ × α)) : List (κ × α) :=
  more.foldl (fun all (key, value) => put key value all) entries

/-- A known key stays in its place, and a new one is put at the end. -/
theorem keys_update (key : κ) (f : Option α → α) (entries : List (κ × α)) :
    (update key f entries).map (·.1) =
      if key ∈ entries.map (·.1) then entries.map (·.1) else entries.map (·.1) ++ [key] := by
  induction entries with
  | nil => simp [update]
  | cons entry rest ih =>
    obtain ⟨k, a⟩ := entry
    by_cases hk : k = key
    · simp [update, hk]
    · have hk' : ¬ key = k := fun h => hk h.symm
      simp only [update, hk, if_false, List.map_cons, ih, List.mem_cons, hk', false_or]
      split <;> simp

/-- Only the value of `key` changes. -/
theorem lookup_update (key other : κ) (f : Option α → α) (entries : List (κ × α)) :
    (update key f entries).lookup other =
      if other = key then some (f (entries.lookup key)) else entries.lookup other := by
  induction entries with
  | nil => by_cases h : other = key <;> simp [update, List.lookup_cons, h, beq_false_of_ne]
  | cons entry rest ih =>
    obtain ⟨k, a⟩ := entry
    by_cases hk : k = key
    · subst hk
      by_cases h : other = k <;> simp [update, List.lookup_cons, h, beq_false_of_ne]
    · by_cases h : other = key
      · subst h
        have hk' : (other == k) = false := beq_false_of_ne fun e => hk e.symm
        simp [update, hk, List.lookup_cons, ih, hk']
      · cases hb : other == k <;> simp [update, hk, List.lookup_cons, ih, h, hb]

end Cyclomatic.Keyed
