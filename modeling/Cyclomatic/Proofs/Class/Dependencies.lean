import Cyclomatic.Class
import Cyclomatic.Proofs.Keyed

/-!
# How dependencies grow

A class is offered names one after the other. `foldl_offer`: what comes of it are the dependencies
that it has, followed by the first occurrences of the offered names that can be dependencies and are
not among those. So offers keep dependencies clean (`Clean.foldl_offer`), and up to their order they
depend only on which names are offered (`mem_foldl_offer`).
-/

set_option autoImplicit false

namespace Cyclomatic.Class

variable {name : String} {dependencies names : List String}

/-- No name stands twice, and all of them start with a capital. -/
structure Clean (dependencies : List String) : Prop where
  nodup : dependencies.Nodup
  capital : ∀ name ∈ dependencies, isDependencyName name = true

/-- Names that are no dependency's are refused, and the others are noted. -/
theorem offer_eq_note (dependencies : List String) (name : String) :
    offer dependencies name =
      if isDependencyName name then note dependencies name else dependencies := by
  cases hc : isDependencyName name <;> by_cases hm : name ∈ dependencies <;>
    simp [offer, note, hc, hm]

theorem foldl_offer_eq_note (dependencies names : List String) :
    names.foldl offer dependencies = (names.filter isDependencyName).foldl note dependencies := by
  rw [List.foldl_filter, funext fun dependencies => funext (offer_eq_note dependencies)]

/-- **The dependencies after some offers**: the names that are new and start with a capital are put
at the end, each where it is offered first. -/
theorem foldl_offer (dependencies names : List String) :
    names.foldl offer dependencies =
      dependencies ++ ((names.filter isDependencyName).removeAll dependencies).eraseDups := by
  rw [foldl_offer_eq_note, foldl_note]

theorem foldl_offer_nil (names : List String) :
    names.foldl offer [] = (names.filter isDependencyName).eraseDups := by
  rw [foldl_offer_eq_note, foldl_note_nil]

theorem mem_foldl_offer :
    name ∈ names.foldl offer dependencies ↔
      name ∈ dependencies ∨ name ∈ names ∧ isDependencyName name = true := by
  rw [foldl_offer_eq_note, mem_foldl_note, List.mem_filter]

theorem nodup_foldl_offer (h : dependencies.Nodup) (names : List String) :
    (names.foldl offer dependencies).Nodup := by
  rw [foldl_offer_eq_note]
  exact nodup_foldl_note h _

theorem clean_nil : Clean [] := ⟨List.nodup_nil, by simp⟩

theorem Clean.foldl_offer (h : Clean dependencies) (names : List String) :
    Clean (names.foldl Class.offer dependencies) where
  nodup := nodup_foldl_offer h.nodup names
  capital name hn := (mem_foldl_offer.1 hn).elim (h.capital name) (·.2)

end Cyclomatic.Class
