import Cyclomatic.Keyed
import Cyclomatic.Token

/-!
# Token profiles

How often each kind of token occurs in a source, the kinds in the order of their first appearance.
-/

set_option autoImplicit false

namespace Cyclomatic.Token

/-- Kinds with their counts, each kind once, in the order of first appearance. -/
abbrev Profile := List (Kind × Int)

namespace Profile

/-- Counts one more token of a kind. -/
def add (kind : Kind) (p : Profile) : Profile := Keyed.update kind (fun n? => n?.getD 0 + 1) p

/-- The profile of a list of tokens. -/
def ofTokens (tokens : List Token) : Profile := tokens.foldl (fun p t => p.add t.kind) []

/-- How many tokens were counted. -/
def total : Profile → Int
  | [] => 0
  | (_, n) :: rest => n + total rest

/-- The kinds by descending count; kinds of equal count stay in the order of first appearance. -/
def mostCommon (p : Profile) : Profile := p.mergeSort fun a b => b.2 ≤ a.2

end Profile

end Cyclomatic.Token
