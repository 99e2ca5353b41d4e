import Cyclomatic.Proofs.Project.Intake
import Cyclomatic.Proofs.Reading.Origins
import Cyclomatic.Proofs.Token.Lines

/-!
# The lines of statements

The line that is reported for a statement is one of the file's, its keyword stands on that line, and
within a method the lines never decrease (`finding_pointsInto`): the statements come from tokens of the
text in their order (`Class.sublist_of_ofTokens`), and tokens stand on their lines
(`Token.standsOn_of_mem`).
-/

set_option autoImplicit false

namespace Cyclomatic

/-- The lines of the method's statements are lines of a text, of which `lines` are counted. -/
structure Method.PointsInto (text : String) (lines : Int) (m : Method) : Prop where
  /-- A statement is not on a line before those that it comes after. -/
  ordered : (Statement.withNestedOfAll m.statements).Pairwise (·.line ≤ ·.line)
  line_le : ∀ s ∈ Statement.withNestedOfAll m.statements, s.line ≤ lines
  /-- The keyword is on the line. -/
  standsOn : ∀ s ∈ Statement.withNestedOfAll m.statements,
    Token.StandsOn text.toList s.keyword.spelling.toList s.line

namespace Source

theorem line_le_of_getLast? {tokens : List Token} {t last : Token}
    (h : tokens.Pairwise (·.line ≤ ·.line)) (hl : tokens.getLast? = some last) (ht : t ∈ tokens) :
    t.line ≤ last.line := by
  obtain ⟨before, rfl⟩ := List.getLast?_eq_some_iff.1 hl
  rw [List.pairwise_append] at h
  rcases List.mem_append.1 ht with ht | ht
  · exact h.2.2 t ht last List.mem_cons_self
  · obtain rfl := List.mem_singleton.1 ht
    exact Int.le_refl _

theorem tokens_ne_nil {tokens : List Token} {c : Class}
    (h : Class.ofTokens tokens = .ok (some c)) : tokens ≠ [] := by
  rintro rfl
  have hnone : Class.ofTokens [] = .ok none := by
    rw [Class.ofTokens, Reading.file, Reading.fileFrom]
    rfl
  cases h.symm.trans hnone

variable {source : Source} {tokens : List Token} {c : Class}

/-- **Reported lines point at the code.** If a text has tokens that declare a class, the file's lines
end with its last token, within the text; and each statement of each method, however deep it is
nested, is on one of these lines, which has its keyword, and on none before those of the statements that
it comes after. -/
theorem finding_pointsInto (ht : Token.ofText source.content = .ok tokens)
    (hc : Class.ofTokens tokens = .ok (some c)) :
    ∃ f, source.finding = .file f ∧ f.declared = c ∧
      tokens.getLast?.map (·.line) = some f.lines ∧
      f.lines ≤ (1 + source.content.toList.count '\n' : Nat) ∧
      ∀ m ∈ c.methods, m.PointsInto source.content f.lines := by
  obtain ⟨hpair, hall⟩ := Token.lines_ofText ht
  obtain ⟨last, hlast⟩ : ∃ last, tokens.getLast? = some last :=
    Option.isSome_iff_exists.1 (by simp [tokens_ne_nil hc])
  have hlines : lastLine tokens = last.line := by simp [lastLine, hlast]
  refine ⟨_, finding_eq_file.2 (.intro ht hc), rfl, by simp [hlast, hlines], ?_, fun m hm => ?_⟩
  · rw [hlines]
    exact (hall last (List.mem_of_getLast? hlast)).2
  · have hsub := Class.sublist_of_ofTokens hc m hm
    have hword {s : Statement} (hs : s ∈ Statement.withNestedOfAll m.statements) :
        s.word ∈ tokens := hsub.subset (List.mem_map_of_mem hs)
    constructor
    · have hordered := hpair.sublist hsub
      rwa [Statement.wordsOfAll, List.pairwise_map] at hordered
    · intro s hs
      rw [hlines]
      exact line_le_of_getLast? hpair hlast (hword hs)
    · intro s hs
      exact Token.standsOn_of_mem ht (hword hs) rfl

/-- A comment, a string and a switch run over the ends of lines; a comment is behind the class. -/
def runningOver : Source where
  path := "a.php"
  content :=
    "class A \x7b /*\n*/ function f() \x7b switch ('\n') \x7b\nif (1) e(); \x7d throw 2; \x7d \x7d\n//"

theorem finding_pointsInto_of_runningOver :
    ∃ tokens c, Token.ofText runningOver.content = .ok tokens ∧
      Class.ofTokens tokens = .ok (some c) ∧
      c.methods.map (fun m => (Statement.wordsOfAll m.statements).map fun t => (t.lexeme, t.line)) =
        [[("switch", 2), ("if", 4), ("throw", 4)]] ∧
      ∃ f, runningOver.finding = .file f ∧ f.declared = c ∧
        tokens.getLast?.map (·.line) = some f.lines ∧
        f.lines ≤ (1 + runningOver.content.toList.count '\n' : Nat) ∧
        ∀ m ∈ c.methods, m.PointsInto runningOver.content f.lines := by
  have h : (Reading.classOf? runningOver.content).map (fun read =>
        read.2.methods.map fun m => (Statement.wordsOfAll m.statements).map fun t =>
          (t.lexeme, t.line)) = some [[("switch", 2), ("if", 4), ("throw", 4)]] := by
    decide +kernel
  obtain ⟨⟨tokens, c⟩, hr, hlines⟩ := Option.map_eq_some_iff.1 h
  obtain ⟨ht, hc⟩ := Reading.eq_of_classOf? hr
  exact ⟨tokens, c, ht, hc, hlines, finding_pointsInto ht hc⟩

end Source

end Cyclomatic
