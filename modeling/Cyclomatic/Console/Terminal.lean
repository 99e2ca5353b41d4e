import Cyclomatic.Console.Markup
import Cyclomatic.Console.Table

/-!
# Terminals

What the console is written with. A `Terminal` escapes messages, reads markup, and breaks and aligns
lines in its own way; the texts that it gives are what is seen, without colours. `wide` is one that is
wide enough for every line.
-/

set_option autoImplicit false

namespace Cyclomatic.Console

/-- What the console is written with. -/
class Terminal where
  /-- Writes a message so that its brackets are no tags. -/
  escape : String → String
  /-- What is seen of a markup, with the end of its line. -/
  render : String → String
  /-- What is seen of a text that is no markup, with the end of its line. -/
  line : String → String
  /-- A table of two columns without a border. -/
  plainTable : List (String × String) → String
  /-- A table of two columns in a box, below a header. -/
  boxedTable : String × String → List (String × String) → String

/-- A terminal on which no line is broken. -/
instance wide : Terminal where
  escape := Markup.escape
  render markup := Markup.shown markup ++ "\n"
  line s := s ++ "\n"
  plainTable := Table.plain
  boxedTable := Table.boxed

end Cyclomatic.Console
