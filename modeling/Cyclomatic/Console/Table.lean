/-!
# Tables

Two columns, the first one aligned left and the second one right. `plain` separates them by blanks,
and `boxed` draws a box around them, with a header.
-/

set_option autoImplicit false

namespace Cyclomatic.Console.Table

/-- A row of two cells. -/
abbrev Row := String × String

/-- The width of the first column. -/
def leftWidth (rows : List Row) : Nat := (rows.map (·.1.length)).max?.getD 0

/-- The width of the second column. -/
def rightWidth (rows : List Row) : Nat := (rows.map (·.2.length)).max?.getD 0

/-- The same character so many times. -/
def fill (c : Char) (n : Nat) : String := String.ofList (List.replicate n c)

/-- A cell filled up to `width` at its right. -/
def alignLeft (width : Nat) (s : String) : String := s ++ fill ' ' (width - s.length)

/-- A cell filled up to `width` at its left. -/
def alignRight (width : Nat) (s : String) : String := fill ' ' (width - s.length) ++ s

/-- Rows between two blank lines. -/
def plain (rows : List Row) : String :=
  let left := leftWidth rows
  let right := rightWidth rows
  let blank := fill ' ' (2 + left + 3 + right + 2) ++ "\n"
  let row (r : Row) : String :=
    "  " ++ alignLeft left r.1 ++ "   " ++ alignRight right r.2 ++ "  \n"
  blank ++ String.join (rows.map row) ++ blank

/-- A header and rows in a box. -/
def boxed (header : Row) (rows : List Row) : String :=
  let left := leftWidth (header :: rows)
  let right := rightWidth (header :: rows)
  let edge (start middle finish : String) : String :=
    start ++ fill '─' (left + 2) ++ middle ++ fill '─' (right + 2) ++ finish ++ "\n"
  let row (r : Row) : String :=
    "│ " ++ alignLeft left r.1 ++ " │ " ++ alignRight right r.2 ++ " │\n"
  edge "╭" "┬" "╮" ++ row header ++ edge "├" "┼" "┤" ++ String.join (rows.map row)
    ++ edge "╰" "┴" "╯"

end Cyclomatic.Console.Table
