import Cyclomatic.Template.Place

/-!
# Templates

A template is a text with places that named members fill. A place starts with a percent sign and
ends with a letter; between them may stand, in this order, a name in parentheses, flags, a width,
a point with a precision, and a letter for a size, which means nothing. Two percent signs stand for
one. `pieces` divides a template and `fill` fills it.

A place with a name takes the member of that name. A place without one takes the subject of the
place before, and the first place all members together; but every subject can be taken only once,
and a star for a width or a precision takes it, too.
-/

set_option autoImplicit false

namespace Cyclomatic.Template

/-! ## Reading -/

/-- A width or a precision as it is written. -/
inductive Measure where
  | unset
  | count (n : Nat)
  /-- A star, for which the subject stands in. -/
  | star
  deriving DecidableEq, Repr

/-- A place as it is written. -/
structure Place where
  /-- The name of the member that it takes. -/
  name? : Option String
  flags : Flags
  width : Measure
  /-- Its precision; an empty one is zero. -/
  precision : Measure
  /-- The letter at its end, with its position; none if the template ends before. -/
  letter? : Option (Char × Nat)
  deriving DecidableEq, Repr

/-- A piece of a template. -/
inductive Piece where
  | character (c : Char)
  | place (p : Place)
  | nameOpen
  deriving DecidableEq, Repr

/-- A name up to the parenthesis that closes it, and what follows; `depth` more parentheses are open
inside of it. -/
def name? (depth : Nat) : List Char → Option (List Char × List Char)
  | [] => none
  | c :: rest =>
    if c = ')' && depth = 0 then some ([], rest)
    else
      let depth := if c = '(' then depth + 1 else if c = ')' then depth - 1 else depth
      (name? depth rest).map fun (name, after) => (c :: name, after)

/-- Whether a character is a flag. -/
def isFlag (c : Char) : Bool := ['-', '+', ' ', '#', '0'].contains c

/-- The flags that characters stand for. -/
def flagsOf (cs : List Char) : Flags where
  left := cs.contains '-'
  plus := cs.contains '+'
  blank := cs.contains ' '
  alternate := cs.contains '#'
  zeros := cs.contains '0'

/-- The number that decimal digits write. -/
def numberOf (digits : List Char) : Nat :=
  digits.foldl (fun n c => 10 * n + (c.toNat - '0'.toNat)) 0

/-- Reads a width or a precision. -/
def measure (cs : List Char) : Measure × List Char :=
  match cs with
  | '*' :: rest => (.star, rest)
  | cs =>
    match cs.takeWhile Char.isDigit with
    | [] => (.unset, cs)
    | digits => (.count (numberOf digits), cs.dropWhile Char.isDigit)

/-- Reads a point with a precision. -/
def precision (cs : List Char) : Measure × List Char :=
  match cs with
  | '.' :: rest =>
    match measure rest with
    | (.unset, rest) => (.count 0, rest)
    | read => read
  | cs => (.unset, cs)

/-- What follows the letter for a size, if there is one. -/
def dropSize (cs : List Char) : List Char :=
  match cs with
  | 'h' :: rest | 'l' :: rest | 'L' :: rest => rest
  | cs => cs

/-- Reads a place behind its name; `size` is the length of the template. -/
def placeAfter (size : Nat) (name? : Option String) (cs : List Char) : Place × List Char :=
  let (width, afterWidth) := measure (cs.dropWhile isFlag)
  let (precision, afterPrecision) := precision afterWidth
  let place (letter? : Option (Char × Nat)) : Place :=
    { name?, flags := flagsOf (cs.takeWhile isFlag), width, precision, letter? }
  match dropSize afterPrecision with
  | [] => (place none, [])
  | c :: rest => (place (some (c, size - rest.length - 1)), rest)

/-- Reads what follows a percent sign. -/
def pieceAfter (size : Nat) (cs : List Char) : Piece × List Char :=
  match cs with
  | '%' :: rest => (.character '%', rest)
  | '(' :: rest =>
    match name? 0 rest with
    | none => (.nameOpen, [])
    | some (name, after) =>
      let (place, left) := placeAfter size (some (String.ofList name)) after
      (.place place, left)
  | cs =>
    let (place, left) := placeAfter size none cs
    (.place place, left)

/-! ## What is left to read grows shorter -/

theorem length_name? (cs name after : List Char) (depth : Nat)
    (h : name? depth cs = some (name, after)) : after.length ≤ cs.length := by
  induction cs generalizing depth name with
  | nil => simp [name?] at h
  | cons c rest ih =>
    simp only [name?] at h
    split at h
    · simp only [Option.some.injEq, Prod.mk.injEq] at h
      simp [← h.2]
    · simp only [Option.map_eq_some_iff, Prod.mk.injEq] at h
      obtain ⟨⟨name', after'⟩, hread, -, rfl⟩ := h
      have hle : after'.length ≤ rest.length := ih _ _ hread
      simp only [List.length_cons]
      omega

theorem length_measure (cs : List Char) : (measure cs).2.length ≤ cs.length := by
  unfold measure
  split
  · simp
  · split
    · simp
    · exact (List.dropWhile_sublist _).length_le

theorem length_precision (cs : List Char) : (precision cs).2.length ≤ cs.length := by
  unfold precision
  split
  · rename_i rest
    have := length_measure rest
    split
    · rename_i heq
      rw [heq] at this
      simp only [List.length_cons] at *
      omega
    · simp only [List.length_cons]
      omega
  · simp

theorem length_dropSize (cs : List Char) : (dropSize cs).length ≤ cs.length := by
  unfold dropSize
  split <;> simp

theorem length_placeAfter (size : Nat) (name? : Option String) (cs : List Char) :
    (placeAfter size name? cs).2.length ≤ cs.length := by
  have hflags : (cs.dropWhile isFlag).length ≤ cs.length :=
    (List.dropWhile_sublist isFlag).length_le
  have hwidth := length_measure (cs.dropWhile isFlag)
  have hprecision := length_precision (measure (cs.dropWhile isFlag)).2
  have hsize := length_dropSize (precision (measure (cs.dropWhile isFlag)).2).2
  simp only [placeAfter]
  split
  · simp
  · rename_i heq
    rw [heq] at hsize
    simp only [List.length_cons] at hsize ⊢
    omega

theorem length_pieceAfter (size : Nat) (cs : List Char) :
    (pieceAfter size cs).2.length ≤ cs.length := by
  unfold pieceAfter
  split
  · simp
  · split
    · simp
    · rename_i rest _ name after hread
      have := length_name? _ _ _ _ hread
      have := length_placeAfter size (some (String.ofList name)) after
      simp only [List.length_cons]
      omega
  · exact length_placeAfter size none _

/-- The pieces of a text in a template of the given length. -/
def piecesFrom (size : Nat) (cs : List Char) : List Piece :=
  match cs with
  | [] => []
  | '%' :: rest => (pieceAfter size rest).1 :: piecesFrom size (pieceAfter size rest).2
  | c :: rest => .character c :: piecesFrom size rest
  termination_by cs.length
  decreasing_by
    · have := length_pieceAfter size rest
      simp only [List.length_cons]
      omega
    · simp

/-- The pieces of a template. -/
def pieces (template : String) : List Piece :=
  piecesFrom template.toList.length template.toList

/-! ## Filling -/

/-- What the places of a template take from. -/
structure Supply where
  members : List (String × Value)
  /-- The subject of the next place that has no name. -/
  subject : Subject
  /-- Whether the subject has been taken. -/
  isTaken : Bool := false
  deriving Repr

namespace Supply

/-- The supply in which the member of a name is the subject. -/
def call (supply : Supply) (name? : Option String) : Except Fault Supply :=
  match name? with
  | none => .ok supply
  | some name =>
    match supply.members.lookup name with
    | some value => .ok { supply with subject := .one value, isTaken := false }
    | none => .error (.unknown name)

/-- Takes the subject. -/
def take (supply : Supply) : Except Fault (Subject × Supply) :=
  if supply.isTaken then .error .taken
  else .ok (supply.subject, { supply with isTaken := true })

/-- The number that a width or a precision comes to, if one is given; a large one is a fault. -/
def measured (supply : Supply) (limit : Nat) (fault : Fault) :
    Measure → Except Fault (Option Nat × Supply)
  | .unset => .ok (none, supply)
  | .count n => if n ≤ limit then .ok (some n, supply) else .error fault
  | .star => do
    let (subject, supply) ← supply.take
    match subject.number? with
    | some b => pure (some b.toNat, supply)
    | none => throw .noMeasure

/-- Fills a place. -/
def place (supply : Supply) (p : Place) : Except Fault (String × Supply) := do
  let supply ← supply.call p.name?
  let (width?, supply) ← supply.measured 0x7fffffffffffffff .widthTooLarge p.width
  let (precision?, supply) ← supply.measured 0x7fffffff .precisionTooLarge p.precision
  match p.letter? with
  | none => throw .incomplete
  | some (letter, position) =>
    let (subject, supply) ← supply.take
    let text ← writeWide ⟨p.flags, width?.getD 0, precision?⟩ letter position subject
    pure (text, supply)

/-- Fills the pieces of a template. -/
def fill (supply : Supply) : List Piece → Except Fault String
  | [] => .ok ""
  | .character c :: rest => (supply.fill rest).map (String.singleton c ++ ·)
  | .nameOpen :: _ => .error .nameOpen
  | .place p :: rest => do
    let (text, supply) ← supply.place p
    let more ← supply.fill rest
    pure (text ++ more)

end Supply

/-- A template filled with members. -/
def fill (template : String) (members : List (String × Value)) : Except Fault String :=
  Supply.fill { members, subject := .all members } (pieces template)

end Cyclomatic.Template
