import Cyclomatic.Json.Literal

/-!
# Places of templates

How a place of a template writes what fills it. The letter that ends a place chooses between the
text of a value, the value as messages show it, a number in one of several bases or as a decimal
fraction, and a single character; width, precision and flags say how the result is laid out.
-/

set_option autoImplicit false

namespace Cyclomatic.Template

/-! ## Values -/

/-- A value that a template is filled with. -/
inductive Value where
  | nothing
  /-- A truth value, which counts as the number one or zero. -/
  | truth (b : Bool)
  | text (s : String)
  | texts (items : List String)
  /-- Something of a kind that is none of these, of which only a text tells. -/
  | handle (kind text : String)
  deriving DecidableEq, Repr

/-- What fills a place. -/
inductive Subject where
  | one (value : Value)
  /-- All members of the template together. -/
  | all (members : List (String × Value))
  deriving DecidableEq, Repr

/-- The value as messages show it. -/
def Value.shown : Value → String
  | nothing => Json.literal .null
  | truth b => Json.literal (.bool b)
  | text s => Json.literal (.text s)
  | texts items => Json.literal (.texts items)
  | handle _ s => s

/-- What a value is called in messages. -/
def Value.kind : Value → String
  | nothing => "NoneType"
  | truth _ => "bool"
  | text _ => "str"
  | texts _ => "list"
  | handle kind _ => kind

namespace Subject

/-- What the subject is called in messages. -/
def kind : Subject → String
  | one value => value.kind
  | all _ => "dict"

/-- The subject as messages show it. -/
def shown : Subject → String
  | one value => value.shown
  | all members =>
    "\x7b"
      ++ ", ".intercalate (members.map fun (name, value) => Text.quoted name ++ ": " ++ value.shown)
      ++ "\x7d"

/-- The subject as it reads. -/
def read : Subject → String
  | one (.text s) => s
  | subject => subject.shown

/-- The truth value that counts as a number, if the subject is one. -/
def number? : Subject → Option Bool
  | one (.truth b) => some b
  | _ => none

/-- The single character of the subject, or the one whose number it is. -/
def character? : Subject → Option Char
  | one (.truth b) => some (Char.ofNat b.toNat)
  | one (.text s) =>
    match s.toList with
    | [c] => some c
    | _ => none
  | _ => none

end Subject

/-! ## Faults -/

/-- Why a template cannot be filled. -/
inductive Fault where
  | unknown (name : String)
  | nameOpen
  | incomplete
  | widthTooLarge
  | precisionTooLarge
  /-- No letter that ends places stands at the end of one. -/
  | unsupported (letter : Char) (position : Nat)
  /-- What stands in for a width or precision is no number. -/
  | noMeasure
  | taken
  /-- The subject is no number. -/
  | noNumber (letter : Char) (kind : String)
  /-- The subject is no whole number. -/
  | noWholeNumber (letter : Char) (kind : String)
  /-- The subject is no real number. -/
  | noRealNumber (kind : String)
  | noCharacter
  /-- A whole number cannot have so many digits. -/
  | tooManyDigits
  /-- The place is too wide for any memory. -/
  | outOfMemory
  deriving DecidableEq, Repr

/-- A letter in a message; a question mark stands for those outside the printable ASCII ones. -/
def letterText (c : Char) : String :=
  if 31 ≤ c.toNat && c.toNat < 127 then String.singleton c else "?"

/-- The words for a fault. -/
def Fault.message : Fault → String
  | unknown name => Text.quoted name
  | nameOpen => "incomplete format key"
  | incomplete => "incomplete format"
  | widthTooLarge => "width too big"
  | precisionTooLarge => "precision too big"
  | unsupported c position =>
    "unsupported format character '" ++ letterText c ++ "' (0x"
      ++ String.ofList (Nat.toDigits 16 c.toNat) ++ ") at index " ++ toString position
  | noMeasure => "* wants int"
  | taken => "not enough arguments for format string"
  | noNumber c kind =>
    "%" ++ String.singleton c ++ " format: a real number is required, not " ++ kind
  | noWholeNumber c kind =>
    "%" ++ String.singleton c ++ " format: an integer is required, not " ++ kind
  | noRealNumber kind => "must be real number, not " ++ kind
  | noCharacter => "%c requires int or char"
  | tooManyDigits => "precision too large"
  | outOfMemory => ""

/-! ## Layout -/

/-- The flags of a place. -/
structure Flags where
  /-- `-`: what is missing to the width is filled up behind. -/
  left : Bool := false
  /-- `+`: a number has a plus sign. -/
  plus : Bool := false
  /-- A blank: a number has a blank for a sign. -/
  blank : Bool := false
  /-- `#`: a number shows its base, and its point. -/
  alternate : Bool := false
  /-- `0`: a number is filled up with zeros. -/
  zeros : Bool := false
  deriving DecidableEq, Repr

/-- How a place is laid out. -/
structure Layout where
  flags : Flags
  /-- The least width. -/
  width : Nat
  /-- The precision, if one is given. -/
  precision? : Option Nat
  deriving DecidableEq, Repr

namespace Layout

/-- So many times one character. -/
def fill (c : Char) (n : Nat) : String := String.ofList (List.replicate n c)

/-- A text, cut to the precision and filled up to the width. -/
def pad (layout : Layout) (s : String) : String :=
  let missing := fill ' ' (layout.width - s.length)
  if layout.flags.left then s ++ missing else missing ++ s

/-- The first characters of a text, as many as the precision allows. -/
def cut (layout : Layout) (s : String) : String :=
  match layout.precision? with
  | some n => String.ofList (s.toList.take n)
  | none => s

/-- The sign of a number that is not negative. -/
def sign (layout : Layout) : String :=
  if layout.flags.plus then "+" else if layout.flags.blank then " " else ""

/-- A number with its sign and the mark of its base; zeros stand between these and its digits. -/
def number (layout : Layout) (mark digits : String) : String :=
  let head := layout.sign ++ mark
  let zeros :=
    if layout.flags.zeros && !layout.flags.left then
      fill '0' (layout.width - head.length - digits.length)
    else ""
  layout.pad (head ++ zeros ++ digits)

/-- The digit of a truth value. -/
def digit (b : Bool) : String := if b then "1" else "0"

/-- A whole number in the base that the letter names. -/
def whole (layout : Layout) (letter : Char) (b : Bool) : String :=
  let isMarked := layout.flags.alternate && ['o', 'x', 'X'].contains letter
  layout.number (if isMarked then "0" ++ String.singleton letter else "")
    (fill '0' (layout.precision?.getD 0 - 1) ++ digit b)

/-- The point and the zeros behind it. -/
def fraction (layout : Layout) (places : Nat) : String :=
  if places = 0 then if layout.flags.alternate then "." else "" else "." ++ fill '0' places

/-- The digits behind the point in front of an exponent. They are counted with the digit before the
point, in a word of 31 bits. -/
def mantissaPlaces (precision : Nat) : Nat := (precision + 1) % 0x80000000 - 1

/-- A real number in the notation that the letter names; without a precision it has six digits. -/
def real (layout : Layout) (letter : Char) (b : Bool) : String :=
  let precision := layout.precision?.getD 6
  layout.number ""
    (digit b ++
      match letter with
      | 'e' => layout.fraction (mantissaPlaces precision) ++ "e+00"
      | 'E' => layout.fraction (mantissaPlaces precision) ++ "E+00"
      | 'f' | 'F' => layout.fraction precision
      | _ => if layout.flags.alternate then layout.fraction (precision - 1) else "")

end Layout

/-- A text in which what is no ASCII is written as its code point. -/
def asciiText (s : String) : String :=
  String.ofList (s.toList.flatMap fun c =>
    if c.toNat < 0x80 then [c]
    else if c.toNat < 0x100 then '\\' :: 'x' :: Text.hexDigits 2 c.toNat
    else if c.toNat < 0x10000 then '\\' :: 'u' :: Text.hexDigits 4 c.toNat
    else '\\' :: 'U' :: Text.hexDigits 8 c.toNat)

/-- A value that a place cannot do without. -/
def needed {α : Type} (value? : Option α) (fault : Fault) : Except Fault α :=
  match value? with
  | some a => .ok a
  | none => .error fault

/-- The most digits that a whole number is asked for. -/
def mostDigits : Nat := 0x7ffffffc

/-- Writes a subject, which has to be a number, as a whole number. -/
def writeWhole (layout : Layout) (letter : Char) (subject : Subject) (fault : Fault) :
    Except Fault String := do
  let b ← needed subject.number? fault
  if layout.precision?.getD 0 ≤ mostDigits then pure (layout.whole letter b)
  else throw .tooManyDigits

/-- Writes a subject into a place that ends in a letter, which stands at a position. -/
def write (layout : Layout) (letter : Char) (position : Nat) (subject : Subject) :
    Except Fault String :=
  match letter with
  | 's' => .ok (layout.pad (layout.cut subject.read))
  | 'r' => .ok (layout.pad (layout.cut subject.shown))
  | 'a' => .ok (layout.pad (layout.cut (asciiText subject.shown)))
  | 'd' | 'i' | 'u' => writeWhole layout letter subject (.noNumber letter subject.kind)
  | 'o' | 'x' | 'X' => writeWhole layout letter subject (.noWholeNumber letter subject.kind)
  | 'e' | 'E' | 'f' | 'F' | 'g' | 'G' =>
    (needed subject.number? (.noRealNumber subject.kind)).map (layout.real letter)
  | 'c' =>
    (needed subject.character? .noCharacter).map fun c => layout.pad (String.singleton c)
  | _ => .error (.unsupported letter position)

/-- The greatest width that fits into memory. -/
def greatestWidth : Nat := 0x1ffffffff

/-- Writes a subject into a place of any width. One that does not fit into memory is a fault, after
those of its subject. -/
def writeWide (layout : Layout) (letter : Char) (position : Nat) (subject : Subject) :
    Except Fault String := do
  if layout.width ≤ greatestWidth then write layout letter position subject
  else
    let _ ← write { layout with width := 0 } letter position subject
    throw .outOfMemory

end Cyclomatic.Template
