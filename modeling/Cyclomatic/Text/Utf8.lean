import Cyclomatic.Text.Quoted

/-!
# UTF-8

`decodeUtf8` reads bytes as text. It accepts exactly the shortest forms of the code points that are
no surrogates; at the first byte that cannot go on it tells which bytes are at fault and why: no
character starts with that byte, the bytes after it do not continue it, or the text ends inside a
character. `unifyBreaks` turns the line breaks CR LF and CR into LF.
-/

set_option autoImplicit false

namespace Cyclomatic.Text

/-- Why bytes are no UTF-8. -/
inductive Utf8Cause where
  /-- No character starts with this byte. -/
  | invalidStart
  | invalidContinuation
  | unexpectedEnd
  deriving DecidableEq, Repr

/-- A place where bytes are no UTF-8. -/
structure Utf8Fault where
  /-- The position of the first byte at fault. -/
  start : Nat
  /-- The bytes at fault. -/
  bytes : List UInt8
  cause : Utf8Cause
  deriving DecidableEq, Repr

/-- The words for a cause. -/
def Utf8Cause.message : Utf8Cause → String
  | .invalidStart => "invalid start byte"
  | .invalidContinuation => "invalid continuation byte"
  | .unexpectedEnd => "unexpected end of data"

/-- One byte is shown by its value, several by the positions of the first and the last. -/
def Utf8Fault.message (fault : Utf8Fault) : String :=
  match fault.bytes with
  | [b] =>
    "'utf-8' codec can't decode byte 0x" ++ String.ofList (hexDigits 2 b.toNat) ++ " in position "
      ++ toString fault.start ++ ": " ++ fault.cause.message
  | bytes =>
    "'utf-8' codec can't decode bytes in position " ++ toString fault.start ++ "-"
      ++ toString (fault.start + bytes.length - 1) ++ ": " ++ fault.cause.message

/-- What the first byte of a character announces. -/
structure Utf8Lead where
  /-- The bits of the code point that the first byte holds. -/
  bits : Nat
  /-- How many bytes continue the character. -/
  more : Nat
  /-- The least second byte: a smaller one would write a shorter character. -/
  least : Nat := 0x80
  /-- The greatest second byte: a greater one would write a surrogate or no code point. -/
  greatest : Nat := 0xbf

/-- What a byte announces as the first one of a character; nothing if no character starts so. -/
def utf8Lead? (b : Nat) : Option Utf8Lead :=
  if b < 0x80 then some { bits := b, more := 0 }
  else if b < 0xc2 then none
  else if b < 0xe0 then some { bits := b - 0xc0, more := 1 }
  else if b = 0xe0 then some { bits := 0, more := 2, least := 0xa0 }
  else if b = 0xed then some { bits := 0xd, more := 2, greatest := 0x9f }
  else if b < 0xf0 then some { bits := b - 0xe0, more := 2 }
  else if b = 0xf0 then some { bits := 0, more := 3, least := 0x90 }
  else if b = 0xf4 then some { bits := 4, more := 3, greatest := 0x8f }
  else if b < 0xf5 then some { bits := b - 0xf0, more := 3 }
  else none

/-- Takes up to `more` continuation bytes onto `value`, the first of them between the bounds.
Answers the value, the bytes taken and whether they are all there; `none` for the value if one is
wrong. -/
def continuation (least greatest : Nat) : (more value : Nat) → List UInt8 → Option Nat × Nat × Bool
  | 0, value, _ => (some value, 0, true)
  | _ + 1, value, [] => (some value, 0, false)
  | more + 1, value, b :: rest =>
    if least ≤ b.toNat && b.toNat ≤ greatest then
      let (value, taken, complete) :=
        continuation 0x80 0xbf more (64 * value + (b.toNat - 0x80)) rest
      (value, taken + 1, complete)
    else (none, 0, true)

/-- Reads the bytes that follow the first `position` ones. -/
def decodeUtf8From (position : Nat) (bytes : List UInt8) : Except Utf8Fault (List Char) :=
  match bytes with
  | [] => .ok []
  | b :: rest =>
    match utf8Lead? b.toNat with
    | none => .error ⟨position, [b], .invalidStart⟩
    | some lead =>
      match continuation lead.least lead.greatest lead.more lead.bits rest with
      | (none, taken, _) => .error ⟨position, b :: rest.take taken, .invalidContinuation⟩
      | (some _, _, false) => .error ⟨position, b :: rest, .unexpectedEnd⟩
      | (some value, taken, true) =>
        (decodeUtf8From (position + 1 + taken) (rest.drop taken)).map (Char.ofNat value :: ·)
  termination_by bytes.length
  decreasing_by
    simp only [List.length_cons, List.length_drop]
    omega

/-- Reads bytes as text, or tells the first place where they are none. -/
def decodeUtf8 (bytes : List UInt8) : Except Utf8Fault (List Char) := decodeUtf8From 0 bytes

/-- Every line break as a line feed: CR LF counts as one break, and so does a lone CR. -/
def unifyBreaks : List Char → List Char
  | [] => []
  | '\r' :: '\n' :: rest => '\n' :: unifyBreaks rest
  | '\r' :: rest => '\n' :: unifyBreaks rest
  | c :: rest => c :: unifyBreaks rest

end Cyclomatic.Text
