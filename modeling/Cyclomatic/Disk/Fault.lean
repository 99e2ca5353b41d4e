import Cyclomatic.Text.Quoted

/-!
# Faults of the disk

Why the disk refuses to read or write a file.
-/

set_option autoImplicit false

namespace Cyclomatic.Disk

/-- What is wrong with a path. -/
inductive Cause where
  /-- Nothing is there. -/
  | missing
  /-- Something is there already. -/
  | present
  | notDirectory
  | isDirectory
  | tooManyLinks
  /-- A name or the whole path is too long. -/
  | nameTooLong
  /-- There is a null character in it, which no path has. -/
  | nullCharacter
  /-- Another cause, with its number and its words. -/
  | other (number : Int) (text : String)
  deriving DecidableEq, Repr

/-- The number that the system gives a cause. -/
def Cause.number : Cause → Int
  | missing => 2
  | present => 17
  | notDirectory => 20
  | isDirectory => 21
  | nullCharacter => 22
  | nameTooLong => 36
  | tooManyLinks => 40
  | other number _ => number

/-- The words for a cause. -/
def Cause.text : Cause → String
  | missing => "No such file or directory"
  | present => "File exists"
  | notDirectory => "Not a directory"
  | isDirectory => "Is a directory"
  | tooManyLinks => "Too many levels of symbolic links"
  | nameTooLong => "File name too long"
  | nullCharacter => "embedded null byte"
  | other _ text => text

/-- Whether a cause says that what a path names is not there. -/
def Cause.isAbsence : Cause → Bool
  | missing | notDirectory | tooManyLinks | nullCharacter => true
  | _ => false

/-- A path that the disk refuses. -/
structure Fault where
  cause : Cause
  /-- The path as it was given. -/
  path : String
  deriving DecidableEq, Repr

/-- The number and the words of the cause, and the path; a path that is none is not shown. -/
def Fault.message (fault : Fault) : String :=
  match fault.cause with
  | .nullCharacter => fault.cause.text
  | cause =>
    "[Errno " ++ toString cause.number ++ "] " ++ cause.text ++ ": " ++ Text.quoted fault.path

end Cyclomatic.Disk
