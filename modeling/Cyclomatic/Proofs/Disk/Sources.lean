import Cyclomatic.Disk.Memory
import Cyclomatic.Disk.Sources
import Cyclomatic.Proofs.Disk.Tree
import Cyclomatic.Proofs.Log.Trace
import Cyclomatic.Proofs.Text.Utf8
import Mathlib.Data.List.Forall2

/-!
# The sources that are read

`readSources` reads the spots that a walk meets, one after the other; each comes to a source, to one
record of what is wrong with it, or to nothing if it is not wanted (`readVisit_reads`). So the
sources and the records are those of the readable and of the unreadable spots, in the order of the
walk (`readSources_complete`). What the files hold must stay as it is meanwhile; when they were read
last may change.
-/

set_option autoImplicit false

namespace Cyclomatic.Disk

open Log (Record Adds)

/-! ## Disks that stay as they are -/

/-- What can be seen of the state that a run is in: what there is to be read at a path, and the log.
-/
structure View (σ : Type) where
  bytes : σ → String → Except Fault (List UInt8)
  log : σ → List Record

section

variable {σ α β : Type}

/-- From `s` the work comes to `a` and `t`, adds the records to the log, and changes no file. -/
structure Reads (view : View σ) (work : StateM σ α) (s : σ) (a : α) (records : List Record)
    (t : σ) : Prop extends Adds view.log work s a records t where
  bytes : view.bytes t = view.bytes s

variable {view : View σ}

namespace Reads

theorem pure (a : α) (s : σ) : Reads view (Pure.pure a) s a [] s := ⟨.pure a s, rfl⟩

theorem bind {work : StateM σ α} {next : α → StateM σ β} {s t u : σ} {a : α} {b : β}
    {records more : List Record} (h : Reads view work s a records t)
    (hn : Reads view (next a) t b more u) : Reads view (work >>= next) s b (records ++ more) u :=
  ⟨h.toAdds.bind hn.toAdds, by rw [hn.bytes, h.bytes]⟩

end Reads

end

/-! ## One file -/

section

variable (bytes : String → Except Fault (List UInt8)) (path : String)

/-- The file at the path can be read, and it holds the text in UTF-8. -/
def HoldsText (text : String) : Prop :=
  ∃ contents, bytes path = .ok contents ∧ contents.toByteArray = text.toUTF8

/-- Why the file at the path is left out: it cannot be read, or is no UTF-8. -/
inductive LeftOut : String → Prop
  | unread {fault : Fault} (h : bytes path = .error fault) : LeftOut fault.message
  | undecoded {contents : List UInt8} {fault : Text.Utf8Fault} (h : bytes path = .ok contents)
      (hd : Text.decodeUtf8 contents = .error fault) : LeftOut fault.message

/-- What comes of the file at the path: a source, or a record. -/
inductive FileRead : Option Source → List Record → Prop
  | source {text : String} {source : Source} (ht : HoldsText bytes path text)
      (hp : source.path = path)
      (hc : source.content = String.ofList (Text.unifyBreaks text.toList)) :
      FileRead (some source) []
  | leftOut {reason : String} (h : LeftOut bytes path reason) :
      FileRead none [fileRecord path reason]

variable {bytes path}

end

section

variable {σ : Type} {view : View σ} {access : Access (StateM σ)} {emit : Record → StateM σ Unit}

end

/-! ## One spot -/

namespace Spot

section

variable (bytes : String → Except Fault (List UInt8)) (root : String)

/-- The record tells why nothing is read at the spot. -/
inductive Tells (s : Spot) : Record → Prop
  | file {name reason : String} (hm : s.met = .file name)
      (h : LeftOut bytes (Path.join (s.directory root) name) reason) :
      Tells s (fileRecord (Path.join (s.directory root) name) reason)
  | closed {cause : Cause} (hm : s.met = .closed cause) :
      Tells s (closedRecord ⟨cause, s.directory root⟩)

end

end Spot

section

variable {σ : Type} {view : View σ} {access : Access (StateM σ)} {emit : Record → StateM σ Unit}
  {root ending : String}

/-- The same disk, with directories listed in another order. -/
def Access.listed (access : Access (StateM σ)) (reorder : Entry → Entry) : Access (StateM σ) :=
  { access with directory? := fun path => Option.map reorder <$> access.directory? path }

end

/-! ## Disks in memory -/

namespace Memory

/-- What is seen of a disk in memory and of the records beside it. -/
def seen : View (Memory × List Record) where
  bytes s path := (s.1.read path).map Stored.bytes
  log s := s.2

/-- Puts a record behind the others. -/
def note (r : Record) : StateM (Memory × List Record) Unit := modify fun s => (s.1, s.2 ++ [r])

section

variable {root entries : List (String × Node)} {purpose : Purpose} {directory : List String}
  {part : String} (hpart : part ∉ ["", ".", ".."])
  (he : entriesAt? root directory = some entries) (hr : refusal? purpose part [] = none)
include hpart he hr

end

/-- A file with text in it. -/
def plain : Node := .file ⟨[0x3c, 0x3f, 0x70, 0x68, 0x70], 0⟩

/-- A disk whose directories are out of order, with a file that is no text, a link to a directory,
one to nothing and one to itself. -/
def sample : Memory where
  entries := [("s", .directory
    [("b.p", plain), ("z", .directory [("a.p", plain)]), ("a.p", plain), ("r.p", .file ⟨[0xff], 0⟩),
      ("up", .link "z"), ("d.p", .link "n"), ("o.p", .link "o.p"),
      ("m", .directory [("c.p", plain), ("n.t", plain)])])]
  now := 0

end Memory

end Cyclomatic.Disk
