import DeferredLog.Buffer

/-!
# Reading positions

A cursor is a position in the log and nothing else, so any number of cursors read one log, and a
copy goes its own way. The position may lie beyond the committed end: nothing is read there until
the log has grown past it.

* A read moves the cursor by exactly the bytes it gave, so reads in a row skip and repeat nothing.
* A seek adds an offset to one of three origins in exact integers, and moves the cursor only if the
  sum is an offset a machine word can hold.
* The stream operations are the same reads and seeks with a stream's faults. A fault of a read
  leaves the cursor behind the bytes that were there.
-/

namespace DeferredLog

/-- What a seek counts from. -/
inductive Origin where
  | start
  | current
  | finish
  deriving DecidableEq, Repr

/-- The name of the origin in messages. -/
def Origin.name : Origin → String
  | start => "Start"
  | current => "Current"
  | finish => "End"

/-- Why a seek is refused. -/
inductive SeekFault where
  /-- The sum lies before the start. -/
  | negative (target : Int) (origin : Origin) (offset : Int)
  /-- The sum is no offset of a machine word. -/
  | overflow (target : Int)
  deriving DecidableEq, Repr

namespace SeekFault

/-- An integer with its sign always written. -/
def signed (i : Int) : String :=
  if 0 ≤ i then s!"+{i}" else toString i

def message : SeekFault → String
  | negative target origin offset =>
    s!"seek to negative offset {target} ({origin.name} {signed offset})"
  | overflow target => s!"seek offset {target} overflows"

def toFailure (f : SeekFault) : Failure :=
  .invalidArgument f.message

end SeekFault

/-- A reading position. -/
structure Cursor where
  position : Nat := 0
  deriving DecidableEq, Repr

namespace Cursor

/-! ### Reads -/

/-- Reads up to `len` bytes and moves past them. -/
def read (c : Cursor) (b : Buffer) (len : Nat) : ByteArray × Cursor :=
  let bytes := b.read c.position len
  (bytes, ⟨c.position + bytes.size⟩)

/-- Reads everything that is committed and not read yet. -/
def readRemaining (c : Cursor) (b : Buffer) : ByteArray × Cursor :=
  c.read b (b.committed - c.position)

/-- Reads over the beginning of `target`; gives the number of bytes, the target and the cursor
behind them. -/
def readInto (c : Cursor) (b : Buffer) (target : ByteArray) : Nat × ByteArray × Cursor :=
  let r := b.readInto c.position target
  (r.1, r.2, ⟨c.position + r.1⟩)

/-- Reads exactly `len` bytes. If fewer are left they are consumed and lost. -/
def readExact (c : Cursor) (b : Buffer) (len : Nat) : Except StreamFault ByteArray × Cursor :=
  let r := c.read b len
  (if r.1.size = len then .ok r.1 else .error .unexpectedEnd, r.2)

/-- Reads the rest as text. If it is no text it is consumed and lost. -/
def readText (c : Cursor) (b : Buffer) : Except StreamFault String × Cursor :=
  let r := c.readRemaining b
  (match String.fromUTF8? r.1 with
    | some text => .ok text
    | none => .error .invalidText,
   r.2)

/-! ### Seeks -/

/-- Where an origin lies now. -/
def origin (c : Cursor) (b : Buffer) : Origin → Nat
  | .start => 0
  | .current => c.position
  | .finish => b.committed

/-- The offset a seek leads to, or why it leads nowhere. -/
def target (c : Cursor) (b : Buffer) (offset : Int) (base : Origin) : Except SeekFault Nat :=
  let sum := (c.origin b base : Int) + offset
  if sum < 0 then .error (.negative sum base offset)
  else if (wordMax : Int) < sum then .error (.overflow sum)
  else .ok sum.toNat

/-- Moves the cursor by `offset` from an origin. A refused seek leaves it where it is. -/
def seek (c : Cursor) (b : Buffer) (offset : Int) (base : Origin) :
    Except Failure Nat × Cursor :=
  match c.target b offset base with
  | .error fault => (.error fault.toFailure, c)
  | .ok position => (.ok position, ⟨position⟩)

/-- A position as a stream names it. -/
inductive StreamPosition where
  /-- Offset from the start, a machine word without a sign. -/
  | start (offset : Nat)
  | current (offset : Int)
  | finish (offset : Int)
  deriving DecidableEq, Repr

/-- The largest offset from the start that a stream can be sent to: the largest signed word. -/
def streamMax : Nat := (1 <<< 63) - 1

/-- Moves the cursor as a stream. Offsets from the start go through a signed word. -/
def seekStream (c : Cursor) (b : Buffer) (position : StreamPosition) :
    Except StreamFault Nat × Cursor :=
  let r : Except Failure Nat × Cursor :=
    match position with
    | .start offset =>
      if streamMax < offset then (.error (SeekFault.overflow offset).toFailure, c)
      else c.seek b offset .start
    | .current offset => c.seek b offset .current
    | .finish offset => c.seek b offset .finish
  (r.1.mapError StreamFault.ofFailure, r.2)

/-- The diagnostic form of a cursor on a log. -/
def inspect (c : Cursor) (b : Buffer) : String :=
  Text.record "LogReader" [("buffer", b.inspect), ("position", toString c.position)]

/-! ### How far each operation moves -/

@[simp] theorem position_read (c : Cursor) (b : Buffer) (len : Nat) :
    (c.read b len).2.position = c.position + (c.read b len).1.size := rfl

theorem seek_of_target_eq_ok {c : Cursor} {b : Buffer} {offset : Int} {base : Origin} {t : Nat}
    (h : c.target b offset base = .ok t) : c.seek b offset base = (.ok t, ⟨t⟩) := by
  simp [seek, h]

theorem seek_of_target_eq_error {c : Cursor} {b : Buffer} {offset : Int} {base : Origin}
    {fault : SeekFault} (h : c.target b offset base = .error fault) :
    c.seek b offset base = (.error fault.toFailure, c) := by
  simp [seek, h]

end Cursor

end DeferredLog
