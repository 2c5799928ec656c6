import DeferredLog.Draft
import DeferredLog.Limits
import DeferredLog.Text.Quoted

/-!
# The cell between trigger and appender

A place for one entry. Whoever publishes overwrites it, whoever takes it empties it, and the latest
entry wins. Neither side waits: the writer marks each publication by moving `seq` on by two, and the
taker remembers in `drained` the number of the publication it took. So an entry is pending exactly
when the two numbers differ, and an overwritten entry is counted, never half delivered.

The numbers are machine words and wrap around; two of them are confused only if 2^63 publications go
by without a take. The slots are used again and again: an entry shorter than the one before leaves
that one's tail behind `length`, out of every reader's sight.
-/

namespace DeferredLog

/-- What a publication did to the entry before it. -/
inductive Publication where
  /-- The entry before it had been taken, or there was none. -/
  | fresh
  /-- The entry before it is lost. -/
  | superseded
  deriving DecidableEq, Repr

/-- What has gone through a cell. -/
structure Cell.Stats where
  published : Nat := 0
  superseded : Nat := 0
  truncated : Nat := 0
  deriving DecidableEq, Repr

/-- A place for one entry. -/
structure Cell where
  /-- The bytes of the room, of which an entry takes the first `length`. -/
  slots : ByteArray
  length : Nat := 0
  /-- The number of the latest publication, twice over. -/
  seq : UInt64 := 0
  /-- The number of the latest publication that was taken, twice over. -/
  drained : UInt64 := 0
  stats : Cell.Stats := {}
  deriving DecidableEq

namespace Cell

/-- An empty cell with room for `capacity` bytes, at most `maxScratchCapacity`. -/
def empty (capacity : Nat) : Cell :=
  { slots := ⟨Array.replicate (min capacity maxScratchCapacity) 0⟩ }

/-- The room of the cell. -/
def capacity (c : Cell) : Nat :=
  c.slots.size

/-- Whether an entry waits to be taken. -/
def hasPending (c : Cell) : Bool :=
  c.seq != c.drained

/-! ### Publishing -/

/-- Puts an entry that fits over the one before; `cut` tells whether some of it was lost already. -/
def store (c : Cell) (entry : ByteArray) (cut : Bool) : Publication × Cell :=
  let outcome := if c.hasPending then .superseded else .fresh
  (outcome,
    { c with
      slots := entry ++ c.slots.extract entry.size c.slots.size
      length := entry.size
      seq := c.seq + 2
      stats :=
        { published := c.stats.published + 1
          superseded := c.stats.superseded + if c.hasPending then 1 else 0
          truncated := c.stats.truncated + if cut then 1 else 0 } })

/-- Publishes the part of an entry that fits. -/
def publish (c : Cell) (entry : ByteArray) : Publication × Cell :=
  c.store (entry.extract 0 (min entry.size c.capacity)) (decide (c.capacity < entry.size))

/-- Formats an entry into the room of the cell and publishes it, even if the formatting gave up. If
the producer breaks down the cell stays as it is. -/
def write (c : Cell) (parts : List Part) : Option Publication × Cell :=
  match ({ capacity := c.capacity } : Draft).run parts with
  | (.broken, _) => (none, c)
  | (_, draft) =>
    let r := c.store draft.bytes draft.truncated
    (some r.1, r.2)

/-! ### Taking -/

/-- The entry that waits, if one does. -/
def peek (c : Cell) : Option ByteArray :=
  if c.hasPending then some (c.slots.extract 0 (min c.length c.capacity)) else none

/-- Takes the entry that waits, if one does. -/
def take (c : Cell) : Option ByteArray × Cell :=
  match c.peek with
  | some entry => (some entry, { c with drained := c.seq })
  | none => (none, c)

/-- The diagnostic form of the counts. -/
def Stats.inspect (s : Stats) : String :=
  Text.record "ScratchStats"
    [("published", toString s.published), ("superseded", toString s.superseded),
     ("truncated", toString s.truncated)]

/-- The diagnostic form. -/
def inspect (c : Cell) : String :=
  Text.record "ScratchObserver"
    [("capacity", toString c.capacity), ("stats", c.stats.inspect)]

/-! ### How the operations act on what is pending -/

@[simp] theorem capacity_empty (capacity : Nat) :
    (empty capacity).capacity = min capacity maxScratchCapacity := by
  simp [empty, Cell.capacity, ByteArray.size]

@[simp] theorem hasPending_empty (capacity : Nat) : (empty capacity).hasPending = false := rfl

theorem capacity_store {c : Cell} {entry : ByteArray} (h : entry.size ≤ c.capacity) (cut : Bool) :
    (c.store entry cut).2.capacity = c.capacity := by
  simp only [store, capacity, ByteArray.size_append, ByteArray.size_extract] at *
  omega

/-- What was stored last is what waits, with nothing of an earlier entry behind it. -/
theorem extract_slots_store (c : Cell) (entry : ByteArray) (cut : Bool) :
    (c.store entry cut).2.slots.extract 0 (c.store entry cut).2.length = entry := by
  simp [store, ByteArray.extract_append_eq_left]

/-- A take leaves nothing waiting. -/
theorem hasPending_take (c : Cell) : c.take.2.hasPending = false := by
  unfold take peek
  split
  · simp [hasPending]
  · next h =>
    split at h
    · cases h
    · simpa using ‹¬ c.hasPending = true›

end Cell

end DeferredLog
