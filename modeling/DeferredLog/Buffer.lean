import DeferredLog.Buffer.Growth
import DeferredLog.Bytes
import DeferredLog.Config
import DeferredLog.Notice

/-!
# The log

Bytes that are appended and never changed. `append` first makes room (`makeRoom`), which may move
the log: new storage is reserved and what the old one holds is copied over (`move`). Then the entry
is written behind the rest (`commit`). Whatever can fail does so before anything is written, and a
refusal touches nothing but the count of its cause.

The storage knows how much it holds. How much of it is `committed` is a number of its own, published
after each entry, for those who ask how far the log reaches without looking at the storage. Reads
are answered from the storage; every read path goes through `range?`, the part of a request that is
there.

`quota` is what the memory still grants to a log that grows, when that is limited.
-/

namespace DeferredLog

/-- What has happened to a log. No run is long enough to exhaust a machine's counter, so these are
natural numbers. -/
structure Buffer.Counts where
  entries : Nat := 0
  bytes : Nat := 0
  growths : Nat := 0
  rejectedTooLarge : Nat := 0
  allocationFailures : Nat := 0
  capacityExceeded : Nat := 0
  deriving DecidableEq, Repr

/-- An append-only log of bytes. -/
structure Buffer where
  /-- What the storage holds. -/
  contents : ByteArray
  /-- Bytes the storage has room for. -/
  capacity : Nat
  /-- The largest entry taken. -/
  maxEntry : Nat
  /-- The capacity that growth must not pass, if any. -/
  ceiling : Option Nat
  /-- The largest capacity the memory grants to growth, if that is limited. -/
  quota : Option Nat := none
  /-- How many bytes are committed, as published after the last entry. -/
  committed : Nat := 0
  counts : Buffer.Counts := {}
  deriving DecidableEq

namespace Buffer

/-! ### Making a log -/

/-- An empty log. Refused if the ceiling lies below the first capacity, or without memory. -/
def allocate (initial maxEntry : Nat) (ceiling : Option Nat) : Except Failure Buffer :=
  if ceiling.any (· < initial) then
    .error (ConfigFault.toFailure (.ceilingBelowInitial (ceiling.getD 0) initial))
  else if initial < addressSpace then
    .ok { contents := .empty, capacity := initial, maxEntry, ceiling }
  else .error (.outOfMemory initial)

/-- An empty log sized by a configuration, which need not be valid as a whole. -/
def ofConfig (c : Config) : Except Failure Buffer :=
  allocate c.initialCapacity.toNat c.maxEntry.toNat (c.ceiling.map UInt64.toNat)

/-- What a new log tells about itself. -/
def birth (b : Buffer) : Notice :=
  .allocated b.capacity b.maxEntry b.ceiling

/-! ### Making room -/

/-- Whether the memory grants a log of `capacity` bytes to growth. -/
def grants (b : Buffer) (capacity : Nat) : Bool :=
  decide (capacity < addressSpace) && b.quota.all (capacity ≤ ·)

/-- Limits what the memory grants to growth from now on, or lifts the limit. -/
def withQuota (b : Buffer) (quota : Option Nat) : Buffer :=
  { b with quota }

/-- The capacity to grow to when `required` bytes must fit: the doubled one, cut to the ceiling. -/
def target (b : Buffer) (required : Nat) : Nat :=
  match b.ceiling with
  | some limit => min (grown required b.capacity) limit
  | none => grown required b.capacity

/-- The log in new storage with room for `capacity` bytes. That is empty at first, and takes over
what the old storage holds. -/
def move (b : Buffer) (capacity : Nat) : Buffer :=
  let fresh : ByteArray := .empty
  { b with
    contents := fresh ++ b.contents
    capacity
    counts.growths := b.counts.growths + 1 }

/-- Moves the log so that `required` bytes fit, unless the ceiling is in the way or the memory is
refused. -/
def grow (b : Buffer) (required : Nat) : Except Failure Buffer :=
  if b.ceiling.any (· < required) then
    .error (.capacityExceeded required (b.ceiling.getD wordMax))
  else if b.grants (b.target required) then .ok (b.move (b.target required))
  else .error (.outOfMemory (b.target required))

/-- The log with room for `size` more bytes, or why it has none. An entry that is larger than any is
refused whatever room there is. -/
def makeRoom (b : Buffer) (size : Nat) : Except Failure Buffer :=
  if b.maxEntry < size then .error (.entryTooLarge size b.maxEntry)
  else if b.capacity < b.contents.size + size then b.grow (b.contents.size + size)
  else .ok b

/-! ### Appending -/

/-- The log with an entry written behind what it holds, published and counted. -/
def commit (b : Buffer) (entry : ByteArray) : Buffer :=
  let contents := b.contents ++ entry
  { b with
    contents
    committed := contents.size
    counts.entries := b.counts.entries + 1
    counts.bytes := b.counts.bytes + entry.size }

/-- The counts after a refusal: one more of its cause. -/
def Counts.refuse (c : Counts) : Failure → Counts
  | .entryTooLarge .. => { c with rejectedTooLarge := c.rejectedTooLarge + 1 }
  | .outOfMemory _ => { c with allocationFailures := c.allocationFailures + 1 }
  | .capacityExceeded .. => { c with capacityExceeded := c.capacityExceeded + 1 }
  | _ => c

/-- Commits an entry whole, or refuses it. -/
def append (b : Buffer) (entry : ByteArray) : Except Failure Nat × Buffer :=
  match b.makeRoom entry.size with
  | .error cause => (.error cause, { b with counts := b.counts.refuse cause })
  | .ok roomy => (.ok entry.size, roomy.commit entry)

/-- What appending an entry of `size` bytes tells about the log's memory. -/
def appendNotices (b : Buffer) (size : Nat) : List Notice :=
  match b.makeRoom size with
  | .ok roomy =>
    if b.capacity < b.contents.size + size then [.grew b.capacity roomy.capacity] else []
  | .error (.capacityExceeded required limit) => [.full required limit]
  | .error (.outOfMemory requested) => [.growthFailed b.capacity requested]
  | .error _ => []

/-! ### Reading -/

/-- What the log holds of the `len` bytes from `offset` on, as first and last offset; none if there
is nothing to read. -/
def range? (b : Buffer) (offset len : Nat) : Option (Nat × Nat) :=
  if offset < b.contents.size ∧ len ≠ 0 then
    some (offset, offset + min len (b.contents.size - offset))
  else none

/-- The bytes of the log among the `len` from `offset` on. -/
def read (b : Buffer) (offset len : Nat) : ByteArray :=
  match b.range? offset len with
  | some (first, last) => b.contents.extract first last
  | none => .empty

/-- Copies the bytes from `offset` on over the beginning of `target`, as many as it has
room for; gives their number and the target. -/
def readInto (b : Buffer) (offset : Nat) (target : ByteArray) : Nat × ByteArray :=
  match b.range? offset target.size with
  | some (first, last) =>
    (last - first, b.contents.extract first last ++ target.extract (last - first) target.size)
  | none => (0, target)

/-! ### Statistics -/

/-- The counts together with the present sizes. -/
structure Stats where
  counts : Counts := {}
  capacity : Nat := 0
  committed : Nat := 0
  deriving DecidableEq, Repr

def stats (b : Buffer) : Stats :=
  ⟨b.counts, b.capacity, b.contents.size⟩

/-- The diagnostic form. -/
def inspect (b : Buffer) : String :=
  Text.record "LogBuffer"
    [("capacity", toString b.capacity), ("committed", toString b.contents.size),
     ("max_entry_size", toString b.maxEntry),
     ("max_capacity", Text.optional toString b.ceiling)]

/-! ### What each operation does to the contents -/

theorem append_of_makeRoom_eq_ok {b roomy : Buffer} {entry : ByteArray}
    (h : b.makeRoom entry.size = .ok roomy) :
    b.append entry = (.ok entry.size, roomy.commit entry) := by
  simp [append, h]

theorem append_of_makeRoom_eq_error {b : Buffer} {entry : ByteArray} {cause : Failure}
    (h : b.makeRoom entry.size = .error cause) :
    b.append entry = (.error cause, { b with counts := b.counts.refuse cause }) := by
  simp [append, h]

/-- A new log is empty. -/
theorem contents_of_allocate {initial maxEntry : Nat} {ceiling : Option Nat} {b : Buffer}
    (h : allocate initial maxEntry ceiling = .ok b) : b.contents = .empty := by
  unfold allocate at h
  split at h
  · cases h
  · split at h <;> cases h
    rfl

/-- Nothing is lost by moving. -/
@[simp] theorem contents_move (b : Buffer) (capacity : Nat) :
    (b.move capacity).contents = b.contents :=
  ByteArray.empty_append

@[simp] theorem contents_commit (b : Buffer) (entry : ByteArray) :
    (b.commit entry).contents = b.contents ++ entry := rfl

theorem contents_of_grow_eq_ok {b roomy : Buffer} {required : Nat}
    (h : b.grow required = .ok roomy) : roomy.contents = b.contents := by
  unfold grow at h
  split at h
  · cases h
  · split at h <;> cases h
    exact contents_move ..

/-- Making room keeps the contents, whether or not the log moves. -/
theorem contents_of_makeRoom_eq_ok {b roomy : Buffer} {size : Nat}
    (h : b.makeRoom size = .ok roomy) : roomy.contents = b.contents := by
  unfold makeRoom at h
  split at h
  · cases h
  · split at h
    · exact contents_of_grow_eq_ok h
    · cases h
      rfl

/-- An entry is committed whole or not at all. -/
theorem contents_append (b : Buffer) (entry : ByteArray) :
    (b.append entry).2.contents =
      if (b.append entry).1.toBool then b.contents ++ entry else b.contents := by
  cases hroom : b.makeRoom entry.size with
  | error cause =>
    rw [append_of_makeRoom_eq_error hroom]
    rfl
  | ok roomy =>
    rw [append_of_makeRoom_eq_ok hroom]
    show roomy.contents ++ entry = b.contents ++ entry
    rw [contents_of_makeRoom_eq_ok hroom]

@[simp] theorem contents_withQuota (b : Buffer) (quota : Option Nat) :
    (b.withQuota quota).contents = b.contents := rfl

end Buffer

end DeferredLog
