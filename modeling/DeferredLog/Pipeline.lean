import DeferredLog.Buffer
import DeferredLog.Cell
import DeferredLog.Pending
import DeferredLog.Producer
import DeferredLog.StopLine

/-!
# From the trigger to the log

The trigger writes an entry into the cell and requests a drain; the appender claims the request,
takes the entry and appends it. The order is what makes the pair safe: the trigger publishes before
it requests, the appender claims before it takes, so an entry that misses one drain has requested
the next.

The operations here are those a caller can drive by hand. `Pipeline.Tasks` runs the same operations
from two tasks on a virtual clock, and the fields from `trigger` on are theirs.
-/

namespace DeferredLog

/-- What the drains have done. -/
structure DrainStats where
  drains : Nat := 0
  emptyDrains : Nat := 0
  committed : Nat := 0
  dropped : Nat := 0
  deriving DecidableEq, Repr

/-- The diagnostic form. -/
def DrainStats.inspect (s : DrainStats) : String :=
  Text.record "AppenderStats"
    [("drains", toString s.drains), ("empty_drains", toString s.emptyDrains),
     ("committed", toString s.committed), ("dropped", toString s.dropped)]

/-- Every count of a log, from the trigger to the buffer. -/
structure Stats where
  scratch : Cell.Stats := {}
  pending : Pending.Stats := {}
  appender : DrainStats := {}
  buffer : Buffer.Stats := {}
  deriving DecidableEq, Repr

namespace Stats

/-- Fires of the trigger. -/
def ticks (s : Stats) : Nat :=
  s.scratch.published

/-- Entries that the next one overwrote. -/
def superseded (s : Stats) : Nat :=
  s.scratch.superseded

/-- Entries that never reached the log. -/
def lost (s : Stats) : Nat :=
  s.scratch.superseded + s.appender.dropped

end Stats

/-- What one fire of the trigger did. -/
structure Fired where
  tick : Nat
  publication : Publication
  scheduling : Scheduling
  deriving DecidableEq, Repr

/-- When the trigger fires: `period` nanoseconds apart, next at `next` of the virtual time. -/
structure Timetable where
  period : Nat
  next : Nat
  period_pos : 0 < period
  deriving DecidableEq

/-- How far the trigger's task has come. -/
inductive TriggerTask where
  | absent
  /-- Handed to the scheduler, not run yet. -/
  | spawned (period : Duration)
  | armed (timetable : Timetable)
  | finished (broken : Bool)
  deriving DecidableEq

/-- How far the appender's task has come. -/
inductive AppenderTask where
  | absent
  | spawned
  /-- Asleep until the waiter of this number is notified. -/
  | asleep (waiter : Nat)
  | finished
  deriving DecidableEq

/-- The two tasks. -/
inductive Role where
  | trigger
  | appender
  deriving DecidableEq, Repr

/-- A trigger, a cell, an appender and a log, and the tasks that run them. -/
structure Pipeline where
  cell : Cell
  buffer : Buffer
  pending : Pending := {}
  drains : DrainStats := {}
  producer : Producer := .timer
  /-- How old the trigger is at each of its ticks. The machine's own clock tells that, and the
  virtual time says nothing about it. -/
  uptime : Nat → Duration := fun _ ↦ .ofMillis 0
  /-- Ticks so far. -/
  tick : Nat := 0
  trigger : TriggerTask := .absent
  appender : AppenderTask := .absent
  /-- The line on which the trigger is told to stop. -/
  triggerLine : StopLine := {}
  /-- The line on which the appender is told to stop. -/
  appenderLine : StopLine := {}
  /-- The tasks that were woken and have not run since, longest first. -/
  ready : List Role := []
  /-- The virtual time in nanoseconds. -/
  now : Nat := 0
  /-- What was told so far, latest first. -/
  journal : List Record := []

namespace Pipeline

/-- A pipeline by hand: a new cell over a new log, which tells its birth. -/
def make (scratchCapacity : Nat) (buffer : Buffer) (producer : Producer)
    (uptime : Nat → Duration := fun _ ↦ .ofMillis 0) : Pipeline :=
  { cell := .empty scratchCapacity, buffer, producer, uptime,
    journal := [{ notice := buffer.birth }] }

/-- Tells something. -/
def note (p : Pipeline) (notice : Notice) (span : Option Span := none) : Pipeline :=
  { p with journal := { notice, span } :: p.journal }

/-- Tells several things in order. -/
def noteAll (p : Pipeline) (notices : List Notice) : Pipeline :=
  notices.foldl (fun p notice ↦ p.note notice) p

/-- Marks a task as woken. -/
def wake (p : Pipeline) (role : Role) : Pipeline :=
  if p.ready.contains role then p else { p with ready := p.ready ++ [role] }

/-! ### The trigger's side -/

/-- Publishes an entry without requesting a drain. -/
def publish (p : Pipeline) (entry : ByteArray) : Publication × Pipeline :=
  let r := p.cell.publish entry
  (r.1, { p with cell := r.2 })

/-- Formats and publishes an entry without requesting a drain. -/
def write (p : Pipeline) (parts : List Part) : Option Publication × Pipeline :=
  let r := p.cell.write parts
  (r.1, { p with cell := r.2 })

/-- Requests a drain, which wakes the appender if it sleeps on the notified waiter. -/
def schedule (p : Pipeline) : Scheduling × Pipeline :=
  let s := p.pending.schedule
  let q := { p with pending := s.pending }
  match p.appender, s.woken with
  | .asleep waiter, some woken => (s.outcome, if waiter = woken then q.wake .appender else q)
  | _, _ => (s.outcome, q)

/-- One tick: an entry from the producer into the cell, then a request for a drain. If the producer
breaks down only the tick is gone. -/
def fire (p : Pipeline) : Option Fired × Pipeline :=
  let p := { p with tick := p.tick + 1 }
  match p.write (p.producer p.tick (p.uptime p.tick)) with
  | (none, q) => (none, q)
  | (some publication, q) =>
    let r := q.schedule
    (some ⟨p.tick, publication, r.1⟩, r.2)

/-! ### The appender's side -/

/-- Takes the owed drain over. -/
def claim (p : Pipeline) : Bool × Pipeline :=
  let r := p.pending.claim
  (r.1, { p with pending := r.2 })

/-- Appends an entry to the log directly. -/
def append (p : Pipeline) (entry : ByteArray) : Except Failure Nat × Pipeline :=
  let r := p.buffer.append entry
  (r.1, { p with buffer := r.2 }.noteAll (p.buffer.appendNotices entry.size))

/-- Commits an entry that was taken from the cell, or drops it if the log refuses it. -/
def commit (p : Pipeline) (entry : ByteArray) : Except Failure (Option Nat) × Pipeline :=
  match p.append entry with
  | (.ok written, q) =>
    (.ok (some written),
      { q with drains.committed := q.drains.committed + 1 }.note
        (.entryCommitted written q.buffer.committed))
  | (.error cause, q) =>
    (.error cause,
      { q with drains.dropped := q.drains.dropped + 1 }.note (.entryDropped entry.size cause))

/-- One drain: claims what is owed, takes the entry from the cell and appends it. Gives the bytes
committed, or none if nothing waited. -/
def drain (p : Pipeline) : Except Failure (Option Nat) × Pipeline :=
  let p := p.claim.2
  let p := { p with drains.drains := p.drains.drains + 1 }
  match p.cell.take with
  | (none, _) =>
    (.ok none, { p with drains.emptyDrains := p.drains.emptyDrains + 1 }.note .drainEmpty)
  | (some entry, cell) => { p with cell }.commit entry

/-- Every count. -/
def stats (p : Pipeline) : Stats :=
  ⟨p.cell.stats, p.pending.stats, p.drains, p.buffer.stats⟩

/-- The diagnostic form of the trigger. -/
def inspectTrigger (p : Pipeline) : String :=
  Text.record "PeriodicTrigger"
    [("tick", toString p.tick), ("scratch_capacity", toString p.cell.capacity)]

/-- The diagnostic form of the appender. -/
def inspectAppender (p : Pipeline) : String :=
  Text.record "DeferredAppender"
    [("buffer", p.buffer.inspect), ("stats", p.drains.inspect)]

/-! ### What a drain leaves -/

@[simp] theorem pending_note (p : Pipeline) (notice : Notice) (span : Option Span) :
    (p.note notice span).pending = p.pending := rfl

@[simp] theorem pending_noteAll (p : Pipeline) (notices : List Notice) :
    (p.noteAll notices).pending = p.pending := by
  induction notices generalizing p with
  | nil => rfl
  | cons notice rest ih => simpa [noteAll] using ih (p.note notice)

theorem pending_append (p : Pipeline) (entry : ByteArray) :
    (p.append entry).2.pending = p.pending := by
  simp [append]

theorem pending_commit (p : Pipeline) (entry : ByteArray) :
    (p.commit entry).2.pending = p.pending := by
  have h := pending_append p entry
  unfold commit
  split <;> simp_all

/-- A drain takes the owed drain over and leaves the rest of the requests as they are. -/
theorem pending_drain (p : Pipeline) : p.drain.2.pending = p.pending.claim.2 := by
  unfold drain
  dsimp only
  split
  · simp [claim]
  · rw [pending_commit]; rfl

end Pipeline

end DeferredLog
