import DeferredLog.Pipeline.Tasks
import DeferredLog.Proofs.Cell.Mailbox

/-!
# What each operation of a pipeline changes

One equation for each operation, naming every component it changes. Two of them no theorem asks
about: what was told (`journal`) and which tasks were woken (`ready`); they stand in the equations
as some value. Everything else the record update leaves out is unchanged, so later proofs rewrite
with an equation and read the components off.

An entry is given whole here: a fire or a write of parts publishes `Part.entry?` of the parts, and
the cell does the cutting.
-/

namespace DeferredLog.Pipeline

variable {p : Pipeline} {entry : ByteArray}

/-! ### Telling, waking and requesting -/

theorem noteAll_eq (p : Pipeline) (notices : List Notice) :
    ∃ journal, p.noteAll notices = { p with journal } := by
  induction notices generalizing p with
  | nil => exact ⟨p.journal, rfl⟩
  | cons notice rest ih => exact ih (p.note notice)

theorem wake_eq (p : Pipeline) (role : Role) : ∃ ready, p.wake role = { p with ready } := by
  unfold wake
  split
  · exact ⟨p.ready, rfl⟩
  · exact ⟨_, rfl⟩

theorem advance_eq (p : Pipeline) (ms : ℕ) :
    ∃ ready, p.advance ms = { p with now := p.now + 1000000 * ms, ready } := by
  unfold advance
  dsimp only
  split
  · split
    · exact wake_eq { p with now := p.now + 1000000 * ms } .trigger
    · exact ⟨p.ready, rfl⟩
  · exact ⟨p.ready, rfl⟩

theorem schedule_eq (p : Pipeline) :
    ∃ ready, p.schedule =
      (p.pending.schedule.outcome, { p with pending := p.pending.schedule.pending, ready }) := by
  unfold schedule
  dsimp only
  split
  · split
    · obtain ⟨ready, hready⟩ := wake_eq { p with pending := p.pending.schedule.pending } .appender
      exact ⟨ready, by rw [hready]⟩
    · exact ⟨p.ready, rfl⟩
  · exact ⟨p.ready, rfl⟩

/-! ### Publishing -/

theorem write_of_entry?_eq_none {parts : List Part} (h : Part.entry? parts = none) :
    p.write parts = (none, p) := by
  rw [write, Cell.write_eq_of_entry?_eq_none h]

theorem write_of_entry?_eq_some {parts : List Part} (h : Part.entry? parts = some entry) :
    p.write parts =
      (some (p.cell.publish entry).1, { p with cell := (p.cell.publish entry).2 }) := by
  rw [write, Cell.write_eq_of_entry?_eq_some h]

/-- What the producer gives for the next tick. -/
def nextParts (p : Pipeline) : List Part :=
  p.producer (p.tick + 1) (p.uptime (p.tick + 1))

/-- If the producer breaks down only the tick is gone. -/
theorem fire_of_entry?_eq_none (h : Part.entry? p.nextParts = none) :
    p.fire = (none, { p with tick := p.tick + 1 }) := by
  rw [nextParts] at h
  unfold fire
  dsimp only
  rw [write_of_entry?_eq_none h]

/-- A fire publishes the producer's entry and then requests a drain. -/
theorem fire_of_entry?_eq_some (h : Part.entry? p.nextParts = some entry) :
    ∃ ready, p.fire =
      (some ⟨p.tick + 1, (p.cell.publish entry).1, p.pending.schedule.outcome⟩,
        { p with
          tick := p.tick + 1
          cell := (p.cell.publish entry).2
          pending := p.pending.schedule.pending
          ready }) := by
  obtain ⟨ready, hready⟩ :=
    schedule_eq { p with tick := p.tick + 1, cell := (p.cell.publish entry).2 }
  refine ⟨ready, ?_⟩
  rw [nextParts] at h
  unfold fire
  dsimp only
  rw [write_of_entry?_eq_some h]
  dsimp only
  rw [hready]

/-! ### Appending and draining -/

theorem append_eq (p : Pipeline) (entry : ByteArray) :
    ∃ journal, p.append entry =
      ((p.buffer.append entry).1, { p with buffer := (p.buffer.append entry).2, journal }) := by
  obtain ⟨journal, hjournal⟩ := noteAll_eq { p with buffer := (p.buffer.append entry).2 }
    (p.buffer.appendNotices entry.size)
  exact ⟨journal, by rw [append, hjournal]⟩

/-- A commit appends and counts the outcome. -/
theorem commit_eq (p : Pipeline) (entry : ByteArray) :
    ∃ journal, p.commit entry =
      ((p.buffer.append entry).1.map some,
        { p with
          buffer := (p.buffer.append entry).2
          drains.committed := p.drains.committed + (p.buffer.append entry).1.toBool.toNat
          drains.dropped := p.drains.dropped + (!(p.buffer.append entry).1.toBool).toNat
          journal }) := by
  obtain ⟨journal, happend⟩ := append_eq p entry
  unfold commit
  rw [happend]
  cases (p.buffer.append entry).1 with
  | ok written => exact ⟨_, rfl⟩
  | error cause => exact ⟨_, rfl⟩

/-- A drain that finds nothing counts that and claims what was owed. -/
theorem drain_of_peek_eq_none (h : p.cell.peek = none) :
    ∃ journal, p.drain =
      (.ok none,
        { p with
          pending := p.pending.claim.2
          drains.drains := p.drains.drains + 1
          drains.emptyDrains := p.drains.emptyDrains + 1
          journal }) := by
  unfold drain claim
  dsimp only
  rw [Cell.take_eq, h]
  exact ⟨_, rfl⟩

/-- A drain that finds an entry takes it and appends it, whatever comes of that. -/
theorem drain_of_peek_eq_some (h : p.cell.peek = some entry) :
    ∃ journal, p.drain =
      ((p.buffer.append entry).1.map some,
        { p with
          cell := p.cell.take.2
          buffer := (p.buffer.append entry).2
          pending := p.pending.claim.2
          drains.drains := p.drains.drains + 1
          drains.committed := p.drains.committed + (p.buffer.append entry).1.toBool.toNat
          drains.dropped := p.drains.dropped + (!(p.buffer.append entry).1.toBool).toNat
          journal }) := by
  unfold drain claim
  dsimp only
  rw [Cell.take_eq, h]
  dsimp only
  obtain ⟨journal, hcommit⟩ := commit_eq
    { p with
      cell := { p.cell with drained := p.cell.seq }
      pending := p.pending.claim.2
      drains.drains := p.drains.drains + 1 } entry
  exact ⟨journal, hcommit⟩

end DeferredLog.Pipeline
