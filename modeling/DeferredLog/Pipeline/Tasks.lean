import DeferredLog.Pipeline

/-!
# The two tasks on a virtual clock

Trigger and appender as tasks of one thread. A task runs only when it was woken, and then until it
has to wait again; woken tasks run in the order in which they were woken. Time moves only when a
caller moves it, by whole milliseconds.

* The trigger keeps its timetable to the nanosecond. It is woken at the first millisecond at which
  its next tick is due, and fires until the next tick lies in the future. A tick that is late by
  more than `tolerance` shifts the timetable to the present, otherwise the timetable is kept, so
  small delays are caught up in a burst and large ones are forgiven. No tick but the first is put
  further off than `horizon`. With a period of a millisecond or more a burst has six ticks at most;
  one that is longer than a scheduler lets a task run is not broken up here.
* The appender is woken through its waiter. It drains if a drain is owed and sleeps again; a
  notification whose drain someone else has claimed leads to no drain.
* Both look first whether they were told to stop. The trigger then ends without firing; the appender
  drains once more if a drain is owed or an entry waits, and ends.

A run of the appender ends because each round uses up something that could have woken it
(`Pending.stimuli`), a burst of the trigger because each fire moves the timetable on.
-/

namespace DeferredLog

namespace Timetable

/-- Nanoseconds that a tick may be late without shifting the timetable. -/
def tolerance : Nat := 5 * 1000000

/-- Nanoseconds from a tick to the furthest that a next one is ever put: thirty years of 365 days.
Only the first tick may be further off. -/
def horizon : Nat := 30 * 365 * 24 * 60 * 60 * 1000000000

/-- The end of the clock. It counts seconds in 63 bits, and the virtual time never starts where the
count does: an hour is allowed for what it shows then. -/
def clockEnd : Nat := ((1 <<< 63) - 60 * 60) * 1000000000

/-- A timetable that begins one period from `now`. There is none for an empty period, nor for one
that reaches beyond the end of the clock. -/
def start? (now : Nat) (period : Duration) : Option Timetable :=
  if h : now + period.totalNanos < clockEnd ∧ 0 < period.totalNanos then
    some ⟨period.totalNanos, now + period.totalNanos, h.2⟩
  else none

/-- The timetable after the tick that was due at `next` and came at `now`. -/
def after (t : Timetable) (now : Nat) : Timetable :=
  let regular := (if t.next + tolerance < now then now else t.next) + t.period
  { t with next := min regular (now + horizon) }

/-- A tick that has come is followed by a later one. -/
theorem next_lt_next_after {t : Timetable} {now : Nat} (h : t.next ≤ now) :
    t.next < (t.after now).next := by
  have := t.period_pos
  have : 0 < horizon := by decide
  simp only [after]
  split <;> omega

/-- A period beyond the horizon holds for the first tick only. -/
example : ((Timetable.mk (2 * horizon) (2 * horizon) (by decide)).after (2 * horizon)).next =
    3 * horizon := by decide

end Timetable

namespace Pipeline

/-! ### Handing tasks over and stopping them -/

/-- Hands the trigger to the scheduler. -/
def spawnTrigger (p : Pipeline) (period : Duration) : Pipeline :=
  { p with trigger := .spawned period }.wake .trigger

/-- Hands the appender to the scheduler. -/
def spawnAppender (p : Pipeline) : Pipeline :=
  { p with appender := .spawned }.wake .appender

/-- Tells the trigger to stop, by a word or by hanging up; it may not have been spawned yet. -/
def stopTrigger (p : Pipeline) (signal : Signal := .word) : Pipeline :=
  let p := { p with triggerLine := p.triggerLine.signal signal }
  match p.trigger with
  | .spawned _ | .armed _ => p.wake .trigger
  | _ => p

/-- Tells the appender to stop, by a word or by hanging up; it may not have been spawned yet. -/
def stopAppender (p : Pipeline) (signal : Signal := .word) : Pipeline :=
  let p := { p with appenderLine := p.appenderLine.signal signal }
  match p.appender with
  | .spawned | .asleep _ => p.wake .appender
  | _ => p

/-! ### Running the trigger -/

/-- Fires until the next tick lies after `now`, or the producer breaks down. -/
def fireDue (now : Nat) (t : Timetable) (p : Pipeline) : Pipeline :=
  if _ : t.next ≤ now then
    match p.fire with
    | (some _, q) => fireDue now (t.after now) q
    | (none, q) => { q with trigger := .finished true }
  else { p with trigger := .armed t }
termination_by now + 1 - t.next
decreasing_by have := Timetable.next_lt_next_after ‹t.next ≤ now›; omega

/-- Goes on with a timetable, unless told to stop. -/
def runTrigger (p : Pipeline) (t : Timetable) : Pipeline :=
  if p.triggerLine.sounds then
    { p with trigger := .finished false }.note (.triggerDisarmed p.tick)
  else fireDue p.now t p

/-- Runs the trigger's task until it has to wait. -/
def pollTrigger (p : Pipeline) : Pipeline :=
  match p.trigger with
  | .spawned period =>
    let p := p.note (.triggerArmed (period.millis % UInt64.size))
    match Timetable.start? p.now period with
    | some t => p.runTrigger t
    | none => { p with trigger := .finished true }
  | .armed t => p.runTrigger t
  | .absent | .finished _ => p

/-! ### Running the appender -/

/-- Ends the appender, after one more drain if there is something left to do. -/
def finishAppender (p : Pipeline) (waiter : Nat) : Pipeline :=
  let p := if p.pending.owed || p.cell.hasPending then (p.note .finalDrain).drain.2 else p
  let p := { p with pending := (p.pending.leave waiter).2, appender := .finished }
  p.note (.appenderStopped p.drains.drains p.drains.committed p.drains.dropped
    p.cell.stats.superseded)

/-- Drains if a drain is owed. -/
def drainOwed (p : Pipeline) : Pipeline :=
  if p.pending.owed then p.drain.2 else p

theorem pending_drainOwed (p : Pipeline) : p.drainOwed.pending = p.pending.claim.2 := by
  unfold drainOwed
  split
  · exact p.pending_drain
  · next h =>
    rw [Bool.not_eq_true] at h
    simp [Pending.claim, ← h]

/-- Waits through one waiter after the other, draining in between, until a wait is not over. -/
def runAppender (p : Pipeline) (waiter : Nat) : Pipeline :=
  let answer := p.pending.poll waiter
  if answer.1 = .ready then
    let p := { p with pending := answer.2 }.drainOwed
    { p with pending := p.pending.wait.2 }.runAppender p.pending.wait.1
  else { p with pending := answer.2, appender := .asleep waiter }
termination_by p.pending.stimuli
decreasing_by
  simp only [pending_drainOwed, Pending.stimuli_wait]
  exact Pending.stimuli_claim_poll_lt ‹_›

/-- Runs the appender's task until it has to wait. -/
def pollAppender (p : Pipeline) : Pipeline :=
  match p.appender with
  | .spawned =>
    let r := p.pending.wait
    go ({ p with pending := r.2 }.note .appenderStarted) r.1
  | .asleep waiter => go p waiter
  | .absent | .finished => p
where
  /-- Looks first whether the task was told to stop. -/
  go (p : Pipeline) (waiter : Nat) : Pipeline :=
    if p.appenderLine.sounds then p.finishAppender waiter else p.runAppender waiter

/-! ### Running what was woken -/

/-- Runs the task that was woken first, if any was. -/
def turn (p : Pipeline) : Pipeline :=
  match p.ready with
  | [] => p
  | .trigger :: rest => { p with ready := rest }.pollTrigger
  | .appender :: rest => { p with ready := rest }.pollAppender

/-- Runs woken tasks until none is left. Only the trigger wakes another task, and only the appender,
so three turns are enough. -/
def settle (p : Pipeline) : Pipeline :=
  p.turn.turn.turn

/-! ### Moving the clock -/

/-- Moves the clock and wakes the trigger if its next tick is due then. -/
def advance (p : Pipeline) (ms : Nat) : Pipeline :=
  let p := { p with now := p.now + 1000000 * ms }
  match p.trigger with
  | .armed t => if t.next ≤ p.now then p.wake .trigger else p
  | _ => p

/-- Milliseconds until the trigger is woken for its next tick, if it has one. They are rounded up,
since an alarm must not ring early. -/
def untilDue (p : Pipeline) : Option Nat :=
  match p.trigger with
  | .armed t => some ((t.next - p.now + 999999) / 1000000)
  | _ => none

/-- Lets `ms` milliseconds go by, with a halt at every tick on the way. -/
def elapse (ms : Nat) (p : Pipeline) : Pipeline :=
  match p.untilDue with
  | some wait =>
    if 0 < wait ∧ wait ≤ ms then elapse (ms - wait) (p.advance wait).settle
    else (p.advance ms).settle
  | none => (p.advance ms).settle
termination_by ms

/-- Sleeps: what is ready runs, then the time goes by. -/
def sleep (p : Pipeline) (ms : Nat) : Pipeline :=
  elapse ms p.settle

/-- Jumps: what is ready runs, then the clock moves at once, however many ticks that skips. -/
def jump (p : Pipeline) (ms : Nat) : Pipeline :=
  (p.settle.advance ms).settle

end Pipeline

end DeferredLog
