import DeferredLog.Proofs.Pending.Line
import DeferredLog.Proofs.Pipeline.Effects
import Mathlib.Logic.Function.Iterate

/-!
# The work of a pipeline, apart from its tasks

Cell, log, requests and counts are what a pipeline works on; who waits, who was woken and what was
told belongs to the tasks. `Pipeline.work` forgets the tasks, and fires and drains go through it:
the work after one is determined by the work before (`work_fire`, `work_drain`). So what a task has
done can be compared with the same operations driven by hand, in states that differ in everything
but the work.

Two quantities tell what a task is about to do. `ticksDue` counts the ticks that the trigger has to
catch up with, `attend` is the drain that the appender has to make.
-/

namespace DeferredLog

/-! ### Ticks that are due -/

namespace Timetable

variable {t : Timetable} {now : ℕ}

/-- The number of ticks that are due at `now`. -/
def due (now : ℕ) (t : Timetable) : ℕ :=
  if _ : t.next ≤ now then due now (t.after now) + 1 else 0
termination_by now + 1 - t.next
decreasing_by have := next_lt_next_after ‹t.next ≤ now›; omega

@[simp] theorem period_after (t : Timetable) (now : ℕ) : (t.after now).period = t.period := by
  rw [after]

theorem due_of_le (h : t.next ≤ now) : t.due now = (t.after now).due now + 1 := by
  rw [due, dif_pos h]

theorem due_of_lt (h : now < t.next) : t.due now = 0 := by
  rw [due, dif_neg (Nat.not_le.2 h)]

theorem lt_next_after (h : now < t.next) : now < (t.after now).next := by
  have := t.period_pos
  have : 0 < horizon := by decide
  simp only [after]
  split <;> omega

/-- A timetable begins with its period, one period from now. -/
theorem of_start? {period : Duration} (h : start? now period = some t) :
    t.period = period.totalNanos ∧ t.next = now + period.totalNanos := by
  unfold start? at h
  split at h
  · cases h
    exact ⟨rfl, rfl⟩
  · cases h

/-- The first tick lies in the future. -/
theorem lt_next_of_start? {period : Duration} (h : start? now period = some t) : now < t.next := by
  obtain ⟨hperiod, hnext⟩ := of_start? h
  have := t.period_pos
  omega

/-- The ticks due are as many as it takes to get past the present. -/
theorem lt_next_iterate_after_iff {n : ℕ} :
    now < ((fun t ↦ t.after now)^[n] t).next ↔ t.due now ≤ n := by
  induction n generalizing t with
  | zero =>
    rw [Function.iterate_zero_apply, Nat.le_zero]
    rcases Nat.lt_or_ge now t.next with h | h
    · exact iff_of_true h (due_of_lt h)
    · exact iff_of_false (Nat.not_lt.2 h) (due_of_le h ▸ Nat.succ_ne_zero _)
  | succ n ih =>
    rw [Function.iterate_succ_apply, ih]
    rcases Nat.lt_or_ge now t.next with h | h
    · rw [due_of_lt h, due_of_lt (lt_next_after h)]
      exact iff_of_true (Nat.zero_le _) (Nat.zero_le _)
    · rw [due_of_le h, Nat.add_le_add_iff_right]

end Timetable

/-! ### Tasks from outside -/

/-- What can be seen of a task. -/
inductive Stage where
  | absent
  | running
  | finished
  deriving DecidableEq

/-- The stage of a task that has run and was told to stop or not. -/
def Stage.told (stage : Stage) (stopped : Bool) : Stage :=
  if stage = .running ∧ stopped then .finished else stage

def TriggerTask.stage : TriggerTask → Stage
  | .absent => .absent
  | .spawned _ | .armed _ => .running
  | .finished _ => .finished

def AppenderTask.stage : AppenderTask → Stage
  | .absent => .absent
  | .spawned | .asleep _ => .running
  | .finished => .finished

/-! ### The work -/

/-- A producer that never breaks down. -/
def Producer.Steady (producer : Producer) : Prop :=
  ∀ tick age, (Part.entry? (producer tick age)).isSome = true

/-- What a pipeline works on. -/
structure Work where
  cell : Cell
  buffer : Buffer
  /-- Whether a drain is owed. -/
  owed : Bool
  requests : Pending.Stats
  drains : DrainStats
  producer : Producer
  uptime : ℕ → Duration
  tick : ℕ
  now : ℕ

namespace Work

/-- A request for a drain. -/
def request (w : Work) : Work :=
  if w.owed then { w with requests.coalesced := w.requests.coalesced + 1 }
  else { w with owed := true, requests.queued := w.requests.queued + 1 }

/-- A fire. -/
def fire (w : Work) : Work :=
  match Part.entry? (w.producer (w.tick + 1) (w.uptime (w.tick + 1))) with
  | none => { w with tick := w.tick + 1 }
  | some entry => request { w with tick := w.tick + 1, cell := (w.cell.publish entry).2 }

/-- A drain. -/
def drain (w : Work) : Work :=
  match w.cell.peek with
  | none =>
    { w with
      owed := false
      drains.drains := w.drains.drains + 1
      drains.emptyDrains := w.drains.emptyDrains + 1 }
  | some entry =>
    { w with
      cell := w.cell.take.2
      buffer := (w.buffer.append entry).2
      owed := false
      drains.drains := w.drains.drains + 1
      drains.committed := w.drains.committed + (w.buffer.append entry).1.toBool.toNat
      drains.dropped := w.drains.dropped + (!(w.buffer.append entry).1.toBool).toNat }

/-- What an appender does about the work: it drains if a drain is owed, and a last time if it was
told to stop and an entry waits. -/
def attend (w : Work) (stage : Stage) (stopped : Bool) : Work :=
  if stage = .running ∧ (w.owed || stopped && w.cell.hasPending) then w.drain else w

variable {w : Work} {entry : ByteArray}

theorem fire_of_entry?_eq_none
    (h : Part.entry? (w.producer (w.tick + 1) (w.uptime (w.tick + 1))) = none) :
    w.fire = { w with tick := w.tick + 1 } := by
  rw [fire, h]

theorem fire_of_entry?_eq_some
    (h : Part.entry? (w.producer (w.tick + 1) (w.uptime (w.tick + 1))) = some entry) :
    w.fire = request { w with tick := w.tick + 1, cell := (w.cell.publish entry).2 } := by
  rw [fire, h]

theorem drain_of_peek_eq_none (h : w.cell.peek = none) :
    w.drain =
      { w with
        owed := false
        drains.drains := w.drains.drains + 1
        drains.emptyDrains := w.drains.emptyDrains + 1 } := by
  rw [drain, h]

theorem drain_of_peek_eq_some (h : w.cell.peek = some entry) :
    w.drain =
      { w with
        cell := w.cell.take.2
        buffer := (w.buffer.append entry).2
        owed := false
        drains.drains := w.drains.drains + 1
        drains.committed := w.drains.committed + (w.buffer.append entry).1.toBool.toNat
        drains.dropped := w.drains.dropped + (!(w.buffer.append entry).1.toBool).toNat } := by
  rw [drain, h]

/-- A drain leaves nothing owed. -/
@[simp] theorem owed_drain (w : Work) : w.drain.owed = false := by
  cases h : w.cell.peek with
  | none => rw [drain_of_peek_eq_none h]
  | some entry => rw [drain_of_peek_eq_some h]

/-- A drain leaves nothing waiting. -/
@[simp] theorem hasPending_cell_drain (w : Work) : w.drain.cell.hasPending = false := by
  cases h : w.cell.peek with
  | none =>
    rw [drain_of_peek_eq_none h]
    show w.cell.hasPending = false
    rw [← Cell.isSome_peek, h, Option.isSome_none]
  | some entry =>
    rw [drain_of_peek_eq_some h]
    exact w.cell.hasPending_take

theorem attend_of_stage_ne {stage : Stage} (h : stage ≠ .running) (stopped : Bool) :
    w.attend stage stopped = w :=
  if_neg fun hdrain ↦ h hdrain.1

theorem attend_absent (w : Work) (stopped : Bool) : w.attend .absent stopped = w :=
  if_neg fun hdrain ↦ nomatch hdrain.1

theorem attend_finished (w : Work) (stopped : Bool) : w.attend .finished stopped = w :=
  if_neg fun hdrain ↦ nomatch hdrain.1

theorem attend_running (w : Work) (stopped : Bool) :
    w.attend .running stopped =
      if w.owed || stopped && w.cell.hasPending then w.drain else w := by
  simp only [attend, true_and]

/-- An appender that was not told to stop leaves the work alone if nothing is owed. -/
theorem attend_of_owed_eq_false (h : w.owed = false) (stage : Stage) :
    w.attend stage false = w := by
  refine if_neg fun hdrain ↦ ?_
  rw [h, Bool.false_and] at hdrain
  exact Bool.false_ne_true hdrain.2

end Work

namespace Pipeline

variable {p : Pipeline} {entry : ByteArray}

/-- The work of a pipeline, without its tasks. -/
def work (p : Pipeline) : Work :=
  { cell := p.cell
    buffer := p.buffer
    owed := p.pending.owed
    requests := p.pending.stats
    drains := p.drains
    producer := p.producer
    uptime := p.uptime
    tick := p.tick
    now := p.now }

/-- A fire publishes the producer's entry into the next pipeline, which then requests a drain. -/
theorem snd_fire_of_entry?_eq_some (h : Part.entry? p.nextParts = some entry) :
    p.fire.2 = ({ p with
      tick := p.tick + 1
      cell := (p.cell.publish entry).2 } : Pipeline).schedule.2 := by
  rw [nextParts] at h
  unfold fire
  dsimp only
  rw [write_of_entry?_eq_some h]

theorem work_schedule (p : Pipeline) : p.schedule.2.work = p.work.request := by
  obtain ⟨ready, hschedule⟩ := schedule_eq p
  rw [hschedule]
  cases howed : p.pending.owed with
  | true =>
    have hrequest : p.work.request =
        { p.work with requests.coalesced := p.work.requests.coalesced + 1 } := if_pos howed
    rw [hrequest, Pending.schedule_of_owed howed]
    rfl
  | false =>
    have hrequest : p.work.request =
        { p.work with owed := true, requests.queued := p.work.requests.queued + 1 } :=
      if_neg (Bool.eq_false_iff.1 howed)
    have hpending := Pending.schedule_of_not_owed howed
    rw [hrequest, hpending]
    unfold work
    dsimp only
    rw [Pending.owed_notify, Pending.stats_notify]
    rfl

theorem work_fire (p : Pipeline) : p.fire.2.work = p.work.fire := by
  cases hentry : Part.entry? p.nextParts with
  | none =>
    rw [fire_of_entry?_eq_none hentry, Work.fire_of_entry?_eq_none hentry]
    rfl
  | some entry =>
    rw [snd_fire_of_entry?_eq_some hentry, work_schedule, Work.fire_of_entry?_eq_some hentry]
    rfl

theorem work_drain (p : Pipeline) : p.drain.2.work = p.work.drain := by
  cases hpeek : p.cell.peek with
  | none =>
    obtain ⟨journal, hdrain⟩ := drain_of_peek_eq_none hpeek
    rw [hdrain, Work.drain_of_peek_eq_none hpeek]
    rfl
  | some entry =>
    obtain ⟨journal, hdrain⟩ := drain_of_peek_eq_some hpeek
    rw [hdrain, Work.drain_of_peek_eq_some hpeek]
    rfl

/-- What no fire touches. -/
def besideTrigger (p : Pipeline) :
    AppenderTask × StopLine × StopLine × Buffer × DrainStats × Producer × (ℕ → Duration) × ℕ :=
  (p.appender, p.appenderLine, p.triggerLine, p.buffer, p.drains, p.producer, p.uptime, p.now)

theorem besideTrigger_fire (p : Pipeline) : p.fire.2.besideTrigger = p.besideTrigger := by
  cases hentry : Part.entry? p.nextParts with
  | none =>
    rw [fire_of_entry?_eq_none hentry]
    rfl
  | some entry =>
    obtain ⟨ready, hfire⟩ := fire_of_entry?_eq_some hentry
    rw [hfire]
    rfl

/-- What no drain touches. -/
def besideAppender (p : Pipeline) :
    TriggerTask × StopLine × StopLine × List Role × Producer × (ℕ → Duration) × ℕ × ℕ :=
  (p.trigger, p.triggerLine, p.appenderLine, p.ready, p.producer, p.uptime, p.tick, p.now)

theorem besideAppender_drain (p : Pipeline) : p.drain.2.besideAppender = p.besideAppender := by
  cases hpeek : p.cell.peek with
  | none =>
    obtain ⟨journal, hdrain⟩ := drain_of_peek_eq_none hpeek
    rw [hdrain]
    rfl
  | some entry =>
    obtain ⟨journal, hdrain⟩ := drain_of_peek_eq_some hpeek
    rw [hdrain]
    rfl

/-- Who waits is not part of the work. -/
theorem work_with_pending {pending : Pending} (howed : pending.owed = p.pending.owed)
    (hstats : pending.stats = p.pending.stats) : ({ p with pending } : Pipeline).work = p.work := by
  unfold work
  rw [howed, hstats]

/-! ### Several fires -/

/-- The pipeline after `n` fires by hand. -/
def fires (n : ℕ) (p : Pipeline) : Pipeline :=
  (fun q ↦ q.fire.2)^[n] p

@[simp] theorem fires_zero (p : Pipeline) : p.fires 0 = p := rfl

theorem fires_succ (n : ℕ) (p : Pipeline) : p.fires (n + 1) = p.fire.2.fires n := rfl

theorem work_fires (n : ℕ) (p : Pipeline) : (p.fires n).work = Work.fire^[n] p.work := by
  induction n generalizing p with
  | zero => rfl
  | succ n ih => rw [fires_succ, ih, work_fire, Function.iterate_succ_apply]

/-- What every fire keeps, several fires keep. -/
theorem fires_induction {P : Pipeline → Prop} (hfire : ∀ q, P q → P q.fire.2) (h : P p) (n : ℕ) :
    P (p.fires n) := by
  induction n generalizing p with
  | zero => exact h
  | succ n ih => exact ih (hfire p h)

theorem besideTrigger_fires (n : ℕ) (p : Pipeline) :
    (p.fires n).besideTrigger = p.besideTrigger :=
  fires_induction (P := fun q ↦ q.besideTrigger = p.besideTrigger)
    (fun q hq ↦ (besideTrigger_fire q).trans hq) rfl n

end Pipeline

end DeferredLog
