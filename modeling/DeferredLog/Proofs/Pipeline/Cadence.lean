import DeferredLog.Proofs.Buffer.Runs
import DeferredLog.Proofs.Pipeline.Lockstep
import Mathlib.Algebra.Ring.Nat

/-!
# A trigger that is never late

When time passes without jumps and the period is one of whole milliseconds, every tick comes exactly
when it is due, alone, and its entry is in the log before the next one comes. So the times of the
ticks are fixed beforehand (`Timetable.beat`), and at any time the number of ticks is known
(`Timetable.beats`). The alarm for a tick is set in whole milliseconds; all these times are such, so
it rings at the beat itself (`Pipeline.meets_of_untilDue`).

A `Routine` is what repeats itself tick after tick. `Work.Abreast` is the work after `n` ticks of
it, with the log as if the first `n` entries had been appended by hand. A fire and the drain that
answers it lead from `n` to `n + 1` (`Work.Abreast.tick`). `OnTime` says the same of a pipeline at
rest that waits for its next tick: moving the clock leaves it there (`OnTime.wait`) or brings that
tick (`OnTime.tick`), and sleeping is made of these two (`OnTime.sleep`).
-/

namespace DeferredLog

/-! ### When ticks come -/

/-- The nanoseconds of a period of whole milliseconds. -/
theorem Duration.totalNanos_eq {d : Duration} (h : d.nanos % 1000000 = 0) :
    d.totalNanos = 1000000 * d.millis := by
  unfold totalNanos millis
  omega

namespace Timetable

theorem start?_eq_some {period : Duration} {now : ℕ} (hclock : now + period.totalNanos < clockEnd)
    (hpos : 0 < period.totalNanos) :
    start? now period = some ⟨period.totalNanos, now + period.totalNanos, hpos⟩ :=
  dif_pos ⟨hclock, hpos⟩

variable {t : Timetable} {period now n : ℕ}

/-- When the tick after `n` ticks comes, if none was ever late. -/
def beat (period n : ℕ) : ℕ :=
  period + n * min period horizon

/-- The number of ticks that have come at `now`, if none was ever late. -/
def beats (period now : ℕ) : ℕ :=
  if now < period then 0 else (now - period) / min period horizon + 1

theorem beat_succ (period n : ℕ) : beat period (n + 1) = beat period n + min period horizon := by
  rw [beat, beat, Nat.succ_mul, Nat.add_assoc]

theorem beat_le_beat {m : ℕ} (h : m ≤ n) : beat period m ≤ beat period n :=
  Nat.add_le_add_left (Nat.mul_le_mul_right _ h) period

/-- The beats of a period of whole milliseconds fall on whole milliseconds. -/
theorem dvd_beat (h : 1000000 ∣ period) (n : ℕ) : 1000000 ∣ beat period n := by
  have hmin : 1000000 ∣ min period horizon := by
    rcases Nat.le_total period horizon with hle | hle
    · rwa [Nat.min_eq_left hle]
    · rw [Nat.min_eq_right hle]
      decide
  exact Nat.dvd_add h (Nat.dvd_mul_left_of_dvd hmin n)

/-- Between two beats the number of ticks is the number of beats that are over. -/
theorem beats_eq (hpassed : ∀ m < n, beat period m ≤ now) (hnext : now < beat period n) :
    beats period now = n := by
  cases n with
  | zero =>
    rw [beat, Nat.zero_mul, Nat.add_zero] at hnext
    exact if_pos hnext
  | succ n =>
    have hlast := hpassed n (Nat.lt_succ_self n)
    rw [beat] at hlast hnext
    rw [beats, if_neg (Nat.not_lt.2 (Nat.le_trans (Nat.le_add_right _ _) hlast)), Nat.succ_inj]
    exact Nat.div_eq_of_lt_le (by omega) (by omega)

/-- A period within the horizon divides the time evenly. -/
theorem beats_eq_div (hpos : 0 < period) (hhorizon : period ≤ horizon) (now : ℕ) :
    beats period now = now / period := by
  rw [beats, Nat.min_eq_left hhorizon]
  split
  · next hlt => exact (Nat.div_eq_of_lt hlt).symm
  · next hle => exact (Nat.div_eq_sub_div hpos (Nat.not_lt.1 hle)).symm

/-- A tick on time keeps the timetable, up to the horizon. -/
theorem after_of_eq (h : t.next = now) :
    t.after now = { t with next := now + min t.period horizon } := by
  have hregular : min (now + t.period) (now + horizon) = now + min t.period horizon :=
    Nat.add_min_add_left now t.period horizon
  rw [after, h, if_neg (Nat.not_lt.2 (Nat.le_add_right now tolerance)), hregular]

/-- A tick on time is the only one due. -/
theorem due_of_eq (h : t.next = now) : t.due now = 1 := by
  have hlater : now < (t.after now).next := by
    rw [← h]
    exact next_lt_next_after (Nat.le_refl t.next)
  rw [due_of_le (Nat.le_of_eq h), due_of_lt hlater]

end Timetable

/-! ### The work of ticks on time -/

/-- What repeats itself tick after tick: a trigger that fires every `period` nanoseconds, which are
whole milliseconds, with a producer that never breaks down and makes known entries at the uptimes it
is given, for a log `log` behind a cell with room for `room` bytes. -/
structure Routine where
  producer : Producer
  uptime : ℕ → Duration
  period : ℕ
  room : ℕ
  log : Buffer
  /-- The entry of each tick, before it is cut. -/
  entry : ℕ → ByteArray
  period_pos : 0 < period
  whole : 1000000 ∣ period
  steady : producer.Steady
  entry_eq : ∀ n, Part.entry? (producer (n + 1) (uptime (n + 1))) = some (entry (n + 1))

namespace Routine

/-- The steps that append the first `n` entries, each cut to the room of the cell. -/
def offered (g : Routine) (n : ℕ) : List Buffer.Step :=
  (List.range n).map fun k ↦ .append (Draft.cut g.room (g.entry (k + 1)))

theorem offered_succ (g : Routine) (n : ℕ) :
    g.offered (n + 1) = g.offered n ++ [.append (Draft.cut g.room (g.entry (n + 1)))] := by
  rw [offered, List.range_succ, List.map_append]
  rfl

end Routine

namespace Work

variable {w : Work} {g : Routine} {n : ℕ}

/-- The work after `n` ticks of a routine, each drained before the next: nothing waits, and the log
has been offered the first `n` entries. -/
structure Abreast (w : Work) (g : Routine) (n : ℕ) : Prop where
  behind : w.cell.Behind 0
  room_eq : w.cell.capacity = g.room
  producer_eq : w.producer = g.producer
  uptime_eq : w.uptime = g.uptime
  owed_eq : w.owed = false
  tick_eq : w.tick = n
  published_eq : w.cell.stats.published = n
  superseded_eq : w.cell.stats.superseded = 0
  coalesced_eq : w.requests.coalesced = 0
  buffer_eq : w.buffer = g.log.run (g.offered n)

theorem Abreast.hasPending_eq (h : w.Abreast g n) : w.cell.hasPending = false :=
  Bool.eq_false_iff.2 fun hwaits ↦ (h.behind.hasPending_iff (by decide)).1 hwaits rfl

/-- The work is abreast at any time before the next tick. -/
theorem Abreast.with_now (h : w.Abreast g n) (now : ℕ) : Abreast { w with now } g n where
  behind := h.behind
  room_eq := h.room_eq
  producer_eq := h.producer_eq
  uptime_eq := h.uptime_eq
  owed_eq := h.owed_eq
  tick_eq := h.tick_eq
  published_eq := h.published_eq
  superseded_eq := h.superseded_eq
  coalesced_eq := h.coalesced_eq
  buffer_eq := h.buffer_eq

/-- A fire, and the drain that it requests. -/
theorem Abreast.tick (h : w.Abreast g n) :
    (w.fire.attend .running false).Abreast g (n + 1) ∧
      (w.fire.attend .running false).now = w.now := by
  let c := (w.cell.publish (g.entry (n + 1))).2
  let v : Work := { w with tick := n + 1, cell := c }
  have hfire : w.fire = { v with owed := true, requests.queued := w.requests.queued + 1 } := by
    have hentry : Part.entry? (w.producer (w.tick + 1) (w.uptime (w.tick + 1))) =
        some (g.entry (n + 1)) := by
      rw [h.producer_eq, h.uptime_eq, h.tick_eq]
      exact g.entry_eq n
    rw [fire_of_entry?_eq_some hentry, h.tick_eq]
    exact request_of_not_owed (w := v) h.owed_eq
  have hcapacity : c.capacity = g.room := (Cell.capacity_publish _ _).trans h.room_eq
  have hpeek : w.fire.cell.peek = some (Draft.cut g.room (g.entry (n + 1))) := by
    have hholds : c.Holds [g.entry (n + 1)] := (Cell.holds_nil h.behind).publish _
    rw [hfire, ← hcapacity]
    exact hholds.peek_eq (Nat.one_lt_two_pow (by decide))
  have hsuperseded : c.stats.superseded = 0 := by
    show w.cell.stats.superseded + (if w.cell.hasPending then 1 else 0) = 0
    rw [h.superseded_eq, h.hasPending_eq]
    rfl
  have hattend : w.fire.attend .running false = w.fire.drain := by
    rw [attend_running, hfire]
    rfl
  rw [hattend, drain_of_peek_eq_some hpeek, hfire]
  refine ⟨?_, rfl⟩
  exact
    { behind := c.behind_take
      room_eq := (Cell.capacity_take c).trans hcapacity
      producer_eq := h.producer_eq
      uptime_eq := h.uptime_eq
      owed_eq := rfl
      tick_eq := rfl
      published_eq := by
        show c.take.2.stats.published = n + 1
        rw [Cell.stats_take]
        exact congrArg (· + 1) h.published_eq
      superseded_eq := by
        show c.take.2.stats.superseded = 0
        rw [Cell.stats_take, hsuperseded]
      coalesced_eq := h.coalesced_eq
      buffer_eq := by
        rw [Routine.offered_succ, Buffer.run_append, ← h.buffer_eq]
        rfl }

end Work

/-! ### Pipelines on time -/

namespace Pipeline

variable {p : Pipeline} {g : Routine} {t : Timetable} {ms n : ℕ}

theorem advance_of_lt (htask : p.trigger = .armed t) (h : p.now + 1000000 * ms < t.next) :
    p.advance ms = { p with now := p.now + 1000000 * ms } := by
  unfold advance
  dsimp only
  split
  · next t' htask' =>
    obtain rfl : t = t' := TriggerTask.armed.inj (htask.symm.trans htask')
    exact if_neg (Nat.not_le.2 h)
  · rfl

theorem advance_of_le (htask : p.trigger = .armed t) (h : t.next ≤ p.now + 1000000 * ms) :
    p.advance ms = ({ p with now := p.now + 1000000 * ms } : Pipeline).wake .trigger := by
  unfold advance
  dsimp only
  split
  · next t' htask' =>
    obtain rfl : t = t' := TriggerTask.armed.inj (htask.symm.trans htask')
    exact if_pos h
  · next hother => exact absurd htask (hother t)

theorem untilDue_of_armed (htask : p.trigger = .armed t) :
    p.untilDue = some ((t.next - p.now + 999999) / 1000000) := by
  rw [untilDue, htask]

/-- The alarm of a tick that is due at a whole millisecond rings when the tick is due. -/
theorem meets_of_untilDue {wait : ℕ} (hwait : p.untilDue = some wait) (htask : p.trigger = .armed t)
    (hnow : 1000000 ∣ p.now) (hnext : 1000000 ∣ t.next) (hlt : p.now < t.next) :
    p.now + 1000000 * wait = t.next := by
  obtain rfl : (t.next - p.now + 999999) / 1000000 = wait :=
    Option.some.inj ((untilDue_of_armed htask).symm.trans hwait)
  omega

/-- A tick on time is the only one of its settling: one fire, and the drain that it requests. -/
theorem Orderly.settle_of_tick (h : p.Orderly) (htask : p.trigger = .armed t)
    (hline : p.triggerLine.sounds = false) (hline' : p.appenderLine.sounds = false)
    (hstage : p.appender.stage = .running) (hcome : t.next = p.now) :
    p.settle.work = p.work.fire.attend .running false ∧
      p.settle.trigger = .armed { t with next := p.now + min t.period Timetable.horizon } ∧
      p.settle.appender.stage = .running := by
  obtain ⟨hwork, htrigger, happender⟩ := h.settle_eq
  have hdue : t.due p.now = 1 := Timetable.due_of_eq hcome
  refine ⟨?_, ?_, ?_⟩
  · rw [hwork, prospect, ticksDue_of_armed htask hline, hdue, hstage, hline']
    rfl
  · rw [htrigger, nextTrigger_of_armed htask hline, hdue, Function.iterate_one,
      Timetable.after_of_eq hcome]
  · rw [happender, nextStage, hstage, hline']
    rfl

/-- A pipeline at rest between two ticks of a routine, none of which was ever late: `n` ticks have
come. -/
structure OnTime (p : Pipeline) (g : Routine) (n : ℕ) : Prop where
  alert : p.Alert none
  ready_eq : p.ready = []
  armed : ∃ t, p.trigger = .armed t ∧ t.period = g.period ∧ t.next = Timetable.beat g.period n
  silent : p.triggerLine.sounds = false ∧ p.appenderLine.sounds = false
  appender_eq : p.appender.stage = .running
  whole : 1000000 ∣ p.now
  passed : ∀ m < n, Timetable.beat g.period m ≤ p.now
  next : p.now < Timetable.beat g.period n
  work : p.work.Abreast g n

/-- The clock moves, and no tick is due yet. -/
theorem OnTime.wait (h : p.OnTime g n) (hms : p.now + 1000000 * ms < Timetable.beat g.period n) :
    (p.advance ms).settle.OnTime g n ∧ (p.advance ms).settle.now = p.now + 1000000 * ms := by
  obtain ⟨t, htask, -, hnext⟩ := h.armed
  have halert := h.alert.advance ms
  rw [advance_of_lt htask (hnext ▸ hms)] at halert ⊢
  rw [settle_of_ready_eq_nil (p := { p with now := p.now + 1000000 * ms }) h.ready_eq]
  exact ⟨⟨halert, h.ready_eq, h.armed, h.silent, h.appender_eq,
    Nat.dvd_add h.whole (Nat.dvd_mul_right _ _),
    fun m hm ↦ Nat.le_trans (h.passed m hm) (Nat.le_add_right _ _), hms,
    h.work.with_now (p.now + 1000000 * ms)⟩, rfl⟩

/-- The clock moves to the next tick, which comes and is drained. -/
theorem OnTime.tick (h : p.OnTime g n) (hms : p.now + 1000000 * ms = Timetable.beat g.period n) :
    (p.advance ms).settle.OnTime g (n + 1) ∧
      (p.advance ms).settle.now = p.now + 1000000 * ms := by
  obtain ⟨t, htask, hperiod, hnext⟩ := h.armed
  have hcome : t.next = p.now + 1000000 * ms := hnext.trans hms.symm
  let q : Pipeline := { p with now := p.now + 1000000 * ms, ready := [.trigger] }
  have hadvance : p.advance ms = q := by
    rw [advance_of_le htask (Nat.le_of_eq hcome), wake, h.ready_eq]
    rfl
  have halert : q.Alert none := hadvance ▸ h.alert.advance ms
  have hproducer : q.producer = g.producer := h.work.producer_eq
  have horderly : q.Orderly := ⟨halert, fun _ ↦ rfl, fun _ ↦ hproducer ▸ g.steady⟩
  obtain ⟨hwork, htrigger, hstage⟩ :=
    horderly.settle_of_tick htask h.silent.1 h.silent.2 h.appender_eq hcome
  obtain ⟨hlines, hlines'⟩ := lines_settle q
  obtain ⟨hafter, hnow⟩ := (h.work.with_now q.now).tick
  have hclock : q.settle.now = p.now + 1000000 * ms := (congrArg Work.now hwork).trans hnow
  have hlater : q.now + min t.period Timetable.horizon = Timetable.beat g.period (n + 1) := by
    rw [Timetable.beat_succ, hperiod, ← hms]
  rw [hadvance]
  refine ⟨?_, hclock⟩
  exact
    { alert := halert.turn.turn.turn
      ready_eq := ready_settle halert
      armed := ⟨_, htrigger, hperiod, hlater⟩
      silent := by
        rw [hlines, hlines']
        exact h.silent
      appender_eq := hstage
      whole := by
        rw [hclock]
        exact Nat.dvd_add h.whole (Nat.dvd_mul_right _ _)
      passed := fun m hm ↦ by
        rw [hclock, hms]
        exact Timetable.beat_le_beat (Nat.le_of_lt_succ hm)
      next := by
        rw [hclock, hms, Timetable.beat_succ]
        exact Nat.lt_add_of_pos_right (Nat.lt_min.2 ⟨g.period_pos, by decide⟩)
      work := hwork ▸ hafter }

/-- The alarm of the next tick rings on its beat. -/
theorem OnTime.meets {wait : ℕ} (h : p.OnTime g n) (hwait : p.untilDue = some wait) :
    p.now + 1000000 * wait = Timetable.beat g.period n := by
  obtain ⟨t, htask, -, hnext⟩ := h.armed
  rw [← hnext]
  exact meets_of_untilDue hwait htask h.whole (hnext ▸ Timetable.dvd_beat g.whole n)
    (hnext ▸ h.next)

/-- Time that goes by brings the ticks one by one. -/
theorem OnTime.elapse (h : p.OnTime g n) (ms : ℕ) :
    ∃ m, (Pipeline.elapse ms p).OnTime g m ∧
      (Pipeline.elapse ms p).now = p.now + 1000000 * ms := by
  -- along the halts: each is the next beat, so the clock meets every tick on time
  fun_induction Pipeline.elapse ms p generalizing n with
  | case1 ms p wait hwait hhalt ih =>
    obtain ⟨hticked, hclock⟩ := h.tick (h.meets hwait)
    obtain ⟨m, hm, hnow⟩ := ih hticked
    exact ⟨m, hm, by omega⟩
  | case2 ms p wait hwait hhalt =>
    have hmeets := h.meets hwait
    have hnext := h.next
    exact ⟨n, h.wait (by omega)⟩
  | case3 ms p hwait =>
    obtain ⟨t, htask, -, -⟩ := h.armed
    cases (untilDue_of_armed htask).symm.trans hwait

theorem OnTime.sleep (h : p.OnTime g n) (ms : ℕ) :
    ∃ m, (p.sleep ms).OnTime g m ∧ (p.sleep ms).now = p.now + 1000000 * ms := by
  rw [Pipeline.sleep, settle_of_ready_eq_nil h.ready_eq]
  exact h.elapse ms

/-- How the time was split does not matter. -/
theorem OnTime.naps (h : p.OnTime g n) (naps : List ℕ) :
    ∃ m, (naps.foldl Pipeline.sleep p).OnTime g m ∧
      (naps.foldl Pipeline.sleep p).now = p.now + 1000000 * naps.sum := by
  induction naps generalizing p n with
  | nil => exact ⟨n, h, rfl⟩
  | cons ms rest ih =>
    obtain ⟨l, hl, hnow⟩ := h.sleep ms
    obtain ⟨m, hm, hclock⟩ := ih hl
    exact ⟨m, hm, by rw [List.foldl_cons, hclock, hnow, List.sum_cons, Nat.mul_add, Nat.add_assoc]⟩

/-- The time tells how many ticks have come. -/
theorem OnTime.beats_eq (h : p.OnTime g n) : Timetable.beats g.period p.now = n :=
  Timetable.beats_eq h.passed h.next

end Pipeline

end DeferredLog
