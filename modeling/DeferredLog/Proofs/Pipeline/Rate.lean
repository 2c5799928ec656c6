import DeferredLog.Proofs.Pipeline.Bursts
import DeferredLog.Proofs.Pipeline.Cadence

/-!
# How fast a trigger fires

The clock may skip any number of ticks at once, and the trigger catches up with some of them and
forgives the others. Yet it is never ahead of the beats: a tick moves the timetable on by a period
at least, so the tick after `n` ticks is due no earlier than `n` of them are over, and never more
than one period from now. `Timetable.Spaced` says both, and each tick keeps it, on time, a little
late or very late (`Spaced.after`).

`Pipeline.Paced` is a pipeline with a trigger on such a timetable. Whatever happens to the pipeline,
it stays paced as long as nobody fires by hand or tells the trigger to stop (`Paced.operate`). If
the clock does not skip anything either, it also stays `Punctual`, with the next tick exactly on its
beat (`Punctual.operate`). The rates follow (`Pipeline.rate_bounds`).

A beat is a period, up to a period of thirty years. A timetable with a longer one puts no tick but
the first that far off, and fires early (`Pipeline.early_of_thirty_years`).
-/

namespace DeferredLog

/-! ### Timetables -/

namespace Timetable

variable {t : Timetable} {period begun now fired : ℕ}

/-- The timetable of a trigger that was armed at `begun` and has fired `fired` times until `now`,
never ahead of the beats. -/
structure Spaced (t : Timetable) (period begun now fired : ℕ) : Prop where
  period_eq : t.period = period
  begun_le : begun ≤ now
  beat_le : begun + beat period fired ≤ t.next
  next_le : t.next ≤ now + period
  passed : ∀ n < fired, begun + beat period n ≤ now

theorem Spaced.mono {later : ℕ} (h : t.Spaced period begun now fired) (hle : now ≤ later) :
    t.Spaced period begun later fired where
  period_eq := h.period_eq
  begun_le := Nat.le_trans h.begun_le hle
  beat_le := h.beat_le
  next_le := Nat.le_trans h.next_le (Nat.add_le_add_right hle period)
  passed := fun n hn ↦ Nat.le_trans (h.passed n hn) hle

/-- However late a tick comes, the next one keeps its distance. -/
theorem Spaced.after (h : t.Spaced period begun now fired) (hdue : t.next ≤ now) :
    (t.after now).Spaced period begun now (fired + 1) where
  period_eq := (t.period_after now).trans h.period_eq
  begun_le := h.begun_le
  beat_le := by
    have hbeat := h.beat_le
    have hnext : t.next + min t.period horizon ≤ (t.after now).next := by
      simp only [Timetable.after]
      split <;> omega
    rw [h.period_eq] at hnext
    rw [beat_succ]
    omega
  next_le := by
    rw [← h.period_eq]
    simp only [Timetable.after]
    split <;> omega
  passed := fun n hn ↦ by
    rcases Nat.lt_succ_iff_lt_or_eq.1 hn with hlt | rfl
    · exact h.passed n hlt
    · exact Nat.le_trans h.beat_le hdue

theorem Spaced.iterate_after (h : t.Spaced period begun now fired) :
    ((fun t ↦ t.after now)^[t.due now] t).Spaced period begun now (fired + t.due now) := by
  fun_induction due now t generalizing fired with
  | case1 t hdue ih =>
    rw [Function.iterate_succ_apply, Nat.add_comm _ 1, ← Nat.add_assoc]
    exact ih (h.after hdue)
  | case2 t hdue => exact h

end Timetable

namespace Pipeline

variable {p q : Pipeline} {period begun before fired ms : ℕ}

/-! ### Pipelines at their pace -/

/-- A pipeline whose trigger was armed at `begun`, when there were `before` ticks, and has fired
`fired` times since. -/
structure Paced (p : Pipeline) (period begun before fired : ℕ) : Prop where
  alert : p.Alert none
  steady : p.producer.Steady
  silent : p.triggerLine.sounds = false
  armed : ∃ t, p.trigger = .armed t ∧ t.Spaced period begun p.now fired
  tick_eq : p.tick = before + fired

/-- What the pace depends on. -/
def gait (p : Pipeline) : TriggerTask × StopLine × Producer × ℕ × ℕ :=
  (p.trigger, p.triggerLine, p.producer, p.tick, p.now)

theorem Paced.of_gait_eq (h : p.Paced period begun before fired) (halert : q.Alert none)
    (hgait : q.gait = p.gait) : q.Paced period begun before fired := by
  simp only [gait, Prod.mk.injEq] at hgait
  obtain ⟨htrigger, hline, hproducer, htick, hnow⟩ := hgait
  exact ⟨halert, hproducer ▸ h.steady, hline ▸ h.silent, htrigger ▸ hnow ▸ h.armed,
    htick ▸ h.tick_eq⟩

theorem gait_wake (p : Pipeline) (role : Role) : (p.wake role).gait = p.gait := by
  obtain ⟨ready, hwake⟩ := wake_eq p role
  rw [hwake]
  rfl

theorem gait_stopAppender (p : Pipeline) (signal : Signal) :
    (p.stopAppender signal).gait = p.gait := by
  obtain ⟨ready, hstop⟩ := exists_stopAppender_eq p signal
  rw [hstop]
  rfl

/-- No act by hand concerns the pace but fires and the passing of time. -/
theorem gait_perform {a : Act} (hfire : a ≠ .fire) (hpass : ∀ ms, a ≠ .pass ms) (p : Pipeline) :
    (p.perform a).2.gait = p.gait := by
  obtain ⟨_, _, _, _, tick, _, ms, _, hperform, htick, hms⟩ := perform_eq p a
  obtain rfl := htick hfire
  obtain rfl := hms hpass
  rw [hperform]
  rfl

/-- Whether a move lets the trigger be: nobody fires by hand or tells it to stop. -/
def Move.sparesTrigger : Move → Bool
  | .act .fire => false
  | .stopTrigger _ => false
  | _ => true

/-- Whether time stands still in a move, and no task runs. -/
def Move.isStill : Move → Bool
  | .act (.pass _) => false
  | .settle => false
  | .sleep _ => false
  | .jump _ => false
  | _ => true

/-- Whether a move may skip ticks: the clock moves at once. -/
def Move.skips : Move → Bool
  | .act (.pass _) => true
  | .jump _ => true
  | _ => false

/-- A trigger that was handed over is not handed over again, so moves that spare it do not concern
its pace unless they let it run. -/
theorem gait_move {m : Move} (hpresent : p.trigger ≠ .absent) (hspares : m.sparesTrigger = true)
    (hstill : m.isStill = true) : (p.move m).gait = p.gait := by
  cases m with
  | act a =>
    refine gait_perform ?_ (fun ms ↦ ?_) p
    · rintro rfl
      cases hspares
    · rintro rfl
      cases hstill
  | spawnTrigger duration => exact congrArg gait (if_neg hpresent)
  | spawnAppender =>
    rw [Pipeline.move]
    split
    · exact gait_wake _ _
    · rfl
  | stopTrigger signal => cases hspares
  | stopAppender signal => exact gait_stopAppender p signal
  | settle => cases hstill
  | sleep ms => cases hstill
  | jump ms => cases hstill

theorem Alert.move (h : p.Alert none) (m : Move) : (p.move m).Alert none :=
  ((kept_of_work (Q := fun _ ↦ True) fun _ _ _ ↦ trivial).move m ⟨h, trivial⟩).1

/-- Settling fires for the ticks that are due, and then the next one lies ahead. -/
theorem Paced.settle (h : p.Paced period begun before fired) :
    p.settle.Paced period begun before (fired + p.ticksDue) ∧
      p.ticksDue ≤ Timetable.tolerance / period + 1 ∧
      ∃ t, p.settle.trigger = .armed t ∧ p.now < t.next := by
  obtain ⟨t, htask, hspaced⟩ := h.armed
  obtain ⟨htrigger, htick, hproducer, -, hnow⟩ := h.alert.settle_eq h.steady
  have hdue : p.ticksDue = t.due p.now := ticksDue_of_armed htask h.silent
  rw [nextTrigger_of_armed htask h.silent] at htrigger
  refine ⟨⟨h.alert.turn.turn.turn, hproducer ▸ h.steady, (lines_settle p).1 ▸ h.silent,
    ⟨_, htrigger, ?_⟩, ?_⟩, ?_, _, htrigger, Timetable.lt_next_iterate_after_iff.2 (Nat.le_refl _)⟩
  · rw [hnow, hdue]
    exact hspaced.iterate_after
  · rw [htick, h.tick_eq, Nat.add_assoc]
  · rw [hdue, ← hspaced.period_eq]
    exact Timetable.due_le_div p.now t

theorem Paced.advance (h : p.Paced period begun before fired) (ms : ℕ) :
    (p.advance ms).Paced period begun before fired := by
  obtain ⟨t, htask, hspaced⟩ := h.armed
  have halert := h.alert.advance ms
  obtain ⟨ready, hadvance⟩ := advance_eq p ms
  rw [hadvance] at halert ⊢
  exact ⟨halert, h.steady, h.silent, ⟨t, htask, hspaced.mono (Nat.le_add_right _ _)⟩, h.tick_eq⟩

theorem Paced.trigger_ne (h : p.Paced period begun before fired) : p.trigger ≠ .absent := by
  obtain ⟨t, htask, -⟩ := h.armed
  rw [htask]
  nofun

theorem Paced.move {m : Move} (h : p.Paced period begun before fired)
    (hspares : m.sparesTrigger = true) : ∃ later, (p.move m).Paced period begun before later := by
  have hsettle (q : Pipeline) (hq : ∃ fired, q.Paced period begun before fired) :
      ∃ later, q.settle.Paced period begun before later :=
    hq.elim fun fired hq ↦ ⟨_, hq.settle.1⟩
  have hadvance (q : Pipeline) (ms : ℕ) (hq : ∃ fired, q.Paced period begun before fired) :
      ∃ later, (q.advance ms).Paced period begun before later :=
    hq.elim fun fired hq ↦ ⟨fired, hq.advance ms⟩
  by_cases hstill : m.isStill = true
  · exact ⟨fired, h.of_gait_eq (h.alert.move m) (gait_move h.trigger_ne hspares hstill)⟩
  cases m with
  | act a =>
    cases a with
    | pass ms => exact ⟨fired, h.advance ms⟩
    | _ => exact absurd rfl hstill
  | settle => exact hsettle p ⟨fired, h⟩
  | sleep ms => exact elapse_induction hadvance hsettle ms (hsettle p ⟨fired, h⟩)
  | jump ms => exact hsettle _ (hadvance _ ms (hsettle p ⟨fired, h⟩))
  | _ => exact absurd rfl hstill

theorem Paced.operate {moves : List Move} (h : p.Paced period begun before fired)
    (hmoves : ∀ m ∈ moves, m.sparesTrigger = true) :
    ∃ later, (p.operate moves).Paced period begun before later := by
  induction moves generalizing p fired with
  | nil => exact ⟨fired, h⟩
  | cons m rest ih =>
    obtain ⟨hm, hrest⟩ := List.forall_mem_cons.1 hmoves
    obtain ⟨later, hmoved⟩ := h.move hm
    exact ih hmoved hrest

/-! ### Punctual pipelines -/

/-- A paced pipeline that skipped nothing, of whole milliseconds throughout: the next tick lies
ahead, and on its beat. -/
structure Punctual (p : Pipeline) (period begun before fired : ℕ) : Prop where
  paced : p.Paced period begun before fired
  whole : 1000000 ∣ period ∧ 1000000 ∣ begun ∧ 1000000 ∣ p.now
  next : ∃ t, p.trigger = .armed t ∧ t.next = begun + Timetable.beat period fired ∧ p.now < t.next

theorem Punctual.of_gait_eq (h : p.Punctual period begun before fired) (halert : q.Alert none)
    (hgait : q.gait = p.gait) : q.Punctual period begun before fired := by
  have hpaced := h.paced.of_gait_eq halert hgait
  simp only [gait, Prod.mk.injEq] at hgait
  obtain ⟨htrigger, -, -, -, hnow⟩ := hgait
  exact ⟨hpaced, hnow ▸ h.whole, htrigger ▸ hnow ▸ h.next⟩

theorem Punctual.settle (h : p.Punctual period begun before fired) :
    p.settle.Punctual period begun before fired := by
  obtain ⟨t, htask, hbeat, hlt⟩ := h.next
  have hrests : p.TriggerRests := by
    rw [TriggerRests, htask]
    exact .armed t h.paced.silent hlt
  obtain ⟨htrigger, -, -, -, hnow⟩ := h.paced.alert.settle_eq h.paced.steady
  have hpaced := h.paced.settle.1
  rw [hrests.ticksDue_eq] at hpaced
  exact ⟨hpaced, hnow ▸ h.whole, t, htrigger.trans (hrests.nextTrigger_eq.trans htask), hbeat,
    hnow ▸ hlt⟩

/-- A tick that comes on its beat is the only one due, and the next one is on its beat again. -/
theorem Paced.punctual_settle {t : Timetable} (h : p.Paced period begun before fired)
    (hwhole : 1000000 ∣ period ∧ 1000000 ∣ begun ∧ 1000000 ∣ p.now)
    (htask : p.trigger = .armed t) (hbeat : t.next = begun + Timetable.beat period fired)
    (hcome : t.next = p.now) : p.settle.Punctual period begun before (fired + 1) := by
  obtain ⟨t', htask', hspaced⟩ := h.armed
  obtain rfl : t = t' := TriggerTask.armed.inj (htask.symm.trans htask')
  obtain ⟨hpaced, -, u, hu, hlt⟩ := h.settle
  obtain ⟨htrigger, -, -, -, hnow⟩ := h.alert.settle_eq h.steady
  have hone : p.ticksDue = 1 :=
    (ticksDue_of_armed htask h.silent).trans (Timetable.due_of_eq hcome)
  have hnext : p.nextTrigger = .armed (t.after p.now) := by
    rw [nextTrigger_of_armed htask h.silent, Timetable.due_of_eq hcome]
    rfl
  obtain rfl : t.after p.now = u :=
    TriggerTask.armed.inj ((htrigger.trans hnext).symm.trans hu)
  rw [hone] at hpaced
  refine ⟨hpaced, hnow ▸ hwhole, _, hu, ?_, hnow ▸ hlt⟩
  rw [Timetable.after_of_eq hcome, Timetable.beat_succ, ← Nat.add_assoc, ← hbeat, hcome,
    ← hspaced.period_eq]

/-- The clock moves no further than to the next tick. -/
theorem Punctual.advance {t : Timetable} (h : p.Punctual period begun before fired)
    (htask : p.trigger = .armed t) (hms : p.now + 1000000 * ms ≤ t.next) :
    ∃ later, (p.advance ms).settle.Punctual period begun before later := by
  obtain ⟨t', htask', hbeat, -⟩ := h.next
  obtain rfl : t = t' := TriggerTask.armed.inj (htask.symm.trans htask')
  have hadvanced := h.paced.advance ms
  obtain ⟨hsame, hnow⟩ : (p.advance ms).trigger = .armed t ∧
      (p.advance ms).now = p.now + 1000000 * ms := by
    obtain ⟨ready, hadvance⟩ := advance_eq p ms
    rw [hadvance]
    exact ⟨htask, rfl⟩
  obtain ⟨hperiod, hbegun, hwhole⟩ := h.whole
  have hgrid : 1000000 ∣ (p.advance ms).now := hnow ▸ Nat.dvd_add hwhole (Nat.dvd_mul_right _ ms)
  rcases Nat.lt_or_eq_of_le hms with hearly | hcome
  · exact ⟨fired, Punctual.settle
      ⟨hadvanced, ⟨hperiod, hbegun, hgrid⟩, t, hsame, hbeat, hnow ▸ hearly⟩⟩
  · exact ⟨fired + 1, hadvanced.punctual_settle ⟨hperiod, hbegun, hgrid⟩ hsame hbeat
      (hcome.symm.trans hnow.symm)⟩

/-- The alarm of the next tick rings on its beat. -/
theorem Punctual.meets {t : Timetable} {wait : ℕ} (h : p.Punctual period begun before fired)
    (htask : p.trigger = .armed t) (hwait : p.untilDue = some wait) :
    p.now + 1000000 * wait = t.next := by
  obtain ⟨t', htask', hbeat, hlt⟩ := h.next
  obtain rfl : t = t' := TriggerTask.armed.inj (htask.symm.trans htask')
  obtain ⟨hperiod, hbegun, hwhole⟩ := h.whole
  exact meets_of_untilDue hwait htask hwhole
    (hbeat ▸ Nat.dvd_add hbegun (Timetable.dvd_beat hperiod fired)) hlt

theorem Punctual.elapse (h : p.Punctual period begun before fired) (ms : ℕ) :
    ∃ later, (Pipeline.elapse ms p).Punctual period begun before later := by
  -- along the halts: there is one at every tick, so the clock never moves past one
  fun_induction Pipeline.elapse ms p generalizing fired with
  | case1 ms p wait hwait hhalt ih =>
    obtain ⟨t, htask, -, -⟩ := h.next
    obtain ⟨later, hticked⟩ := h.advance htask (Nat.le_of_eq (h.meets htask hwait))
    exact ih hticked
  | case2 ms p wait hwait hhalt =>
    obtain ⟨t, htask, -, hlt⟩ := h.next
    have hmeets := h.meets htask hwait
    exact h.advance htask (by omega)
  | case3 ms p hwait =>
    obtain ⟨t, htask, -, -⟩ := h.next
    cases (untilDue_of_armed htask).symm.trans hwait

theorem Punctual.move {m : Move} (h : p.Punctual period begun before fired)
    (hspares : m.sparesTrigger = true) (hskips : m.skips = false) :
    ∃ later, (p.move m).Punctual period begun before later := by
  by_cases hstill : m.isStill = true
  · exact ⟨fired, h.of_gait_eq (h.paced.alert.move m)
      (gait_move h.paced.trigger_ne hspares hstill)⟩
  cases m with
  | act a =>
    cases a with
    | pass ms => cases hskips
    | _ => exact absurd rfl hstill
  | settle => exact ⟨fired, h.settle⟩
  | sleep ms => exact h.settle.elapse ms
  | jump ms => cases hskips
  | _ => exact absurd rfl hstill

theorem Punctual.operate {moves : List Move} (h : p.Punctual period begun before fired)
    (hmoves : ∀ m ∈ moves, m.sparesTrigger = true) (hskips : ∀ m ∈ moves, m.skips = false) :
    ∃ later, (p.operate moves).Punctual period begun before later := by
  induction moves generalizing p fired with
  | nil => exact ⟨fired, h⟩
  | cons m rest ih =>
    obtain ⟨hm, hrest⟩ := List.forall_mem_cons.1 hmoves
    obtain ⟨hs, hrest'⟩ := List.forall_mem_cons.1 hskips
    obtain ⟨later, hmoved⟩ := h.move hm hs
    exact ih hmoved hrest hrest'

/-- Of a punctual trigger the time tells how often it has fired. -/
theorem Punctual.beats_eq (h : p.Punctual period begun before fired) :
    Timetable.beats period (p.now - begun) = fired := by
  obtain ⟨t, htask, hbeat, hlt⟩ := h.next
  obtain ⟨t', htask', hspaced⟩ := h.paced.armed
  have hbegun := hspaced.begun_le
  refine Timetable.beats_eq (fun n hn ↦ ?_) (by omega)
  have hpassed := hspaced.passed n hn
  omega

/-- A trigger that was handed over draws up its timetable when it first runs. -/
theorem Alert.punctual_settle {duration : Duration} {t : Timetable} (h : p.Alert none)
    (hsteady : p.producer.Steady) (hsilent : p.triggerLine.sounds = false)
    (hspawned : p.trigger = .spawned duration)
    (hstart : Timetable.start? p.now duration = some t) (hnext : t.next = p.now + t.period)
    (hperiod : 1000000 ∣ t.period) (hwhole : 1000000 ∣ p.now) :
    p.settle.Punctual t.period p.now p.tick 0 := by
  obtain ⟨htrigger, htick, hproducer, -, hnow⟩ := h.settle_eq hsteady
  have harmed : p.settle.trigger = .armed t := by
    rw [htrigger, nextTrigger_of_start?_eq_some hspawned hstart, hsilent]
    rfl
  have hnone : p.ticksDue = 0 := by rw [ticksDue, hspawned]
  have hbeat : t.next = p.now + Timetable.beat t.period 0 := by
    rw [Timetable.beat, Nat.zero_mul, Nat.add_zero, hnext]
  refine ⟨⟨h.turn.turn.turn, hproducer ▸ hsteady, (lines_settle p).1 ▸ hsilent, ⟨t, harmed, ?_⟩,
    htick.trans (congrArg (p.tick + ·) hnone)⟩, ⟨hperiod, hwhole, hnow ▸ hwhole⟩, t, harmed, hbeat,
      hnow ▸ Timetable.lt_next_of_start? hstart⟩
  rw [hnow]
  exact ⟨rfl, Nat.le_refl _, Nat.le_of_eq hbeat.symm, Nat.le_of_eq hnext,
    fun n hn ↦ absurd hn (Nat.not_lt_zero n)⟩

/-! ### The rates -/

/-- How fast a trigger fires, with a period of whole milliseconds within the clock and a producer
that never breaks down, from when it first runs until it is told to stop, and if nobody fires in its
place. Of the pipeline then reached, `f` is the number of its fires so far and `g` the number of
those that settling adds; times are in nanoseconds, as the timetable keeps them.

Whatever the clock skipped, the next tick lies ahead, by no more than a period; the trigger is never
ahead of the beats; and it makes up for no more ticks at once than there are periods in the
tolerance, and one. If the clock skipped nothing, the fires are the beats that are over, which up to
a period of thirty years are the periods that are over. If an appender runs and nothing waited, it
hands the last entry of a burst to the log, and the others are superseded. -/
theorem rate_bounds (scratch : ℕ) (b : Buffer) {producer : Producer} (hsteady : producer.Steady)
    (uptime : ℕ → Duration) (earlier : List Move) {period : Duration}
    (hwhole : period.nanos % 1000000 = 0) (hpos : 0 < period.millis)
    (hclock : ((make scratch b producer uptime).operate earlier).now + period.totalNanos <
      Timetable.clockEnd)
    (hspawned : ((make scratch b producer uptime).operate earlier).trigger = .spawned period)
    (hsilent : ((make scratch b producer uptime).operate earlier).triggerLine.sounds = false)
    (moves : List Move) (hspares : ∀ m ∈ moves, m.sparesTrigger = true) :
    let p₀ := (make scratch b producer uptime).operate earlier
    let p := p₀.settle.operate moves
    let ns := period.totalNanos
    ∃ f g, p.tick = p₀.tick + f ∧ p.settle.tick = p.tick + g ∧
      (∃ t, p.settle.trigger = .armed t ∧ p.settle.now < t.next ∧ t.next ≤ p.settle.now + ns) ∧
      (f ≠ 0 → ns + (f - 1) * min ns Timetable.horizon ≤ p.now - p₀.now) ∧
      (ns ≤ Timetable.horizon → f * ns ≤ p.now - p₀.now) ∧
      g ≤ Timetable.tolerance / ns + 1 ∧
      ((∀ m ∈ moves, m.skips = false) → f = Timetable.beats ns (p.now - p₀.now) ∧
        (ns ≤ Timetable.horizon → f = (p.now - p₀.now) / ns)) ∧
      (p.appender.stage = .running → (p.appenderLine.sounds = true → p.TriggerFirst) →
        p.cell.hasPending = false → g ≠ 0 →
        p.settle.cell.hasPending = false ∧
          p.settle.cell.stats.superseded = p.cell.stats.superseded + (g - 1) ∧
          ∃ entry, Part.entry? (producer (p.tick + g) (uptime (p.tick + g))) = some entry ∧
            p.settle.buffer = (p.buffer.append (Draft.cut p.cell.capacity entry)).2) := by
  intro p₀ p ns
  obtain ⟨halert, hproducer, -, hgrid⟩ := alert_operate scratch b producer uptime earlier
  have hns : ns = 1000000 * period.millis := Duration.totalNanos_eq hwhole
  have hpositive : 0 < ns := by omega
  have hstart := Timetable.start?_eq_some hclock hpositive
  have hbegin : p₀.settle.Punctual ns p₀.now p₀.tick 0 :=
    halert.punctual_settle (hproducer.symm ▸ hsteady) hsilent hspawned hstart rfl
      ⟨period.millis, hns⟩ hgrid
  obtain ⟨f, hpaced⟩ := hbegin.paced.operate hspares
  obtain ⟨-, htick, -, -, hnow⟩ := hpaced.alert.settle_eq hpaced.steady
  obtain ⟨hsettled, hfew, t, htask, hlt⟩ := hpaced.settle
  obtain ⟨u, -, hspaced⟩ := hpaced.armed
  have hbeat (hfired : f ≠ 0) : ns + (f - 1) * min ns Timetable.horizon ≤ p.now - p₀.now := by
    have hlast : p₀.now + Timetable.beat ns (f - 1) ≤ p.now :=
      hspaced.passed (f - 1) (Nat.sub_one_lt hfired)
    rw [Timetable.beat] at hlast
    omega
  refine ⟨f, p.ticksDue, hpaced.tick_eq, htick, ⟨t, htask, hnow ▸ hlt, ?_⟩, hbeat,
    fun hhorizon ↦ ?_, hfew, fun hskips ↦ ?_, fun hrunning htold hidle hdue ↦ ?_⟩
  · obtain ⟨t', htask', hspaced'⟩ := hsettled.armed
    obtain rfl : t = t' := TriggerTask.armed.inj (htask.symm.trans htask')
    exact hspaced'.next_le
  · cases f with
    | zero =>
      rw [Nat.zero_mul]
      exact Nat.zero_le _
    | succ f =>
      have hlast := hbeat (Nat.succ_ne_zero f)
      rwa [Nat.min_eq_left hhorizon, Nat.add_sub_cancel, Nat.add_comm, ← Nat.succ_mul] at hlast
  · obtain ⟨f', hpunctual⟩ := hbegin.operate hspares hskips
    have hsame : f' = f :=
      Nat.add_left_cancel (hpunctual.paced.tick_eq.symm.trans hpaced.tick_eq)
    have hbeats : f = Timetable.beats ns (p.now - p₀.now) := hsame ▸ hpunctual.beats_eq.symm
    exact ⟨hbeats, fun hhorizon ↦ hbeats.trans (Timetable.beats_eq_div hpositive hhorizon _)⟩
  · have hrun : p = (make scratch b producer uptime).operate (earlier ++ .settle :: moves) := by
      rw [operate, List.foldl_append]
      rfl
    obtain ⟨-, hsource, huptime, -⟩ :=
      alert_operate scratch b producer uptime (earlier ++ .settle :: moves)
    rw [← hrun] at hsource huptime
    obtain ⟨hnone, hsuperseded, entry, hentry, hbuffer⟩ :=
      hpaced.alert.settle_burst hpaced.steady hrunning htold hidle hdue
    exact ⟨hnone, hsuperseded, entry, hsource ▸ huptime ▸ hentry, hbuffer⟩

/-- With a period of two milliseconds a jump skips a tick, and the trigger makes up for it; then the
clock skips another. The four ticks are the four periods that are over, and of each pair the first
entry is superseded. -/
theorem rate_bounds_of_late_ticks :
    let b : Buffer := { contents := .empty, capacity := 64, maxEntry := 16, ceiling := none }
    let period : Duration := .ofMillis 2
    let p₀ := (make 64 b .counter).operate [.spawnAppender, .spawnTrigger period]
    let moves : List Move := [.jump 5, .act (.pass 4)]
    let p := p₀.settle.operate moves
    Producer.counter.Steady ∧ p₀.trigger = .spawned period ∧
      p₀.triggerLine.sounds = false ∧ (∀ m ∈ moves, m.sparesTrigger = true) ∧
      p.tick = p₀.tick + 2 ∧ p.settle.tick = p.tick + 2 ∧
      2 * period.totalNanos ≤ p.now - p₀.now ∧ 2 ≤ Timetable.tolerance / period.totalNanos + 1 ∧
      p.settle.cell.stats.superseded = p.cell.stats.superseded + 1 ∧
      p.settle.buffer.contents = "Timer 2 hit\nTimer 4 hit\n".toUTF8 := by
  intro b period p₀ moves p
  have hspawned : p₀.trigger = .spawned period := by decide +kernel
  have hsilent : p₀.triggerLine.sounds = false := by decide +kernel
  have hclock : p₀.now + period.totalNanos < Timetable.clockEnd := by decide +kernel
  have hspares : ∀ m ∈ moves, m.sparesTrigger = true := by decide
  have hwithin : period.totalNanos ≤ Timetable.horizon := by decide +kernel
  have htwo : p.tick = p₀.tick + 2 := by decide +kernel
  have hfour : p.settle.tick = p.tick + 2 := by decide +kernel
  have hidle : p.cell.hasPending = false := by decide +kernel
  have hrunning : p.appender.stage = .running := by decide +kernel
  have htold : p.appenderLine.sounds = true → p.TriggerFirst := fun _ _ ↦ by decide +kernel
  have hcontents : p.settle.buffer.contents = "Timer 2 hit\nTimer 4 hit\n".toUTF8 := by
    decide +kernel
  have hrun : p₀ = (make 64 b .counter).operate [.spawnAppender, .spawnTrigger period] := rfl
  clear_value p₀
  obtain ⟨f, g, hf, hg, -, -, hbound, hburst, -, happender⟩ :=
    rate_bounds 64 b steady_counter _ [.spawnAppender, .spawnTrigger period] (by decide +kernel)
      (by decide +kernel) (hrun ▸ hclock) (hrun ▸ hspawned) (hrun ▸ hsilent) moves hspares
  rw [← hrun] at hf hg hbound happender
  obtain rfl : 2 = f := Nat.add_left_cancel (htwo.symm.trans hf)
  obtain rfl : 2 = g := Nat.add_left_cancel (hfour.symm.trans hg)
  obtain ⟨-, hsuperseded, -⟩ := happender hrunning htold hidle (by decide)
  exact ⟨steady_counter, hspawned, hsilent, hspares, htwo, hfour, hbound hwithin, hburst,
    hsuperseded, hcontents⟩

/-- A period of a millisecond more than thirty years is not kept. One jump skips to the first tick,
and another brings the second a millisecond too early; so do two sleeps. -/
theorem early_of_thirty_years :
    let b : Buffer := { contents := .empty, capacity := 64, maxEntry := 16, ceiling := none }
    let years := Timetable.horizon / 1000000
    let period : Duration := .ofMillis (years + 1)
    let p₀ := (make 64 b .counter).operate [.spawnAppender, .spawnTrigger period]
    let jumps : List Move := [.jump (years + 1), .jump years]
    let naps : List Move := [.sleep (years + 1), .sleep years]
    period.nanos % 1000000 = 0 ∧ 0 < period.millis ∧
      p₀.now + period.totalNanos < Timetable.clockEnd ∧
      Producer.counter.Steady ∧ p₀.trigger = .spawned period ∧ p₀.triggerLine.sounds = false ∧
      (∀ m ∈ jumps ++ naps, m.sparesTrigger = true) ∧ (∀ m ∈ naps, m.skips = false) ∧
      (let p := p₀.settle.operate jumps;
        p.tick = p₀.tick + 2 ∧ p.now - p₀.now < 2 * period.totalNanos ∧
          p.buffer.contents = "Timer 1 hit\nTimer 2 hit\n".toUTF8) ∧
      (let p := p₀.settle.operate naps;
        p.tick = p₀.tick + 2 ∧ (p.now - p₀.now) / period.totalNanos = 1) := by
  intro b years period p₀ jumps naps
  refine ⟨by decide +kernel, by decide +kernel, by decide +kernel, steady_counter,
    by decide +kernel, by decide +kernel, ?_, by decide, ?_, ?_⟩
  · decide +kernel
  · exact ⟨by decide +kernel, by decide +kernel, by decide +kernel⟩
  · exact ⟨by decide +kernel, by decide +kernel⟩

end Pipeline

end DeferredLog
