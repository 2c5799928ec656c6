import DeferredLog.Proofs.Pipeline.Cadence
import DeferredLog.Proofs.Subsystem.Opened
import DeferredLog.Proofs.Subsystem.Start

/-!
# An undisturbed run

A log that has started and then only sleeps is on time throughout: its trigger fires at every beat,
and the log is what appending the greeting and then the entries one by one would have made of it
(`Subsystem.undisturbed`). How the time was split into sleeps does not matter, nor whether a tick
falls on the end of one.

The number of ticks is the time divided by the period, up to a period of thirty years. No timetable
puts a tick but the first further off than that, so a longer period is not kept
(`Subsystem.early_of_sixty_years`).
-/

namespace DeferredLog

/-! ### Periods that start a timetable -/

theorem Duration.totalNanos_pos {d : Duration} (hne : d.isZero = false) : 0 < d.totalNanos :=
  Nat.pos_of_ne_zero fun hzero ↦ Bool.false_ne_true (hne.symm.trans (d.isZero_iff.2 hzero))

namespace Subsystem

variable {c : Config} {b : Buffer} {producer : Producer} {uptime : ℕ → Duration} {s : Subsystem}
  {g : Routine}

/-! ### The first settling -/

/-- A routine that a log of this configuration can be at. -/
structure Fits (c : Config) (b : Buffer) (producer : Producer) (uptime : ℕ → Duration)
    (g : Routine) : Prop where
  producer_eq : producer = g.producer
  uptime_eq : uptime = g.uptime
  room_eq : (Cell.empty c.scratchCapacity.toNat).capacity = g.room
  log_eq : b = g.log
  start?_eq : Timetable.start? 0 c.period = some ⟨g.period, g.period, g.period_pos⟩

theorem abreast_opened (h : Fits c b producer uptime g) :
    (opened c b producer uptime).work.Abreast g 0 where
  behind := rfl
  room_eq := h.room_eq
  producer_eq := h.producer_eq
  uptime_eq := h.uptime_eq
  owed_eq := rfl
  tick_eq := rfl
  published_eq := rfl
  superseded_eq := rfl
  coalesced_eq := rfl
  buffer_eq := h.log_eq

/-- The first settling arms the trigger and does no work. -/
theorem onTime_opened (h : Fits c b producer uptime g) :
    (opened c b producer uptime).settle.OnTime g 0 ∧
      (opened c b producer uptime).settle.now = 0 := by
  let p := opened c b producer uptime
  have halert : p.Alert none := alert_opened c b producer uptime
  obtain ⟨hwork, htrigger, hstage⟩ := (halert.orderly rfl).settle_eq
  obtain ⟨hline, hline'⟩ := Pipeline.lines_settle p
  have habreast := abreast_opened h
  have hidle : p.settle.work = p.work :=
    hwork.trans (Work.attend_of_owed_eq_false habreast.owed_eq _)
  have hclock : p.settle.now = 0 := congrArg Work.now hidle
  have harmed : p.nextTrigger = .armed ⟨g.period, g.period, g.period_pos⟩ := by
    rw [Pipeline.nextTrigger_of_start?_eq_some (p := p) rfl h.start?_eq]
    rfl
  have hfirst : g.period = Timetable.beat g.period 0 := by
    rw [Timetable.beat, Nat.zero_mul, Nat.add_zero]
  refine ⟨?_, hclock⟩
  exact
    { alert := halert.turn.turn.turn
      ready_eq := Pipeline.ready_settle halert
      armed := ⟨_, htrigger.trans harmed, rfl, hfirst⟩
      silent := by
        rw [hline, hline']
        exact ⟨rfl, rfl⟩
      appender_eq := hstage
      passed := fun m hm ↦ absurd hm (Nat.not_lt_zero m)
      whole := by
        rw [hclock]
        exact Nat.dvd_zero 1000000
      next := by
        rw [hclock, ← hfirst]
        exact g.period_pos
      work := hidle ▸ habreast }

/-- After any sleeps the work is that of the ticks that have come. -/
theorem abreast_naps (h : Fits c b producer uptime g) (naps : List ℕ) :
    (naps.foldl Pipeline.sleep (opened c b producer uptime)).work.Abreast g
      (Timetable.beats g.period (1000000 * naps.sum)) := by
  let p := opened c b producer uptime
  rcases naps with _ | ⟨ms, rest⟩
  · rw [List.sum_nil, Nat.mul_zero, Timetable.beats, if_pos g.period_pos]
    exact abreast_opened h
  · have hready := Pipeline.ready_settle (alert_opened c b producer uptime)
    -- A sleep begins by settling, so the log may as well have settled before the first one.
    have hsame : p.sleep ms = p.settle.sleep ms := by
      rw [Pipeline.sleep, Pipeline.sleep, Pipeline.settle_of_ready_eq_nil hready]
    obtain ⟨hbegin, hzero⟩ := onTime_opened h
    obtain ⟨n, hn, hnow⟩ := hbegin.naps (ms :: rest)
    rw [hzero, Nat.zero_add] at hnow
    rw [List.foldl_cons, hsame, ← List.foldl_cons, ← hnow, hn.beats_eq]
    exact hn.work

/-! ### The log of an undisturbed run -/

/-- The log of an undisturbed run. A configuration starts, with a period of whole milliseconds within
the clock and a producer that never breaks down, and then only sleeps. Then the ticks that have come
are the beats that are over, nothing was superseded or coalesced, and the log is in every respect a
new one of the same sizing that was offered the greeting and then the entry of each tick, cut to the
room of the cell. Up to a period of thirty years the beats are the periods that are over. -/
theorem undisturbed {e : ℕ → ByteArray} (hstart : start c producer uptime = .ok s)
    (hwhole : c.period.nanos % 1000000 = 0) (hclock : c.period.totalNanos < Timetable.clockEnd)
    (hsteady : producer.Steady)
    (hentry : ∀ n, Part.entry? (producer (n + 1) (uptime (n + 1))) = some (e (n + 1)))
    (naps : List ℕ) :
    let q := naps.foldl sleep s
    let n := Timetable.beats c.period.totalNanos (1000000 * naps.sum)
    (q.stats.ticks = n ∧ q.stats.superseded = 0 ∧ q.stats.pending.coalesced = 0) ∧
    (∃ b₀, Buffer.ofConfig c = .ok b₀ ∧
      q.pipeline.buffer = b₀.run (greeting c ++ (List.range n).map fun k ↦
        .append (Draft.cut c.scratchCapacity.toNat (e (k + 1))))) ∧
    (c.period.totalNanos ≤ Timetable.horizon → n = naps.sum / c.period.millis) := by
  intro q n
  obtain ⟨b, hgreet, rfl⟩ := start_eq_ok_iff.1 hstart
  obtain ⟨hvalid, b₀, hnew, hgreeted, -⟩ := greet_eq_ok hgreet
  have hlawful := Config.validate_eq_ok_iff_lawful.1 hvalid
  have hpos : 0 < c.period.totalNanos := Duration.totalNanos_pos hlawful.period_ne
  have hns := Duration.totalNanos_eq hwhole
  let g : Routine :=
    { producer, uptime, period := c.period.totalNanos, room := c.scratchCapacity.toNat, log := b,
      entry := e, period_pos := hpos, whole := ⟨c.period.millis, hns⟩, steady := hsteady,
      entry_eq := hentry }
  have hfits : Fits c b producer uptime g :=
    { producer_eq := rfl
      uptime_eq := rfl
      room_eq := by rw [Cell.capacity_empty, Nat.min_eq_left hlawful.scratch_le]
      log_eq := rfl
      start?_eq := by
        rw [← Nat.zero_add c.period.totalNanos] at hclock
        simp only [Timetable.start?_eq_some hclock hpos, Nat.zero_add, g] }
  have hpipeline : q.pipeline = naps.foldl Pipeline.sleep (opened c b producer uptime) :=
    (List.foldl_hom Subsystem.pipeline fun _ _ ↦ rfl).symm
  have hwork : q.pipeline.work.Abreast g n := hpipeline ▸ abreast_naps hfits naps
  refine ⟨⟨hwork.published_eq, hwork.superseded_eq, hwork.coalesced_eq⟩, ⟨b₀, hnew, ?_⟩,
    fun hhorizon ↦ ?_⟩
  · rw [Buffer.run_append, ← hgreeted]
    exact hwork.buffer_eq
  · show Timetable.beats c.period.totalNanos (1000000 * naps.sum) = _
    rw [Timetable.beats_eq_div hpos hhorizon, hns, Nat.mul_div_mul_left _ _ (by decide)]

/-- Nine milliseconds in four sleeps are three ticks of three milliseconds, the last at the very
end. The cell cuts two bytes off each entry, and the log refuses the third. -/
theorem undisturbed_of_three_ticks :
    let c : Config := { Config.testing with
      ceiling := some 25, scratchCapacity := 10, period := .ofMillis 3, banner := some "hi\n" }
    ∃ s, start c .counter = .ok s ∧
      let q := [2, 0, 4, 3].foldl sleep s
      q.stats.ticks = 3 ∧ q.stats.superseded = 0 ∧ q.stats.pending.coalesced = 0 ∧
        q.pipeline.buffer.contents = "hi\nTimer 1 hiTimer 2 hi".toUTF8 ∧
        q.pipeline.buffer.counts.capacityExceeded = 1 := by
  intro c
  let b : Buffer :=
    { contents := "hi\n".toUTF8, committed := 3, capacity := 16, maxEntry := 64, ceiling := some 25,
      counts := { entries := 1, bytes := 3 } }
  have hgreet : greet c = .ok b := by decide +kernel
  have hstart : start c .counter = .ok ⟨c, opened c b .counter fun _ ↦ .ofMillis 0⟩ :=
    start_eq_ok_iff.2 ⟨b, hgreet, rfl⟩
  refine ⟨_, hstart, ?_⟩
  intro q
  let e : ℕ → ByteArray := fun k ↦ Part.joined (Producer.counter k (.ofMillis 0))
  have hthree : Timetable.beats c.period.totalNanos (1000000 * [2, 0, 4, 3].sum) = 3 := by
    decide +kernel
  obtain ⟨⟨hticks, hsuperseded, hcoalesced⟩, ⟨b₀, hnew, hlog⟩, -⟩ :=
    undisturbed (e := e) hstart (by decide +kernel) (by decide +kernel) Pipeline.steady_counter
      (fun _ ↦ rfl) [2, 0, 4, 3]
  rw [hthree] at hticks hlog
  obtain rfl : { contents := .empty, capacity := 16, maxEntry := 64, ceiling := some 25 } = b₀ :=
    Except.ok.inj (Eq.trans (by decide +kernel) hnew)
  refine ⟨hticks, hsuperseded, hcoalesced, ?_, ?_⟩
  · show q.pipeline.buffer.contents = _
    rw [hlog]
    decide +kernel
  · show q.pipeline.buffer.counts.capacityExceeded = 1
    rw [hlog]
    decide +kernel

/-- A period of sixty years is not kept: after the first tick the next one comes thirty years later,
where the time divided by the period is still one. -/
theorem early_of_sixty_years :
    let c : Config := { Config.testing with period := ⟨1892160000, 0, by decide⟩ }
    let naps := List.replicate 45 63072000000
    c.validate = .ok () ∧ c.period.nanos % 1000000 = 0 ∧
      c.period.totalNanos < Timetable.clockEnd ∧ Producer.counter.Steady ∧
      ∃ s, start c .counter = .ok s ∧
        let q := naps.foldl sleep s
        naps.sum / c.period.millis = 1 ∧ q.stats.ticks = 2 ∧
          q.pipeline.buffer.contents = "Timer 1 hit\nTimer 2 hit\n".toUTF8 := by
  intro c naps
  let b : Buffer := { contents := .empty, capacity := 16, maxEntry := 64, ceiling := none }
  have hgreet : greet c = .ok b := by decide +kernel
  refine ⟨(Config.validate_eq_ok_iff c).2 (by decide +kernel), by decide +kernel, by decide +kernel,
    Pipeline.steady_counter, _, start_eq_ok_iff.2 ⟨b, hgreet, rfl⟩, ?_⟩
  intro q
  exact ⟨by decide +kernel, by decide +kernel, by decide +kernel⟩

end Subsystem

end DeferredLog
