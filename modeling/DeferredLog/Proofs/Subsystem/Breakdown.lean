import DeferredLog.Proofs.Pipeline.Breakdown
import DeferredLog.Proofs.Subsystem.Accounts

/-!
# A breakdown costs one entry

When the producer breaks down, its entry is lost and the trigger's task with it, and nothing else
is. Up to the turn in which it happens the run is that of a producer that does not break down; the
fire itself leaves nothing behind but the number of its tick; and afterwards the log goes on without
a trigger. Direct appends are answered by the log as before, the appender makes the drains that are
owed, and a stop ends what there is to end and accounts for every entry that was published.

Whatever can be said of the time after the breakdown is said of `Pipeline.Stalled` pipelines. The
ledger of the cell is exact as long as fewer than half the words were published, and in a session,
where trigger and requests are in lockstep, without any bound.
-/

namespace DeferredLog

namespace Pipeline

variable {p : Pipeline} {k : ℕ}

/-! ### What goes on without a trigger -/

theorem Stalled.ticksDue_eq (h : p.Stalled k) : p.ticksDue = 0 := by
  rw [ticksDue, h.trigger_eq]

/-- Settling does what is left to do for the appender. -/
theorem Stalled.settle_eq (h : p.Stalled k) :
    p.settle.work = p.attend.work ∧
      p.settle.appender.stage = p.appender.stage.told p.appenderLine.sounds := by
  have hnone := h.ticksDue_eq
  obtain ⟨hwork, -, hstage⟩ := (h.alert.orderly hnone).settle_eq
  refine ⟨hwork.trans ?_, hstage⟩
  rw [prospect_eq, hnone, fires_zero]

/-- A drain that is owed is made by the appender, if it runs, and is owed no more. -/
theorem Stalled.settle_of_owed (h : p.Stalled k) (hrunning : p.appender.stage = .running)
    (howed : p.pending.owed = true) :
    p.settle.work = p.drain.2.work ∧ p.settle.pending.owed = false := by
  have hdrain : p.attend = p.drain.2 := if_pos ⟨hrunning, by rw [howed, Bool.true_or]⟩
  have hwork := h.settle_eq.1
  rw [hdrain] at hwork
  refine ⟨hwork, ?_⟩
  show p.settle.work.owed = false
  rw [hwork, work_drain]
  exact p.work.owed_drain

theorem Stalled.reportTrigger (h : p.Stalled k) : (Subsystem.reportTrigger p).Stalled k := by
  have halert := alert_reportTrigger h.alert
  obtain ⟨journal, hreport⟩ := reportTrigger_eq p
  rw [hreport] at halert ⊢
  exact ⟨halert, h.trigger_eq, h.tick_eq, h.published_eq⟩

/-- What is left when both tasks have ended, the trigger's with tick `k`. -/
structure Closed (p : Pipeline) (k : ℕ) : Prop where
  trigger_eq : p.trigger = .finished true
  appender_eq : p.appender = .finished
  owed_eq : p.pending.owed = false
  hasPending_eq : p.cell.hasPending = false
  published_eq : p.cell.stats.published + 1 = k
  balance : k ≤ 2 ^ 63 → p.cell.stats.published =
    p.drains.committed + p.cell.stats.superseded + p.drains.dropped

/-- A stop of both tasks, with or without a report in between, closes a pipeline that has stalled.
-/
theorem Stalled.closed {q r : Pipeline} (hr : r.Stalled k) (haccounted : r.work.Accounted)
    (hhalted : Halted p q p.appenderLine.sounds) (hhalted' : Halted q r true)
    (hrunning : p.appender.stage = .running) : r.Closed k := by
  obtain ⟨hfinished, howed, hpending⟩ := hhalted.quit hhalted' hrunning
  have hpublished := hr.published_eq
  have happender : r.appender = .finished := by
    cases htask : r.appender with
    | finished => rfl
    | absent =>
      rw [htask] at hfinished
      cases hfinished
    | spawned =>
      rw [htask] at hfinished
      cases hfinished
    | asleep waiter =>
      rw [htask] at hfinished
      cases hfinished
  exact ⟨hr.trigger_eq, happender, howed, hpending, hpublished,
    fun hk ↦ haccounted.balance hpending
      (Nat.lt_of_succ_le (Nat.le_trans (Nat.le_of_eq hpublished) hk))⟩

theorem Stalled.closed_of_signals (h : p.Stalled k) (haccounted : p.work.Accounted)
    (hrunning : p.appender.stage = .running) (signal signal' : Signal) :
    ((p.stopTrigger signal).settle.stopAppender signal').settle.Closed k := by
  have hkept := kept_of_work (Q := Work.Accounted) accounted_perform
  let moves : List Move := [.stopTrigger signal, .settle, .stopAppender signal', .settle]
  have hstalled : (p.operate moves).Stalled k := h.operate (by simp [moves, Move.sparesWriter])
  have hq := halted_stopTrigger h.alert signal
  exact hstalled.closed (hkept.operate moves ⟨h.alert, haccounted⟩).2 hq
    (halted_stopAppender hq.alert hq.silenced signal') hrunning

end Pipeline

namespace Subsystem

variable {s : Subsystem} {k : ℕ}

/-- A log whose trigger failed is stopped like any other. -/
theorem stop_of_stalled (h : s.pipeline.Stalled k) (haccounted : s.pipeline.work.Accounted)
    (hrunning : s.pipeline.appender.stage = .running) :
    s.stop.1 = s.stop.2.stats ∧ s.stop.2.pipeline.Closed k := by
  have hkept := Pipeline.kept_of_work (Q := Work.Accounted) Pipeline.accounted_perform
  let q := s.pipeline.stopTrigger.settle
  let r := reportTrigger q
  let f := r.stopAppender.settle
  have hq := Pipeline.halted_stopTrigger h.alert .word
  have hr : Pipeline.Halted s.pipeline r s.pipeline.appenderLine.sounds := hq.reportTrigger
  have hstalled : (s.pipeline.operate [.stopTrigger .word, .settle]).Stalled k :=
    h.operate (by decide)
  have hstalled' : (r.operate [.stopAppender .word, .settle]).Stalled k :=
    hstalled.reportTrigger.operate (by decide)
  have hq' := (hkept.operate [.stopTrigger .word, .settle] ⟨h.alert, haccounted⟩).2
  have hr' : r.work.Accounted := by
    obtain ⟨journal, hreport⟩ := Pipeline.reportTrigger_eq q
    rw [show r = { q with journal } from hreport]
    exact hq'
  have hf' := (hkept.operate [.stopAppender .word, .settle] ⟨hr.alert, hr'⟩).2
  have hclosed : f.Closed k :=
    hstalled'.closed hf' hr (Pipeline.halted_stopAppender hr.alert hr.silenced .word) hrunning
  exact ⟨rfl, hclosed.trigger_eq, hclosed.appender_eq, hclosed.owed_eq, hclosed.hasPending_eq,
    hclosed.published_eq, hclosed.balance⟩

end Subsystem

/-! ### Sessions -/

theorem Call.sparesWriter_of_move? {a : Call} {m : Pipeline.Move} (h : a.move? = some m) :
    m.sparesWriter = true := by
  cases a <;> cases h <;> rfl

/-! ### New pipelines -/

/-- A pipeline at its beginning: made by hand, or by the start of a log. -/
inductive Pipeline.Fresh (producer : Producer) : Pipeline → Prop
  | made (scratch : ℕ) (b : Buffer) (uptime : ℕ → Duration) :
      Pipeline.Fresh producer (.make scratch b producer uptime)
  | started {c : Config} {uptime : ℕ → Duration} {s : Subsystem}
      (hstart : Subsystem.start c producer uptime = .ok s) : Pipeline.Fresh producer s.pipeline

namespace Pipeline

variable {p : Pipeline} {producer twin : Producer}

/-- The ledger of the cell and the producer, of which every pipeline that moves lead to keeps
track. -/
theorem kept_accounted (producer : Producer) :
    Kept fun p ↦ p.Alert none ∧ p.work.Accounted ∧ p.work.producer = producer :=
  kept_of_work (Q := fun w ↦ w.Accounted ∧ w.producer = producer)
    fun p a h ↦ ⟨accounted_perform p a h.1, (producer_perform p a).trans h.2⟩

theorem Fresh.begins (h : Fresh producer p) :
    (p.Alert none ∧ p.work.Accounted ∧ p.work.producer = producer) ∧ p.Whole := by
  cases h with
  | made scratch b uptime =>
    exact ⟨⟨alert_make scratch b producer uptime, Cell.accounted_empty scratch, rfl⟩, rfl⟩
  | @started c uptime s hstart =>
    obtain ⟨b, -, rfl⟩ := Subsystem.start_eq_ok_iff.1 hstart
    exact ⟨⟨Subsystem.alert_opened c b producer uptime,
      Cell.accounted_empty c.scratchCapacity.toNat, rfl⟩, rfl⟩

/-- A breakdown in a session: the counts that stopping returns are exact without any bound. -/
theorem stop_session {c : Config} {uptime : ℕ → Duration} {s : Subsystem}
    (hstart : Subsystem.start c producer uptime = .ok s) (calls : List Call) :
    let v := ({ system := s } : Session).run calls
    let stats := v.system.stop.1
    ¬ v.system.pipeline.Whole →
    stats = v.system.stats ∧ stats.ticks + 1 = v.system.pipeline.tick ∧
      stats.ticks = stats.appender.committed + stats.superseded + stats.appender.dropped ∧
      v.system.stop.2.pipeline.Closed v.system.pipeline.tick := by
  intro v stats hlost
  obtain ⟨⟨halert, haccounted, hproducer⟩, hwhole⟩ := (Fresh.started hstart).begins
  have hpipeline : v.system.pipeline = s.pipeline.operate (calls.filterMap Call.move?) :=
    Session.pipeline_run _ calls
  have hspares : ∀ m ∈ calls.filterMap Call.move?, m.sparesWriter = true := by
    intro m hm
    obtain ⟨a, -, ha⟩ := List.mem_filterMap.1 hm
    exact Call.sparesWriter_of_move? ha
  have hself : producer.Mends producer := fun _ _ _ ↦ rfl
  have hstalled : v.system.pipeline.Stalled v.system.pipeline.tick := by
    rw [hpipeline] at hlost ⊢
    obtain ⟨hw, -⟩ | ⟨-, hstalled⟩ := operate_cases hself ⟨halert, hwhole, hproducer⟩ hspares
    · exact absurd hw hlost
    · exact hstalled
  have hledger : v.system.pipeline.work.Accounted := by
    rw [hpipeline]
    exact ((kept_accounted producer).operate _ ⟨halert, haccounted, hproducer⟩).2.1
  obtain ⟨b, -, rfl⟩ := Subsystem.start_eq_ok_iff.1 hstart
  have hv : v.system.pipeline.InStep (b.counts.entries + v.taken) 0 :=
    Session.run_keeps (v := { system := ⟨c, Subsystem.opened c b producer uptime⟩ })
      (Subsystem.inStep_opened c b producer uptime) calls
  obtain ⟨-, -, hbalance⟩ := hv.lockstep.balance
  have hstats : stats = v.system.stats := (Subsystem.stop_of_inStep hv).1
  rw [hstats]
  refine ⟨rfl, hstalled.published_eq, ?_, (Subsystem.stop_of_stalled hstalled hledger
    hv.appender_eq).2⟩
  exact hbalance.trans (Nat.add_assoc ..).symm

/-- A breakdown costs its own entry and the trigger's task. Whatever the producer has written of the
entry, the fire leaves everything as it was but the number of the tick. As long as every tick was
published, a run is that of a producer that does not break down; if one was not, the runs are the
same up to the turn in which the trigger made it. From then on the trigger has ended and nothing
more is published, the log answers direct appends, the appender makes the drains that are owed, and
stopping both ends them with every entry accounted for. -/
theorem breakdown_costs_one_entry (hmends : twin.Mends producer) {start : Pipeline}
    (hfresh : Fresh producer start) (before : List Move) (hwhole : (start.operate before).Whole)
    (moves : List Move) (hspares : ∀ m ∈ moves, m.sparesWriter = true) :
    let p := start.operate before
    let q := p.operate moves
    (∀ (r : Pipeline) (written rest : List Part), r.nextParts = written ++ .breakdown :: rest →
      (∀ part ∈ written, part.bytes?.isSome = true) →
      r.fire = (none, { r with tick := r.tick + 1 })) ∧
    (q.Whole → (p.withProducer twin).operate moves = q.withProducer twin) ∧
    (¬ q.Whole →
      (∃ pre post post' n,
        p.itinerary moves = pre ++ .turn :: post ∧
        (p.withProducer twin).itinerary moves = pre ++ .turn :: post' ∧
        (p.withProducer twin).steps pre = (p.steps pre).withProducer twin ∧
        (p.steps pre).ready.head? = some .trigger ∧
        Breaks twin n (p.steps pre).popped (p.steps pre).turn ∧
        q.tick = ((p.steps pre).popped.fires n).tick + 1) ∧
      ∀ later : List Move, (∀ m ∈ later, m.sparesWriter = true) →
        let r := q.operate later
        r.trigger = .finished true ∧ r.tick = q.tick ∧ r.cell.stats.published + 1 = q.tick ∧
        (∀ entry, (r.append entry).1 = (r.buffer.append entry).1 ∧
          (r.append entry).2.work = { r.work with buffer := (r.buffer.append entry).2 }) ∧
        r.settle.work = r.attend.work ∧
        r.settle.appender.stage = r.appender.stage.told r.appenderLine.sounds ∧
        (r.appender.stage = .running →
          (r.pending.owed = true →
            r.settle.work = r.drain.2.work ∧ r.settle.pending.owed = false) ∧
          (∀ signal signal',
            ((r.stopTrigger signal).settle.stopAppender signal').settle.Closed q.tick) ∧
          ∀ c, let stop := ({ config := c, pipeline := r } : Subsystem).stop
            stop.1 = stop.2.stats ∧ stop.2.pipeline.Closed q.tick)) ∧
    ∀ c uptime s, Subsystem.start c producer uptime = .ok s → ∀ calls,
      let v := ({ system := s } : Session).run calls
      let stats := v.system.stop.1
      ¬ v.system.pipeline.Whole →
      stats = v.system.stats ∧ stats.ticks + 1 = v.system.pipeline.tick ∧
        stats.ticks = stats.appender.committed + stats.superseded + stats.appender.dropped ∧
        v.system.stop.2.pipeline.Closed v.system.pipeline.tick := by
  intro p q
  have hkept := kept_accounted producer
  have hp := hkept.operate before hfresh.begins.1
  have hsound : p.Sound producer := ⟨hp.1, hwhole, hp.2.2⟩
  have hcases := operate_cases hmends hsound hspares
  refine ⟨fun r written rest hparts hwritten ↦ ?_, fun hq ↦ ?_, fun hlost ↦ ?_,
    fun c uptime s hstart calls ↦ stop_session hstart calls⟩
  · exact fire_of_entry?_eq_none (Part.entry?_eq_none_iff.2 ⟨written, rest, hparts, hwritten⟩)
  · obtain ⟨-, hsame⟩ | ⟨-, hstalled⟩ := hcases
    · exact hsame
    · exact absurd hq hstalled.not_whole
  · obtain ⟨hq, -⟩ | ⟨hfork, hstalled⟩ := hcases
    · exact absurd hq hlost
    refine ⟨hfork, ?_⟩
    intro later hlater r
    have hr : r.Stalled q.tick := hstalled.operate hlater
    have hledger : r.work.Accounted := (hkept.operate later (hkept.operate moves hp)).2.1
    obtain ⟨hwork, hstage⟩ := hr.settle_eq
    refine ⟨hr.trigger_eq, hr.tick_eq, hr.published_eq, fun entry ↦ ⟨rfl, ?_⟩, hwork, hstage,
      fun hrunning ↦ ⟨hr.settle_of_owed hrunning, hr.closed_of_signals hledger hrunning, fun c ↦ ?_⟩⟩
    · obtain ⟨journal, happend⟩ := append_eq r entry
      rw [happend]
      rfl
    · exact Subsystem.stop_of_stalled (s := ⟨c, r⟩) hr hledger hrunning

/-- One tick is made by hand, and the clock skips the next two. The producer breaks down at the
third, when it has written more than the cell has room for: the first two reach the log, and a last
stop finds both of them committed. -/
theorem breakdown_costs_one_entry_of_three :
    let producer := Producer.script
      [[.text "a\n"], [.text "b\n"], [.text "too long", .breakdown]]
    let twin : Producer := fun tick age ↦
      if (Part.entry? (producer tick age)).isSome then producer tick age else [.text "c\n"]
    let b : Buffer := { contents := .empty, capacity := 8, maxEntry := 16, ceiling := none }
    let moves : List Move := [.spawnAppender, .spawnTrigger (.ofMillis 2), .jump 4]
    let p := (make 4 b producer).operate [.act .fire]
    let q := p.operate moves
    let r := (q.stopTrigger.settle.stopAppender .hangUp).settle
    twin.Mends producer ∧ p.Whole ∧ (∀ m ∈ moves, m.sparesWriter = true) ∧ ¬ q.Whole ∧
      q.tick = 3 ∧ q.trigger = .finished true ∧ r.Closed 3 ∧
      2 = r.drains.committed + r.cell.stats.superseded + r.drains.dropped ∧
      q.buffer.contents = "a\nb\n".toUTF8 := by
  intro producer twin b moves p q r
  have hmends : twin.Mends producer := fun tick age h ↦ if_pos h
  have hwhole : p.Whole := by
    show p.cell.stats.published = p.tick
    decide +kernel
  have hspares : ∀ m ∈ moves, m.sparesWriter = true := by decide
  have htick : q.tick = 3 := by decide +kernel
  have hpublished : q.cell.stats.published = 2 := by decide +kernel
  have hrunning : q.appender.stage = .running := by decide +kernel
  have hcontents : q.buffer.contents = "a\nb\n".toUTF8 := by decide +kernel
  have hlost : ¬ q.Whole := by
    rw [Whole, hpublished, htick]
    decide
  have hp : p = (make 4 b producer).operate [.act .fire] := rfl
  have hq : q = p.operate moves := rfl
  have hr : r = (q.stopTrigger.settle.stopAppender .hangUp).settle := rfl
  clear_value r q p
  obtain ⟨-, -, hbroken, -⟩ :=
    breakdown_costs_one_entry hmends (.made 4 b fun _ ↦ .ofMillis 0) [.act .fire] (hp ▸ hwhole)
      moves hspares
  rw [← hp, ← hq] at hbroken
  obtain ⟨-, hlater⟩ := hbroken hlost
  obtain ⟨htrigger, -, -, -, -, -, hserves⟩ := hlater [] nofun
  obtain ⟨-, hteardown, -⟩ := hserves hrunning
  have hclosed : r.Closed q.tick := hr ▸ hteardown .word .hangUp
  rw [htick] at hclosed
  have htwo : r.cell.stats.published = 2 := Nat.succ.inj hclosed.published_eq
  exact ⟨hmends, hwhole, hspares, hlost, htick, htrigger, hclosed,
    htwo.symm.trans (hclosed.balance (by decide)), hcontents⟩

end Pipeline

end DeferredLog
