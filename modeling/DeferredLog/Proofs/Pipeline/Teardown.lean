import DeferredLog.Proofs.Pipeline.Ledger
import DeferredLog.Proofs.Pipeline.Settling

/-!
# Orderly teardown

A task that was told to stop ends at its next run, the appender with a last drain if a drain is owed
or an entry waits. `Halted` is what such a stop leaves, and a teardown is two of them in a row: the
trigger first, so that no entry comes after the appender's last drain. `Work.delivered` follows the
entry that waits through both, and `Work.Accounted` the ledger of the cell.
-/

namespace DeferredLog

/-! ### The last drains -/

namespace Work

variable {w : Work}

/-- The log when the entry that waits has come to it. -/
def delivered (w : Work) : Buffer :=
  match w.cell.peek with
  | some entry => (w.buffer.append entry).2
  | none => w.buffer

theorem delivered_of_not_pending (h : w.cell.hasPending = false) : w.delivered = w.buffer := by
  have hnone : ¬ w.cell.peek.isSome = true := by
    rw [Cell.isSome_peek, h]
    exact Bool.false_ne_true
  rw [delivered, Option.not_isSome_iff_eq_none.1 hnone]

theorem buffer_drain (w : Work) : w.drain.buffer = w.delivered := by
  cases hpeek : w.cell.peek with
  | none => rw [drain_of_peek_eq_none hpeek, delivered, hpeek]
  | some entry => rw [drain_of_peek_eq_some hpeek, delivered, hpeek]

theorem published_drain (w : Work) : w.drain.cell.stats.published = w.cell.stats.published := by
  cases hpeek : w.cell.peek with
  | none => rw [drain_of_peek_eq_none hpeek]
  | some entry =>
    rw [drain_of_peek_eq_some hpeek]
    exact congrArg Cell.Stats.published w.cell.stats_take

theorem drains_drain (w : Work) : w.drain.drains.drains = w.drains.drains + 1 := by
  cases hpeek : w.cell.peek with
  | none => rw [drain_of_peek_eq_none hpeek]
  | some entry => rw [drain_of_peek_eq_some hpeek]

/-- What attending does is nothing or one drain. -/
theorem attend_cases (w : Work) (stage : Stage) (stopped : Bool) :
    w.attend stage stopped = w ∨ w.attend stage stopped = w.drain := by
  unfold attend
  split
  · exact Or.inr rfl
  · exact Or.inl rfl

theorem delivered_attend (w : Work) (stage : Stage) (stopped : Bool) :
    (w.attend stage stopped).delivered = w.delivered := by
  obtain h | h := w.attend_cases stage stopped
  · rw [h]
  · rw [h, delivered_of_not_pending w.hasPending_cell_drain, buffer_drain]

theorem published_attend (w : Work) (stage : Stage) (stopped : Bool) :
    (w.attend stage stopped).cell.stats.published = w.cell.stats.published := by
  obtain h | h := w.attend_cases stage stopped
  · rw [h]
  · rw [h, published_drain]

theorem drains_attend_le (w : Work) (stage : Stage) (stopped : Bool) :
    (w.attend stage stopped).drains.drains ≤ w.drains.drains + 1 := by
  obtain h | h := w.attend_cases stage stopped
  · rw [h]
    exact Nat.le_succ _
  · exact Nat.le_of_eq (h ▸ w.drains_drain)

/-- An appender that was told to stop leaves nothing owed and nothing waiting. -/
theorem attend_running_stopped (w : Work) :
    (w.attend .running true).owed = false ∧ (w.attend .running true).cell.hasPending = false := by
  rw [attend_running, Bool.true_and]
  split
  · exact ⟨w.owed_drain, w.hasPending_cell_drain⟩
  · next h =>
    rw [Bool.not_eq_true, Bool.or_eq_false_iff] at h
    exact h

/-- The ledger of the cell, where the drains tell what was taken. -/
def Accounted (w : Work) : Prop :=
  w.cell.Accounted (w.drains.committed + w.drains.dropped)

/-- When nothing waits, every publication was committed, superseded or dropped. -/
theorem Accounted.balance (h : w.Accounted) (hpending : w.cell.hasPending = false)
    (hlt : w.cell.stats.published < 2 ^ 63) :
    w.cell.stats.published = w.drains.committed + w.cell.stats.superseded + w.drains.dropped := by
  have hledger := (h hlt).published_eq
  rw [hpending, Bool.toNat_false] at hledger
  omega

end Work

namespace Pipeline

variable {p : Pipeline}

/-! ### The ledger of the work -/

theorem accounted_perform (p : Pipeline) (a : Act) (h : p.work.Accounted) :
    (p.perform a).2.work.Accounted :=
  (effect_perform p a).accounted h

/-! ### Stopping -/

/-- What a stopped trigger leaves: it has ended without a fire, and the appender has drained what
was owed. -/
structure Halted (p q : Pipeline) (stopped : Bool) : Prop where
  alert : q.Alert none
  silenced : q.triggerLine.sounds = true
  work_eq : q.work = p.work.attend p.appender.stage stopped
  trigger_eq : q.trigger.stage = p.trigger.stage.told true
  appender_eq : q.appender.stage = p.appender.stage.told stopped

theorem halted_settle (h : p.Alert none) (hsounds : p.triggerLine.sounds = true) :
    Halted p p.settle p.appenderLine.sounds := by
  have hnone := ticksDue_of_sounds hsounds
  obtain ⟨hwork, htrigger, hstage⟩ := (h.orderly hnone).settle_eq
  refine ⟨h.turn.turn.turn, (lines_settle p).1 ▸ hsounds, ?_, ?_, hstage⟩
  · rw [hwork, prospect, hnone]
    rfl
  · rw [htrigger, stage_nextTrigger_of_sounds hsounds]

theorem halted_stopTrigger (h : p.Alert none) (signal : Signal) :
    Halted p (p.stopTrigger signal).settle p.appenderLine.sounds := by
  have halert := h.stopTrigger signal
  obtain ⟨ready, hstop⟩ := exists_stopTrigger_eq p signal
  rw [hstop] at halert ⊢
  obtain ⟨hafter, hsilenced, hwork, htrigger, happender⟩ :=
    halted_settle halert (p.triggerLine.sounds_signal signal)
  exact ⟨hafter, hsilenced, hwork, htrigger, happender⟩

theorem halted_stopAppender (h : p.Alert none) (hsounds : p.triggerLine.sounds = true)
    (signal : Signal) : Halted p (p.stopAppender signal).settle true := by
  have halert := h.stopAppender signal
  obtain ⟨ready, hstop⟩ := exists_stopAppender_eq p signal
  rw [hstop] at halert ⊢
  have hline := p.appenderLine.sounds_signal signal
  obtain ⟨hafter, hsilenced, hwork, htrigger, happender⟩ := halted_settle halert hsounds
  dsimp only at hwork happender
  rw [hline] at hwork happender
  exact ⟨hafter, hsilenced, hwork, htrigger, happender⟩

/-- When both have been stopped, the appender has ended with nothing owed and nothing waiting. -/
theorem Halted.quit {q r : Pipeline} (hq : Halted p q p.appenderLine.sounds) (hr : Halted q r true)
    (hrunning : p.appender.stage = .running) :
    r.appender.stage = .finished ∧ r.pending.owed = false ∧ r.cell.hasPending = false := by
  have hwork := hq.work_eq
  have happender := hq.appender_eq
  rw [hrunning] at hwork happender
  show _ ∧ r.work.owed = false ∧ r.work.cell.hasPending = false
  rw [hr.work_eq, hr.appender_eq, happender]
  cases hsounds : p.appenderLine.sounds with
  | true =>
    -- told to stop before, the appender has made its last drain already
    have hidle : q.work.attend (Stage.running.told true) true = q.work :=
      q.work.attend_finished true
    rw [hsounds] at hwork
    rw [hidle, hwork]
    exact ⟨rfl, p.work.attend_running_stopped⟩
  | false => exact ⟨rfl, q.work.attend_running_stopped⟩

/-- Stopping the trigger and then the appender leaves nothing unaccounted. Whatever came before,
with the appender still running: both tasks have ended, no drain is owed and nothing waits; nothing
was published meanwhile, and the entry that waited is the last thing the log took, if it took it;
of the drains the appender's end made at most one. So every entry was superseded, committed or
dropped, as long as fewer than half the words were published. -/
theorem teardown (scratch : ℕ) (b : Buffer) (producer : Producer) (uptime : ℕ → Duration)
    (moves : List Move) (signal signal' : Signal)
    (hrunning : ((make scratch b producer uptime).operate moves).appender.stage = .running) :
    let p := (make scratch b producer uptime).operate moves
    let q := (p.stopTrigger signal).settle
    let r := (q.stopAppender signal').settle
    (p.trigger.stage ≠ .absent → r.trigger.stage = .finished) ∧
    r.appender.stage = .finished ∧
    r.pending.owed = false ∧ r.cell.hasPending = false ∧
    r.cell.stats.published = p.cell.stats.published ∧
    q.drains.drains ≤ p.drains.drains + 1 ∧ r.drains.drains ≤ q.drains.drains + 1 ∧
    (r.cell.stats.published < 2 ^ 63 → r.cell.stats.published =
      r.drains.committed + r.cell.stats.superseded + r.drains.dropped) ∧
    (p.cell.peek = none → r.buffer = p.buffer) ∧
    ∀ entry, p.cell.peek = some entry → r.buffer = (p.buffer.append entry).2 ∧
      r.buffer.contents =
        if (p.buffer.append entry).1.toBool then p.buffer.contents ++ entry
        else p.buffer.contents := by
  intro p q r
  have hkept := kept_of_work (Q := Work.Accounted) accounted_perform
  have hp : p.Alert none ∧ p.work.Accounted :=
    hkept.operate moves ⟨alert_make scratch b producer uptime, Cell.accounted_empty scratch⟩
  have hq : Halted p q p.appenderLine.sounds := halted_stopTrigger hp.1 signal
  have hr : Halted q r true := halted_stopAppender hq.alert hq.silenced signal'
  have haccounted : r.work.Accounted :=
    (hkept.operate [.stopTrigger signal, .settle, .stopAppender signal', .settle] hp).2
  have hwork := hq.work_eq
  rw [hrunning] at hwork
  obtain ⟨hfinished, howed, hpending⟩ := hq.quit hr hrunning
  have hbuffer : r.buffer = p.work.delivered := by
    show r.work.buffer = _
    rw [← Work.delivered_of_not_pending hpending, hr.work_eq, Work.delivered_attend, hwork,
      Work.delivered_attend]
  have hpublished : r.cell.stats.published = p.cell.stats.published := by
    show r.work.cell.stats.published = p.work.cell.stats.published
    rw [hr.work_eq, Work.published_attend, hwork, Work.published_attend]
  have hdrains : q.work.drains.drains ≤ p.work.drains.drains + 1 := by
    rw [hwork]
    exact p.work.drains_attend_le _ _
  have hdrains' : r.work.drains.drains ≤ q.work.drains.drains + 1 := by
    rw [hr.work_eq]
    exact q.work.drains_attend_le _ _
  refine ⟨fun hspawned ↦ ?_, hfinished, howed, hpending, hpublished, hdrains, hdrains', fun hlt ↦ ?_,
    fun hpeek ↦ ?_, fun entry hpeek ↦ ?_⟩
  · rw [hr.trigger_eq, hq.trigger_eq]
    cases hstage : p.trigger.stage with
    | absent => exact absurd hstage hspawned
    | running => rfl
    | finished => rfl
  · exact haccounted.balance hpending hlt
  · rw [hbuffer, Work.delivered, show p.work.cell.peek = none from hpeek]
    rfl
  · have hlast : r.buffer = (p.buffer.append entry).2 := by
      rw [hbuffer, Work.delivered, show p.work.cell.peek = some entry from hpeek]
      rfl
    exact ⟨hlast, hlast ▸ Buffer.contents_append p.buffer entry⟩

/-- The first entry is superseded by that of a fire whose drain is claimed by someone who makes
none, and the next tick is overdue. The trigger does not make it any more, and the appender's last
drain brings the entry to the log though none is owed. -/
theorem teardown_of_stolen_drain :
    let moves : List Move := [.spawnTrigger (.ofMillis 2), .spawnAppender, .settle,
      .act (.publish ⟨#[65]⟩), .act .fire, .act .claim, .act (.pass 9)]
    let b : Buffer := { contents := .empty, capacity := 5, maxEntry := 16, ceiling := none }
    let p := (make 64 b .counter).operate moves
    let q := (p.stopTrigger .hangUp).settle
    let r := (q.stopAppender .word).settle
    p.appender.stage = .running ∧ p.ticksDue = 1 ∧ p.pending.owed = false ∧
      r.trigger.stage = .finished ∧ r.appender.stage = .finished ∧ r.cell.hasPending = false ∧
      r.cell.stats.published = 2 ∧
      2 = r.drains.committed + r.cell.stats.superseded + r.drains.dropped ∧
      r.buffer.contents = "Timer 1 hit\n".toUTF8 := by
  intro moves b p q r
  have hrunning : p.appender.stage = .running := by decide +kernel
  have hspawned : p.trigger.stage ≠ .absent := by decide +kernel
  have hdue : p.ticksDue = 1 := by decide +kernel
  have howed : p.pending.owed = false := by decide +kernel
  have hpublished : p.cell.stats.published = 2 := by decide +kernel
  have hpeek : p.cell.peek = some "Timer 1 hit\n".toUTF8 := by decide +kernel
  have htaken : (if (p.buffer.append "Timer 1 hit\n".toUTF8).1.toBool then
      p.buffer.contents ++ "Timer 1 hit\n".toUTF8 else p.buffer.contents) =
        "Timer 1 hit\n".toUTF8 := by decide +kernel
  have hrun : p = (make 64 b .counter).operate moves := rfl
  clear_value p
  obtain ⟨htrigger, happender, -, hpending, hsame, -, -, hledger, -, hlast⟩ :=
    teardown 64 b .counter _ moves .hangUp .word (hrun ▸ hrunning)
  rw [← hrun] at htrigger happender hpending hsame hledger hlast
  have htwo : r.cell.stats.published = 2 := hsame.trans hpublished
  have hcounted := hledger (Nat.lt_of_le_of_lt (Nat.le_of_eq htwo) (by decide))
  obtain ⟨-, hcontents⟩ := hlast _ hpeek
  exact ⟨hrunning, hdue, howed, htrigger hspawned, happender, hpending, htwo,
    htwo.symm.trans hcounted, hcontents.trans htaken⟩

end Pipeline

end DeferredLog
