import DeferredLog.Proofs.Pipeline.Itinerary
import DeferredLog.Proofs.Pipeline.Signals

/-!
# Another producer

Only fires ask the producer. So a pipeline with another producer goes through the same steps in the
same way, as long as no turn is among them (`step_withProducer`), and through the same fires as long
as both producers give the same (`fire_withProducer`).

The other producer is meant to be a twin, which gives the same wherever the first does not break
down (`Producer.Mends`).
-/

namespace DeferredLog

/-- The twin gives what the producer gives, unless the producer breaks down. -/
def Producer.Mends (twin producer : Producer) : Prop :=
  ∀ tick age, (Part.entry? (producer tick age)).isSome = true → twin tick age = producer tick age

namespace Pipeline

variable {p q : Pipeline} {producer twin : Producer}

/-- The same pipeline with another producer. -/
def withProducer (p : Pipeline) (producer : Producer) : Pipeline :=
  { p with producer }

/-- What has kept its surroundings has kept its lines. -/
theorem within_eq_withProducer (h : q = q.within p.surroundings) (twin : Producer) :
    q.within ⟨p.triggerLine, p.appenderLine, twin⟩ = q.withProducer twin := by
  rw [h]
  rfl

/-- What reads nothing of the surroundings does the same with either producer. -/
theorem withProducer_comm {f : Pipeline → Pipeline}
    (hf : ∀ p s, f (p.within s) = (f p).within s) (p : Pipeline) (twin : Producer) :
    f (p.withProducer twin) = (f p).withProducer twin :=
  (hf p ⟨p.triggerLine, p.appenderLine, twin⟩).trans
    (within_eq_withProducer (hf p p.surroundings) twin)

/-! ### Runs of the tasks -/

theorem pollAppender_withProducer (p : Pipeline) (twin : Producer) :
    (p.withProducer twin).pollAppender = p.pollAppender.withProducer twin := by
  have hpoll (producer : Producer) :
      (p.within ⟨p.triggerLine, p.appenderLine, producer⟩).pollAppender =
        p.pollAppender.within ⟨p.triggerLine, p.appenderLine, producer⟩ := pollAppender_within rfl
  exact (hpoll twin).trans (within_eq_withProducer (hpoll p.producer) twin)

/-- A fire that publishes is the same with the twin. -/
theorem fire_withProducer (hmends : twin.Mends p.producer)
    (h : (Part.entry? p.nextParts).isSome = true) :
    (p.withProducer twin).fire = (p.fire.1, p.fire.2.withProducer twin) := by
  have hown : p.fire.2 = p.fire.2.within p.surroundings :=
    congrArg Prod.snd (fire_within (p := p) (s := p.surroundings) rfl)
  have hparts : (p.withProducer twin).nextParts = p.nextParts :=
    hmends (p.tick + 1) (p.uptime (p.tick + 1)) h
  exact (fire_within (s := ⟨p.triggerLine, p.appenderLine, twin⟩) hparts).trans
    (congrArg (p.fire.1, ·) (within_eq_withProducer hown twin))

/-- On its first run the trigger fires nothing. -/
theorem pollTrigger_withProducer_of_spawned {period : Duration} (htask : p.trigger = .spawned period)
    (twin : Producer) : (p.withProducer twin).pollTrigger = p.pollTrigger.withProducer twin := by
  cases hstart : Timetable.start? p.now period with
  | none =>
    rw [pollTrigger_of_start?_eq_none htask hstart,
      pollTrigger_of_start?_eq_none (p := p.withProducer twin) htask hstart]
    rfl
  | some t =>
    have hlt := Timetable.lt_next_of_start? hstart
    rw [pollTrigger_of_start?_eq_some htask hstart,
      pollTrigger_of_start?_eq_some (p := p.withProducer twin) htask hstart]
    let q := p.note (.triggerArmed (period.millis % UInt64.size))
    show (q.withProducer twin).runTrigger t = (q.runTrigger t).withProducer twin
    cases hline : q.triggerLine.sounds with
    | true =>
      rw [runTrigger_of_sounds hline, runTrigger_of_sounds (p := q.withProducer twin) hline]
      rfl
    | false =>
      have hidle : fireDue q.now t q = { q with trigger := .armed t } := fireDue_of_lt hlt q
      rw [runTrigger_of_silent hline, runTrigger_of_silent (p := q.withProducer twin) hline, hidle]
      exact fireDue_of_lt hlt (q.withProducer twin)

/-! ### Steps -/

theorem wake_withProducer (p : Pipeline) (role : Role) (twin : Producer) :
    (p.withProducer twin).wake role = (p.wake role).withProducer twin :=
  withProducer_comm (f := (·.wake role)) (fun p s ↦ wake_within p role s) p twin

theorem rouse_withProducer (p : Pipeline) (role : Role) (twin : Producer) :
    (p.withProducer twin).rouse role = (p.rouse role).withProducer twin := by
  unfold rouse
  rw [show (p.withProducer twin).stage role = p.stage role by cases role <;> rfl]
  split
  · exact wake_withProducer p role twin
  · rfl

theorem signal_withProducer (p : Pipeline) (role : Role) (signal : Signal) (twin : Producer) :
    (p.withProducer twin).signal role signal = (p.signal role signal).withProducer twin := by
  rw [signal_eq, signal_eq, rouse_withProducer]
  cases role <;> rfl

theorem perform_withProducer {a : Act} (h : a.sparesWriter = true) (p : Pipeline)
    (twin : Producer) :
    ((p.withProducer twin).perform a).2 = (p.perform a).2.withProducer twin := by
  cases a with
  | publish entry => cases h
  | write parts => cases h
  | fire => cases h
  | claim => rfl
  | limit quota => rfl
  | schedule =>
    exact withProducer_comm (f := fun q ↦ q.schedule.2)
      (fun q s ↦ congrArg Prod.snd (schedule_within q s)) p twin
  | append entry =>
    exact withProducer_comm (f := fun q ↦ (q.append entry).2)
      (fun q s ↦ congrArg Prod.snd (append_within q entry s)) p twin
  | drain =>
    exact withProducer_comm (f := fun q ↦ q.drain.2)
      (fun q s ↦ congrArg Prod.snd (drain_within q s)) p twin
  | pass ms =>
    exact withProducer_comm (f := fun q ↦ q.advance ms) (fun q s ↦ advance_within q ms s) p twin

/-- A step other than a turn is the same with either producer. -/
theorem step_withProducer {s : Step} (hspares : s.sparesWriter = true) (hturn : s ≠ .turn)
    (p : Pipeline) (twin : Producer) :
    (p.withProducer twin).step s = (p.step s).withProducer twin := by
  cases s with
  | act a => exact perform_withProducer hspares p twin
  | spawnTrigger period =>
    have hwake := wake_withProducer { p with trigger := .spawned period } .trigger twin
    show (if p.trigger = .absent then _ else _) = _
    rw [step]
    split
    · exact hwake
    · rfl
  | spawnAppender =>
    have hwake := wake_withProducer { p with appender := .spawned } .appender twin
    show (if p.appender = .absent then _ else _) = _
    rw [step]
    split
    · exact hwake
    · rfl
  | stopTrigger signal => exact signal_withProducer p .trigger signal twin
  | stopAppender signal => exact signal_withProducer p .appender signal twin
  | turn => exact absurd rfl hturn

end Pipeline

end DeferredLog
