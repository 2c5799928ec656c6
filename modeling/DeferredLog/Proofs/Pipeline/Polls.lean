import DeferredLog.Proofs.Pending.Sole
import DeferredLog.Proofs.Pipeline.Work

/-!
# What one run of a task does

A task that has run is at rest: it needs nothing until time moves or someone calls it
(`TriggerTask.RestsAt`, `AppenderTask.Rests`). On the way there the appender has attended to the work
(`attended_pollAppender`), and the trigger has fired some times, no more often than ticks were due,
and exactly as often if its producer does not break down (`ticked_pollTrigger`).

The appender waits through one waiter after the other. After the first round nothing is owed any
more, so it drains at most once however often it wakes.
-/

namespace DeferredLog

/-! ### Tasks at rest -/

/-- A task of the trigger that needs nothing before the time `now` is over. -/
inductive TriggerTask.RestsAt (now : ℕ) (stopped : Bool) : TriggerTask → Prop
  | absent : TriggerTask.RestsAt now stopped .absent
  | finished (broken : Bool) : TriggerTask.RestsAt now stopped (.finished broken)
  | armed (t : Timetable) (hsilent : stopped = false) (hnext : now < t.next) :
      RestsAt now stopped (.armed t)

/-- A task of the appender that needs nothing: it has not begun or has ended, or it sleeps and has
missed nothing. -/
inductive AppenderTask.Rests (pending : Pending) (stopped : Bool) : AppenderTask → Prop
  | absent (hvacant : pending.Vacant) : AppenderTask.Rests pending stopped .absent
  | asleep (waiter : ℕ) (hasleep : pending.Asleep waiter) (hsilent : stopped = false) :
      AppenderTask.Rests pending stopped (.asleep waiter)
  | finished (hvacant : pending.Vacant) : AppenderTask.Rests pending stopped .finished

/-- Who waits for work while the task of the appender stands so: its waiter is in line while it
sleeps, and was told what there is to tell; otherwise nobody is. -/
inductive AppenderTask.Waits (pending : Pending) : AppenderTask → Prop
  | absent (hvacant : pending.Vacant) : AppenderTask.Waits pending .absent
  | spawned (hvacant : pending.Vacant) : AppenderTask.Waits pending .spawned
  | asleep (waiter : ℕ) (hstanding : pending.Standing waiter) :
      AppenderTask.Waits pending (.asleep waiter)
  | finished (hvacant : pending.Vacant) : AppenderTask.Waits pending .finished

theorem AppenderTask.Rests.waits {pending : Pending} {stopped : Bool} {task : AppenderTask}
    (h : task.Rests pending stopped) : task.Waits pending := by
  cases h with
  | absent hvacant => exact .absent hvacant
  | asleep waiter hasleep => exact .asleep waiter hasleep.standing
  | finished hvacant => exact .finished hvacant

/-- A task that does not run needs nothing. -/
theorem TriggerTask.restsAt_of_stage_ne {task : TriggerTask} (h : task.stage ≠ .running) (now : ℕ)
    (stopped : Bool) : task.RestsAt now stopped := by
  cases task with
  | absent => exact .absent
  | spawned period => exact absurd rfl h
  | armed t => exact absurd rfl h
  | finished broken => exact .finished broken

theorem AppenderTask.Waits.rests_of_stage_ne {pending : Pending} {task : AppenderTask}
    (hwaits : task.Waits pending) (h : task.stage ≠ .running) (stopped : Bool) :
    task.Rests pending stopped := by
  cases hwaits with
  | absent hvacant => exact .absent hvacant
  | spawned => exact absurd rfl h
  | asleep => exact absurd rfl h
  | finished hvacant => exact .finished hvacant

namespace Pipeline

variable {p : Pipeline} {waiter : ℕ}

/-- The trigger's task needs nothing at present. -/
def TriggerRests (p : Pipeline) : Prop :=
  p.trigger.RestsAt p.now p.triggerLine.sounds

/-- The appender's task needs nothing at present. -/
def AppenderRests (p : Pipeline) : Prop :=
  p.appender.Rests p.pending p.appenderLine.sounds

/-! ### The appender -/

theorem besideAppender_drainOwed (p : Pipeline) :
    p.drainOwed.besideAppender = p.besideAppender := by
  unfold drainOwed
  split
  · exact besideAppender_drain p
  · rfl

theorem work_drainOwed (p : Pipeline) : p.drainOwed.work = p.work.attend .running false := by
  have hattend : p.work.attend .running false = if p.pending.owed then p.work.drain else p.work := by
    rw [Work.attend_running, Bool.false_and, Bool.or_false]
    rfl
  rw [hattend, drainOwed]
  cases p.pending.owed with
  | true => exact work_drain p
  | false => rfl

/-- The appender's task, at the given stage, has run from `p` to `q`. -/
structure Attended (p q : Pipeline) (stage : Stage) : Prop where
  work_eq : q.work = p.work.attend stage p.appenderLine.sounds
  beside_eq : q.besideAppender = p.besideAppender
  stage_eq : q.appender.stage = stage.told p.appenderLine.sounds
  rests : q.AppenderRests

theorem appenderLine_eq_of_beside {q : Pipeline} (h : q.besideAppender = p.besideAppender) :
    q.appenderLine = p.appenderLine :=
  congrArg (·.2.2.1) h

/-- Waiting through one waiter after the other, the appender drains once if a drain is owed, and
then sleeps. -/
theorem attended_runAppender (h : p.pending.Sole waiter) (hsilent : p.appenderLine.sounds = false) :
    Attended p (p.runAppender waiter) .running := by
  -- along the rounds: after the first, nothing is owed and the next waiter is a new one
  fun_induction runAppender p waiter with
  | case1 p waiter answer hready q ih =>
    obtain ⟨hvacant, howed, hstats⟩ := h.poll_of_ready hready
    have hpending : q.pending = answer.2.claim.2 := pending_drainOwed _
    have hnext : q.pending.Vacant := hpending ▸ hvacant.claim
    have hbeside : q.besideAppender = p.besideAppender := besideAppender_drainOwed _
    have hline : q.appenderLine = p.appenderLine := appenderLine_eq_of_beside hbeside
    have hwork : q.work = p.work.attend .running false := by
      rw [← work_with_pending howed hstats]
      exact work_drainOwed _
    have hnone : q.work.owed = false := by
      show q.pending.owed = false
      rw [hpending]
      rfl
    obtain ⟨hran, hsame, hstage, hrests⟩ := ih hnext.wait (hline ▸ hsilent)
    refine ⟨?_, hsame.trans hbeside, ?_, hrests⟩
    · rw [hran, work_with_pending rfl rfl]
      show q.work.attend .running q.appenderLine.sounds = _
      rw [hline, hsilent, Work.attend_of_owed_eq_false hnone, hwork]
    · rw [hstage]
      exact congrArg (fun line : StopLine ↦ Stage.told .running line.sounds) hline
  | case2 p waiter answer hready =>
    obtain ⟨hasleep, howed, hstats⟩ := h.poll_of_not_ready hready
    have hnone : p.work.owed = false := howed.symm.trans hasleep.owed_eq
    refine ⟨?_, rfl, ?_, .asleep waiter hasleep hsilent⟩
    · rw [hsilent, Work.attend_of_owed_eq_false hnone]
      exact work_with_pending howed hstats
    · rw [hsilent]
      rfl

/-- Told to stop, the appender drains once if a drain is owed or an entry waits, and ends. -/
theorem attended_finishAppender (h : p.pending.Sole waiter)
    (hsounds : p.appenderLine.sounds = true) : Attended p (p.finishAppender waiter) .running := by
  obtain ⟨q, hq, hwork, hbeside, hsole⟩ : ∃ q,
      (if p.pending.owed || p.cell.hasPending then (p.note .finalDrain).drain.2 else p) = q ∧
        q.work = p.work.attend .running true ∧ q.besideAppender = p.besideAppender ∧
        q.pending.Sole waiter := by
    have hattend : p.work.attend .running true =
        if p.pending.owed || p.cell.hasPending then p.work.drain else p.work := by
      rw [Work.attend_running, Bool.true_and]
      rfl
    refine ⟨_, rfl, ?_⟩
    rw [hattend]
    split
    · exact ⟨work_drain _, besideAppender_drain _, pending_drain _ ▸ h.claim⟩
    · exact ⟨rfl, rfl, h⟩
  obtain ⟨hvacant, howed, hstats⟩ := hsole.leave
  unfold finishAppender
  rw [hq]
  refine ⟨?_, hbeside, ?_, .finished hvacant⟩
  · rw [hsounds, ← hwork]
    exact work_with_pending howed hstats
  · rw [hsounds]
    rfl

theorem pollAppender_of_spawned (h : p.appender = .spawned) :
    p.pollAppender = pollAppender.go
      (({ p with pending := p.pending.wait.2 } : Pipeline).note .appenderStarted)
      p.pending.wait.1 := by
  unfold pollAppender
  rw [h]

theorem pollAppender_of_asleep (h : p.appender = .asleep waiter) :
    p.pollAppender = pollAppender.go p waiter := by
  rw [pollAppender, h]

/-- Whatever its stage, the appender does what there is to do and rests. -/
theorem attended_pollAppender (h : p.appender.Waits p.pending) :
    Attended p p.pollAppender p.appender.stage := by
  have hgo {q : Pipeline} {waiter : ℕ} (hsole : q.pending.Sole waiter) :
      Attended q (pollAppender.go q waiter) .running := by
    unfold pollAppender.go
    split
    · next hsounds => exact attended_finishAppender hsole hsounds
    · next hsilent => exact attended_runAppender hsole (Bool.eq_false_iff.2 hsilent)
  have hidle {task : AppenderTask} (htask : p.appender = task) (hpoll : p.pollAppender = p)
      (hstage : task.stage ≠ .running) (hrests : task.Rests p.pending p.appenderLine.sounds) :
      Attended p p.pollAppender task.stage := by
    rw [hpoll]
    refine ⟨(Work.attend_of_stage_ne hstage _).symm, rfl, ?_, ?_⟩
    · rw [htask, Stage.told, if_neg fun hs ↦ hstage hs.1]
    · rw [AppenderRests, htask]
      exact hrests
  generalize htask : p.appender = task at h ⊢
  cases h with
  | absent hvacant =>
    exact hidle htask (by rw [pollAppender, htask]) (nofun) (.absent hvacant)
  | spawned hvacant =>
    rw [pollAppender_of_spawned htask]
    obtain ⟨hwork, hbeside, hstage, hrests⟩ :=
      hgo (q := ({ p with pending := p.pending.wait.2 } : Pipeline).note .appenderStarted)
        hvacant.wait
    exact ⟨hwork, hbeside, hstage, hrests⟩
  | asleep waiter hstanding =>
    rw [pollAppender_of_asleep htask]
    exact hgo (.standing hstanding)
  | finished hvacant =>
    exact hidle htask (by rw [pollAppender, htask]) (nofun) (.finished hvacant)

/-! ### The trigger -/

/-- The ticks that the trigger has to catch up with: none before it is armed, and none if it was
told to stop. -/
def ticksDue (p : Pipeline) : ℕ :=
  match p.trigger with
  | .armed t => if p.triggerLine.sounds then 0 else t.due p.now
  | _ => 0

/-- The trigger's task after it has run, with a producer that does not break down. -/
def nextTrigger (p : Pipeline) : TriggerTask :=
  match p.trigger with
  | .spawned period =>
    match Timetable.start? p.now period with
    | some t => if p.triggerLine.sounds then .finished false else .armed t
    | none => .finished true
  | .armed t =>
    if p.triggerLine.sounds then .finished false
    else .armed ((fun t ↦ t.after p.now)^[t.due p.now] t)
  | task => task

theorem isSome_fire (h : p.producer.Steady) : p.fire.1.isSome = true := by
  obtain ⟨entry, hentry⟩ := Option.isSome_iff_exists.1 (h (p.tick + 1) (p.uptime (p.tick + 1)))
  obtain ⟨ready, hfire⟩ := fire_of_entry?_eq_some hentry
  rw [hfire]
  rfl

theorem producer_fire (p : Pipeline) : p.fire.2.producer = p.producer :=
  congrArg (·.2.2.2.2.2.1) (besideTrigger_fire p)

/-- A burst is some fires, no more than are due, which leave the next tick in the future unless the
producer broke down. If it never does, the fires are those that are due. -/
theorem fireDue_eq (now : ℕ) (t : Timetable) (p : Pipeline) :
    ∃ n task, fireDue now t p = { p.fires n with trigger := task } ∧ task.RestsAt now false ∧
      task.stage ≠ .absent ∧ n ≤ t.due now ∧
      ((t.due now ≠ 0 → p.producer.Steady) →
        n = t.due now ∧ task = .armed ((fun t ↦ t.after now)^[t.due now] t)) := by
  fun_induction fireDue now t p with
  | case1 t p hdue fired q hfire ih =>
    obtain ⟨n, task, heq, hrests, hpresent, hle, hsteady⟩ := ih
    have hq : p.fire.2 = q := congrArg Prod.snd hfire
    have hcount := Timetable.due_of_le hdue
    refine ⟨n + 1, task, ?_, hrests, hpresent, hcount ▸ Nat.succ_le_succ hle, fun hs ↦ ?_⟩
    · rw [heq, fires_succ, hq]
    · have hproducer : q.producer.Steady := by
        rw [← hq, producer_fire]
        exact hs (hcount ▸ Nat.succ_ne_zero _)
      obtain ⟨hn, htask⟩ := hsteady fun _ ↦ hproducer
      rw [hcount, Function.iterate_succ_apply]
      exact ⟨congrArg (· + 1) hn, htask⟩
  | case2 t p hdue q hfire =>
    refine ⟨1, .finished true, ?_, .finished true, nofun,
      Timetable.due_of_le hdue ▸ Nat.succ_le_succ (Nat.zero_le _), fun hs ↦ ?_⟩
    · rw [show p.fires 1 = p.fire.2 from rfl, hfire]
    · have hsome := isSome_fire (hs (Timetable.due_of_le hdue ▸ Nat.succ_ne_zero _))
      rw [hfire] at hsome
      cases hsome
  | case3 t p hdue =>
    have hnext := Nat.not_le.1 hdue
    refine ⟨0, .armed t, rfl, .armed t rfl hnext, nofun, Nat.zero_le _, fun _ ↦ ?_⟩
    rw [Timetable.due_of_lt hnext]
    exact ⟨rfl, rfl⟩

theorem fireDue_of_lt {now : ℕ} {t : Timetable} (h : now < t.next) (p : Pipeline) :
    fireDue now t p = { p with trigger := .armed t } := by
  rw [fireDue, dif_neg (Nat.not_le.2 h)]

theorem runTrigger_of_sounds (h : p.triggerLine.sounds = true) (t : Timetable) :
    p.runTrigger t =
      ({ p with trigger := .finished false } : Pipeline).note (.triggerDisarmed p.tick) := by
  rw [runTrigger, if_pos h]

theorem runTrigger_of_silent (h : p.triggerLine.sounds = false) (t : Timetable) :
    p.runTrigger t = fireDue p.now t p := by
  rw [runTrigger, if_neg (Bool.eq_false_iff.1 h)]

/-- The trigger's task has run from `p` to `q` and fired `n` times. -/
structure Ticked (p q : Pipeline) (n : ℕ) : Prop where
  eq : q = { p.fires n with trigger := q.trigger, journal := q.journal }
  rests : q.trigger.RestsAt p.now p.triggerLine.sounds
  present : p.trigger.stage ≠ .absent → q.trigger.stage ≠ .absent
  le_due : n ≤ p.ticksDue
  /-- If the producer does not break down, the fires are those that are due. -/
  steady : (p.ticksDue ≠ 0 → p.producer.Steady) → n = p.ticksDue ∧ q.trigger = p.nextTrigger

theorem ticked_runTrigger {t : Timetable} (htask : p.trigger = .armed t) :
    ∃ n, Ticked p (p.runTrigger t) n := by
  cases hline : p.triggerLine.sounds with
  | true =>
    rw [runTrigger_of_sounds hline]
    refine ⟨0, rfl, .finished false, nofun, Nat.zero_le _, fun _ ↦ ⟨?_, ?_⟩⟩
    · rw [ticksDue, htask, hline]
      rfl
    · rw [nextTrigger, htask, hline]
      rfl
  | false =>
    have hdue : p.ticksDue = t.due p.now := by
      rw [ticksDue, htask, hline]
      rfl
    have hnext : p.nextTrigger = .armed ((fun t ↦ t.after p.now)^[t.due p.now] t) := by
      rw [nextTrigger, htask, hline]
      rfl
    obtain ⟨n, task, heq, hrests, hpresent, hle, hsteady⟩ := fireDue_eq p.now t p
    rw [runTrigger_of_silent hline, heq]
    refine ⟨n, rfl, hline ▸ hrests, fun _ ↦ hpresent, hdue ▸ hle, ?_⟩
    rw [hdue, hnext]
    exact hsteady

theorem pollTrigger_of_start?_eq_none {period : Duration} (htask : p.trigger = .spawned period)
    (hstart : Timetable.start? p.now period = none) :
    p.pollTrigger =
      { p.note (.triggerArmed (period.millis % UInt64.size)) with trigger := .finished true } := by
  have hnone : Timetable.start? (p.note (.triggerArmed (period.millis % UInt64.size))).now period =
      none := hstart
  rw [pollTrigger, htask]
  dsimp only
  rw [hnone]

theorem pollTrigger_of_start?_eq_some {period : Duration} {t : Timetable}
    (htask : p.trigger = .spawned period) (hstart : Timetable.start? p.now period = some t) :
    p.pollTrigger = (p.note (.triggerArmed (period.millis % UInt64.size))).runTrigger t := by
  have hsome : Timetable.start? (p.note (.triggerArmed (period.millis % UInt64.size))).now period =
      some t := hstart
  rw [pollTrigger, htask]
  dsimp only
  rw [hsome]

theorem nextTrigger_of_start?_eq_none {period : Duration} (htask : p.trigger = .spawned period)
    (hstart : Timetable.start? p.now period = none) : p.nextTrigger = .finished true := by
  rw [nextTrigger, htask]
  dsimp only
  rw [hstart]

theorem nextTrigger_of_start?_eq_some {period : Duration} {t : Timetable}
    (htask : p.trigger = .spawned period) (hstart : Timetable.start? p.now period = some t) :
    p.nextTrigger = if p.triggerLine.sounds then .finished false else .armed t := by
  rw [nextTrigger, htask]
  dsimp only
  rw [hstart]

/-- On its first run the trigger draws up its timetable, on which nothing is due yet. -/
theorem ticked_of_spawned {period : Duration} (htask : p.trigger = .spawned period) :
    Ticked p p.pollTrigger 0 := by
  have hdue : p.ticksDue = 0 := by rw [ticksDue, htask]
  cases hstart : Timetable.start? p.now period with
  | none =>
    have hnext := nextTrigger_of_start?_eq_none htask hstart
    rw [pollTrigger_of_start?_eq_none htask hstart]
    exact ⟨rfl, .finished true, nofun, Nat.zero_le _, fun _ ↦ ⟨hdue.symm, hnext.symm⟩⟩
  | some t =>
    have hnext := nextTrigger_of_start?_eq_some htask hstart
    have hlt := Timetable.lt_next_of_start? hstart
    rw [pollTrigger_of_start?_eq_some htask hstart]
    let q := p.note (.triggerArmed (period.millis % UInt64.size))
    show Ticked p (q.runTrigger t) 0
    cases hline : p.triggerLine.sounds with
    | true =>
      rw [hline] at hnext
      rw [runTrigger_of_sounds (p := q) hline]
      exact ⟨rfl, .finished false, nofun, Nat.zero_le _, fun _ ↦ ⟨hdue.symm, hnext.symm⟩⟩
    | false =>
      have hrun : q.runTrigger t = { q with trigger := .armed t } :=
        (runTrigger_of_silent (p := q) hline t).trans (fireDue_of_lt hlt q)
      rw [hline] at hnext
      rw [hrun]
      exact ⟨rfl, .armed t hline hlt, nofun, Nat.zero_le _, fun _ ↦ ⟨hdue.symm, hnext.symm⟩⟩

/-- A run of the trigger is some fires, and leaves the task at rest. If the producer does not break
down, the fires are those that are due. -/
theorem ticked_pollTrigger (p : Pipeline) : ∃ n, Ticked p p.pollTrigger n := by
  -- a task that has nothing to run stays as it is
  have hidle {task : TriggerTask} (htask : p.trigger = task) (hpoll : p.pollTrigger = p)
      (hrests : task.RestsAt p.now p.triggerLine.sounds) (hdue : p.ticksDue = 0)
      (hnext : p.nextTrigger = task) : ∃ n, Ticked p p.pollTrigger n := by
    rw [hpoll]
    exact ⟨0, rfl, htask ▸ hrests, fun hs ↦ hs, Nat.zero_le _,
      fun _ ↦ ⟨hdue.symm, htask.trans hnext.symm⟩⟩
  cases htask : p.trigger with
  | absent =>
    exact hidle htask (by rw [pollTrigger, htask]) .absent (by rw [ticksDue, htask])
      (by rw [nextTrigger, htask])
  | finished broken =>
    exact hidle htask (by rw [pollTrigger, htask]) (.finished broken) (by rw [ticksDue, htask])
      (by rw [nextTrigger, htask])
  | armed t =>
    have hpoll : p.pollTrigger = p.runTrigger t := by rw [pollTrigger, htask]
    rw [hpoll]
    exact ticked_runTrigger htask
  | spawned period => exact ⟨0, ticked_of_spawned htask⟩

end Pipeline

end DeferredLog
