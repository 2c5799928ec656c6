import DeferredLog.Proofs.Pipeline.Course
import DeferredLog.Proofs.Pipeline.Polls

/-!
# No task sleeps over what concerns it

A task runs only after it was woken, so a pipeline is in order as long as every task was woken or
needs nothing. `Alert` is that, with the line of waiters as the appender's task expects it. Between
a wake and the run that answers it one task is exempt: a pipeline that is alert but for a task is
alert after that task was woken (`Alert.wake`), and after it has run (`Alert.pollTrigger`,
`Alert.pollAppender`).

All acts by hand keep it, requests, claims and drains behind the tasks' backs included, and so do
turns. A request is the one act that may end a task's rest, and then it wakes that task
(`Alert.schedule`); a claim and a drain only take work away.
-/

namespace DeferredLog

/-! ### Requests and claims at rest -/

section

variable {pending : Pending} {stopped : Bool} {task : AppenderTask}

theorem AppenderTask.Waits.schedule (h : task.Waits pending) :
    task.Waits pending.schedule.pending := by
  cases h with
  | absent hvacant => exact .absent hvacant.schedule
  | spawned hvacant => exact .spawned hvacant.schedule
  | asleep waiter hstanding => exact .asleep waiter hstanding.schedule
  | finished hvacant => exact .finished hvacant.schedule

theorem AppenderTask.Waits.claim (h : task.Waits pending) : task.Waits pending.claim.2 := by
  cases h with
  | absent hvacant => exact .absent hvacant.claim
  | spawned hvacant => exact .spawned hvacant.claim
  | asleep waiter hstanding => exact .asleep waiter hstanding.claim
  | finished hvacant => exact .finished hvacant.claim

theorem AppenderTask.Rests.claim (h : task.Rests pending stopped) :
    task.Rests pending.claim.2 stopped := by
  cases h with
  | absent hvacant => exact .absent hvacant.claim
  | asleep waiter hasleep hsilent => exact .asleep waiter hasleep.claim hsilent
  | finished hvacant => exact .finished hvacant.claim

end

namespace Pipeline

variable {p : Pipeline} {role : Role}

/-! ### Waking -/

theorem mem_ready_wake (p : Pipeline) (role : Role) : role ∈ (p.wake role).ready := by
  unfold wake
  split
  · next hmem => exact List.contains_iff_mem.1 hmem
  · exact List.mem_append_right _ (List.mem_singleton_self role)

theorem mem_or_eq_of_mem_ready_wake {other : Role} (h : other ∈ (p.wake role).ready) :
    other ∈ p.ready ∨ other = role := by
  unfold wake at h
  split at h
  · exact Or.inl h
  · exact (List.mem_append.1 h).imp_right List.mem_singleton.1

theorem ready_subset_wake (p : Pipeline) (role : Role) : p.ready ⊆ (p.wake role).ready := by
  unfold wake
  split
  · exact List.Subset.refl _
  · exact List.subset_append_left _ _

theorem nodup_ready_wake (h : p.ready.Nodup) (role : Role) : (p.wake role).ready.Nodup := by
  unfold wake
  split
  · exact h
  · next hmem =>
    refine List.nodup_append.2 ⟨h, List.nodup_singleton role, fun a ha b hb hab ↦ hmem ?_⟩
    rw [← List.mem_singleton.1 hb, ← hab]
    exact List.contains_iff_mem.2 ha

/-! ### Being alert -/

/-- The task needs nothing at present. -/
def Rests (p : Pipeline) : Role → Prop
  | .trigger => p.TriggerRests
  | .appender => p.AppenderRests

/-- Every task was woken or needs nothing, but for one that may be exempt. -/
structure Alert (p : Pipeline) (exempt : Option Role) : Prop where
  nodup : p.ready.Nodup
  waits : p.appender.Waits p.pending
  ready_or_rests : ∀ role, exempt ≠ some role → role ∈ p.ready ∨ p.Rests role

/-- An exempt task that was woken, or needs nothing, need not be exempt. -/
theorem Alert.of_but (h : p.Alert (some role)) (hrole : role ∈ p.ready ∨ p.Rests role) :
    p.Alert none := by
  refine ⟨h.nodup, h.waits, fun other _ ↦ ?_⟩
  by_cases hother : role = other
  · exact hother ▸ hrole
  · exact h.ready_or_rests other fun hs ↦ hother (Option.some.inj hs)

theorem Alert.wake (h : p.Alert (some role)) : (p.wake role).Alert none := by
  refine Alert.of_but ?_ (Or.inl (mem_ready_wake p role))
  have hsubset := ready_subset_wake p role
  have hnodup := nodup_ready_wake h.nodup role
  obtain ⟨ready, hready⟩ := wake_eq p role
  rw [hready] at hsubset hnodup ⊢
  exact ⟨hnodup, h.waits, fun other hother ↦ (h.ready_or_rests other hother).imp_left (hsubset ·)⟩

/-- The trigger's own affairs are no other task's. -/
theorem Alert.but_trigger {exempt : Option Role} (h : p.Alert exempt)
    (hexempt : exempt ≠ some .appender) (trigger : TriggerTask) (triggerLine : StopLine) (now : ℕ) :
    ({ p with trigger, triggerLine, now } : Pipeline).Alert (some .trigger) := by
  refine ⟨h.nodup, h.waits, fun role hrole ↦ ?_⟩
  cases role with
  | trigger => exact absurd rfl hrole
  | appender => exact h.ready_or_rests .appender hexempt

theorem Alert.but_appender (h : p.Alert none) {appender : AppenderTask}
    (hwaits : appender.Waits p.pending) (appenderLine : StopLine) :
    ({ p with appender, appenderLine } : Pipeline).Alert (some .appender) := by
  refine ⟨h.nodup, hwaits, fun role hrole ↦ ?_⟩
  cases role with
  | trigger => exact h.ready_or_rests .trigger nofun
  | appender => exact absurd rfl hrole

/-! ### Acts -/

variable {exempt : Option Role}

/-- A request wakes the appender if it notifies the waiter through which the appender sleeps. -/
theorem schedule_cases (p : Pipeline) :
    (p.schedule.2 = ({ p with pending := p.pending.schedule.pending } : Pipeline).wake .appender) ∨
    (∀ waiter, p.appender = .asleep waiter → p.pending.schedule.woken ≠ some waiter) ∧
      p.schedule.2 = { p with pending := p.pending.schedule.pending } := by
  unfold schedule
  dsimp only
  split
  · next waiter woken htask hwoken =>
    split
    · exact Or.inl rfl
    · next hother =>
      refine Or.inr ⟨fun w hw ↦ ?_, rfl⟩
      obtain rfl : waiter = w := AppenderTask.asleep.inj (htask.symm.trans hw)
      rw [hwoken]
      exact fun hs ↦ hother (Option.some.inj hs).symm
  · next hnot =>
    exact Or.inr ⟨fun w hw hs ↦ hnot w w hw hs, rfl⟩

theorem Alert.schedule (h : p.Alert exempt) : p.schedule.2.Alert exempt := by
  let q : Pipeline := { p with pending := p.pending.schedule.pending }
  obtain hwake | ⟨hnot, heq⟩ := schedule_cases p
  · obtain ⟨ready, hready⟩ := wake_eq q .appender
    have hmem := mem_ready_wake q .appender
    have hsubset := ready_subset_wake q .appender
    have hnodup := nodup_ready_wake (p := q) h.nodup .appender
    rw [hwake]
    rw [hready] at hmem hsubset hnodup ⊢
    refine ⟨hnodup, h.waits.schedule, fun role hrole ↦ ?_⟩
    cases role with
    | trigger => exact (h.ready_or_rests .trigger hrole).imp_left (hsubset ·)
    | appender => exact Or.inl hmem
  · rw [heq]
    refine ⟨h.nodup, h.waits.schedule, fun role hrole ↦ ?_⟩
    cases role with
    | trigger => exact h.ready_or_rests .trigger hrole
    | appender =>
      refine (h.ready_or_rests .appender hrole).imp_right fun hrests ↦ ?_
      -- one who sleeps would have been woken
      show p.appender.Rests p.pending.schedule.pending p.appenderLine.sounds
      unfold Rests AppenderRests at hrests
      generalize htask : p.appender = task at hrests hnot ⊢
      cases hrests with
      | absent hvacant => exact .absent hvacant.schedule
      | asleep waiter hasleep => exact absurd hasleep.woken_schedule (hnot waiter rfl)
      | finished hvacant => exact .finished hvacant.schedule

theorem Alert.fire (h : p.Alert exempt) : p.fire.2.Alert exempt := by
  cases hentry : Part.entry? p.nextParts with
  | none =>
    rw [fire_of_entry?_eq_none hentry]
    exact ⟨h.nodup, h.waits, h.ready_or_rests⟩
  | some entry =>
    rw [snd_fire_of_entry?_eq_some hentry]
    exact Alert.schedule (p := { p with
      tick := p.tick + 1
      cell := (p.cell.publish entry).2 }) ⟨h.nodup, h.waits, h.ready_or_rests⟩

/-- A fire wakes nobody but the appender. -/
theorem trigger_mem_of_mem_ready_fire (h : .trigger ∈ p.fire.2.ready) : .trigger ∈ p.ready := by
  cases hentry : Part.entry? p.nextParts with
  | none =>
    rw [fire_of_entry?_eq_none hentry] at h
    exact h
  | some entry =>
    rw [snd_fire_of_entry?_eq_some hentry] at h
    obtain hwake | ⟨-, heq⟩ := schedule_cases
      { p with tick := p.tick + 1, cell := (p.cell.publish entry).2 }
    · rw [hwake] at h
      exact (mem_or_eq_of_mem_ready_wake h).resolve_right nofun
    · rw [heq] at h
      exact h

/-- Taking work away leaves those at rest who are. -/
theorem Alert.claim (h : p.Alert exempt) : p.claim.2.Alert exempt := by
  refine ⟨h.nodup, h.waits.claim, fun role hrole ↦ ?_⟩
  refine (h.ready_or_rests role hrole).imp_right fun hrests ↦ ?_
  cases role with
  | trigger => exact hrests
  | appender => exact AppenderTask.Rests.claim hrests

theorem Alert.drain (h : p.Alert exempt) : p.drain.2.Alert exempt := by
  obtain ⟨hnodup, hwaits, hrests⟩ := h.claim
  cases hpeek : p.cell.peek with
  | none =>
    obtain ⟨journal, hdrain⟩ := drain_of_peek_eq_none hpeek
    rw [hdrain]
    exact ⟨hnodup, hwaits, hrests⟩
  | some entry =>
    obtain ⟨journal, hdrain⟩ := drain_of_peek_eq_some hpeek
    rw [hdrain]
    exact ⟨hnodup, hwaits, hrests⟩

/-- When a tick comes due the trigger is woken. -/
theorem Alert.advance (h : p.Alert none) (ms : ℕ) : (p.advance ms).Alert none := by
  let now := p.now + 1000000 * ms
  let q : Pipeline := { p with now }
  have hbut : q.Alert (some .trigger) := h.but_trigger nofun p.trigger p.triggerLine now
  have hstill (hlater : ∀ t, p.trigger = .armed t → now < t.next) : q.Alert none := by
    refine hbut.of_but ((h.ready_or_rests .trigger nofun).imp_right fun hrests ↦ ?_)
    show p.trigger.RestsAt now p.triggerLine.sounds
    unfold Rests TriggerRests at hrests
    generalize p.trigger = task at hrests hlater ⊢
    cases hrests with
    | absent => exact .absent
    | finished broken => exact .finished broken
    | armed t hsilent => exact .armed t hsilent (hlater t rfl)
  unfold Pipeline.advance
  dsimp only
  split
  · next t htask =>
    split
    · exact hbut.wake
    · next hnext =>
      refine hstill fun t' ht' ↦ ?_
      obtain rfl : t = t' := TriggerTask.armed.inj (htask.symm.trans ht')
      exact Nat.not_le.1 hnext
  · next hnot => exact hstill fun t ht ↦ absurd ht (hnot t)

/-- No act by hand leaves a task asleep that it concerns. -/
theorem Alert.perform (h : p.Alert none) (a : Act) : (p.perform a).2.Alert none := by
  cases a with
  | publish entry => exact ⟨h.nodup, h.waits, h.ready_or_rests⟩
  | write parts => exact ⟨h.nodup, h.waits, h.ready_or_rests⟩
  | fire => exact h.fire
  | schedule => exact h.schedule
  | claim => exact h.claim
  | drain => exact h.drain
  | append entry =>
    obtain ⟨journal, happend⟩ := append_eq p entry
    rw [Pipeline.perform, happend]
    exact ⟨h.nodup, h.waits, h.ready_or_rests⟩
  | limit quota => exact ⟨h.nodup, h.waits, h.ready_or_rests⟩
  | pass ms => exact h.advance ms

/-! ### Runs of the tasks -/

theorem Alert.pollTrigger (h : p.Alert (some .trigger)) : p.pollTrigger.Alert none := by
  obtain ⟨n, heq, hrests, -⟩ := ticked_pollTrigger p
  have hfires : (p.fires n).Alert (some .trigger) :=
    fires_induction (P := (Alert · (some .trigger))) (fun _ hq ↦ hq.fire) h n
  have hbeside := besideTrigger_fires n p
  simp only [besideTrigger, Prod.mk.injEq] at hbeside
  obtain ⟨-, -, hline, -, -, -, -, hnow⟩ := hbeside
  rw [← hnow, ← hline] at hrests
  have hbut := hfires.but_trigger nofun p.pollTrigger.trigger (p.fires n).triggerLine (p.fires n).now
  rw [heq]
  exact Alert.of_but ⟨hbut.nodup, hbut.waits, hbut.ready_or_rests⟩ (Or.inr hrests)

theorem Alert.pollAppender (h : p.Alert (some .appender)) : p.pollAppender.Alert none := by
  obtain ⟨-, hbeside, -, hrests⟩ := attended_pollAppender h.waits
  simp only [besideAppender, Prod.mk.injEq] at hbeside
  obtain ⟨htask, hline, -, hready, -, -, -, hnow⟩ := hbeside
  have hbut : p.pollAppender.Alert (some .appender) := by
    refine ⟨hready ▸ h.nodup, AppenderTask.Rests.waits hrests, fun role hrole ↦ ?_⟩
    cases role with
    | appender => exact absurd rfl hrole
    | trigger =>
      show _ ∨ p.pollAppender.trigger.RestsAt p.pollAppender.now p.pollAppender.triggerLine.sounds
      rw [hready, htask, hnow, hline]
      exact h.ready_or_rests .trigger hrole
  exact hbut.of_but (Or.inr hrests)

/-- Once its run has begun a task counts as woken no more. -/
theorem Alert.pop {rest : List Role} (h : p.Alert none) (hready : p.ready = role :: rest) :
    ({ p with ready := rest } : Pipeline).Alert (some role) := by
  have hnodup := h.nodup
  rw [hready, List.nodup_cons] at hnodup
  refine ⟨hnodup.2, h.waits, fun other hother ↦ ?_⟩
  refine (h.ready_or_rests other nofun).imp_left fun hmem ↦ ?_
  rw [hready] at hmem
  exact (List.mem_cons.1 hmem).resolve_left fun hs ↦ hother (congrArg some hs.symm)

theorem Alert.turn (h : p.Alert none) : p.turn.Alert none := by
  unfold Pipeline.turn
  split
  · exact h
  · next rest hready => exact (h.pop hready).pollTrigger
  · next rest hready => exact (h.pop hready).pollAppender

end Pipeline

end DeferredLog
