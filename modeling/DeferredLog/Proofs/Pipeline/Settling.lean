import DeferredLog.Proofs.Pipeline.Signals

/-!
# Settling

`prospect` is the work that is ahead of a pipeline: the ticks that are due, and then the appender's
drain. In an orderly pipeline, where the trigger runs first if ticks are due, a turn brings the work
closer to it and changes nothing about it (`Orderly.turn`). Three turns leave nothing ready
(`ready_settle`), and then the prospect has come true (`Orderly.settle_eq`).

Signals change the prospect and nothing that makes a pipeline orderly: a trigger that was told to
stop has no ticks due (`Alert.settle_signals_trigger`), and an appender that was told to stop is
woken behind the trigger and looks at the cell, too (`Orderly.settle_signals_appender`).
-/

namespace DeferredLog

namespace Pipeline

variable {p q : Pipeline}

/-- What the appender's task is about to do: it drains if a drain is owed, and a last time if it was
told to stop and an entry waits. -/
def attend (p : Pipeline) : Pipeline :=
  if p.appender.stage = .running ∧
      (p.pending.owed || p.appenderLine.sounds && p.cell.hasPending) then p.drain.2
  else p

theorem work_attend (p : Pipeline) :
    p.attend.work = p.work.attend p.appender.stage p.appenderLine.sounds := by
  unfold attend Work.attend
  split
  · next h => exact (work_drain p).trans (if_pos h).symm
  · next h => exact (if_neg h).symm

/-- An appender that was told to stop looks at the cell, too. -/
theorem work_attend_stopped (p : Pipeline) (stage : Stage) :
    p.work.attend stage true =
      (if stage = .running ∧ (p.pending.owed || p.cell.hasPending) then p.drain.2 else p).work := by
  rw [apply_ite Pipeline.work, work_drain]
  rfl

/-! ### What is ahead -/

/-- The work when all that was woken has run, the trigger before the appender. -/
def prospect (p : Pipeline) : Work :=
  (Work.fire^[p.ticksDue] p.work).attend p.appender.stage p.appenderLine.sounds

theorem prospect_eq (p : Pipeline) : p.prospect = (p.fires p.ticksDue).attend.work := by
  have hbeside := besideTrigger_fires p.ticksDue p
  simp only [besideTrigger, Prod.mk.injEq] at hbeside
  rw [work_attend, hbeside.1, hbeside.2.1, work_fires, prospect]

/-- The stage of the appender when it has run. -/
def nextStage (p : Pipeline) : Stage :=
  p.appender.stage.told p.appenderLine.sounds

theorem TriggerRests.ticksDue_eq (h : p.TriggerRests) : p.ticksDue = 0 := by
  unfold TriggerRests at h
  unfold ticksDue
  generalize p.trigger = task at h
  cases h with
  | absent => rfl
  | finished broken => rfl
  | armed t hsilent hnext =>
    dsimp only
    rw [if_neg (Bool.eq_false_iff.1 hsilent), Timetable.due_of_lt hnext]

theorem TriggerRests.nextTrigger_eq (h : p.TriggerRests) : p.nextTrigger = p.trigger := by
  unfold TriggerRests at h
  unfold nextTrigger
  generalize p.trigger = task at h
  cases h with
  | absent => rfl
  | finished broken => rfl
  | armed t hsilent hnext =>
    dsimp only
    rw [if_neg (Bool.eq_false_iff.1 hsilent), Timetable.due_of_lt hnext]
    rfl

theorem AppenderRests.attend_eq (h : p.AppenderRests) :
    p.work.attend p.appender.stage p.appenderLine.sounds = p.work := by
  unfold AppenderRests at h
  generalize p.appender = task at h
  cases h with
  | absent hvacant => exact p.work.attend_absent _
  | finished hvacant => exact p.work.attend_finished _
  | asleep waiter hasleep hsilent =>
    rw [hsilent]
    exact Work.attend_of_owed_eq_false hasleep.owed_eq _

theorem AppenderRests.nextStage_eq (h : p.AppenderRests) : p.nextStage = p.appender.stage := by
  unfold AppenderRests at h
  unfold nextStage
  generalize p.appender = task at h
  cases h with
  | absent hvacant => rfl
  | finished hvacant => rfl
  | asleep waiter hasleep hsilent =>
    rw [hsilent]
    rfl

/-- A trigger that was told to stop fires no more and ends, however late it is. -/
theorem ticksDue_of_sounds (h : p.triggerLine.sounds = true) : p.ticksDue = 0 := by
  unfold ticksDue
  rw [h]
  cases p.trigger <;> rfl

theorem stage_nextTrigger_of_sounds (h : p.triggerLine.sounds = true) :
    p.nextTrigger.stage = p.trigger.stage.told true := by
  unfold nextTrigger
  rw [h]
  cases p.trigger with
  | absent => rfl
  | finished broken => rfl
  | armed t => rfl
  | spawned period =>
    dsimp only
    cases Timetable.start? p.now period <;> rfl

theorem ticksDue_of_armed {t : Timetable} (ht : p.trigger = .armed t)
    (hsilent : p.triggerLine.sounds = false) : p.ticksDue = t.due p.now := by
  rw [ticksDue, ht, hsilent]
  rfl

theorem nextTrigger_of_armed {t : Timetable} (ht : p.trigger = .armed t)
    (hsilent : p.triggerLine.sounds = false) :
    p.nextTrigger = .armed ((fun t ↦ t.after p.now)^[t.due p.now] t) := by
  rw [nextTrigger, ht, hsilent]
  rfl

/-- A trigger at rest that runs has its next tick in the future. -/
theorem TriggerRests.exists_armed (h : p.TriggerRests) (hrunning : p.trigger.stage = .running) :
    ∃ t, p.trigger = .armed t ∧ p.now < t.next := by
  unfold TriggerRests at h
  generalize p.trigger = task at h hrunning
  cases h with
  | absent => cases hrunning
  | finished broken => cases hrunning
  | armed t hsilent hnext => exact ⟨t, rfl, hnext⟩

/-- An appender at rest that runs has no drain owed. -/
theorem AppenderRests.owed_eq (h : p.AppenderRests) (hrunning : p.appender.stage = .running) :
    p.pending.owed = false := by
  unfold AppenderRests at h
  generalize p.appender = task at h hrunning
  cases h with
  | absent hvacant => cases hrunning
  | finished hvacant => cases hrunning
  | asleep waiter hasleep hsilent => exact hasleep.owed_eq

/-- If ticks are due, the trigger is the first to run. -/
def TriggerFirst (p : Pipeline) : Prop :=
  p.ticksDue ≠ 0 → p.ready.head? = some .trigger

/-- An alert pipeline in which the ticks that are due come first and come true. -/
structure Orderly (p : Pipeline) : Prop where
  alert : p.Alert none
  first : p.TriggerFirst
  steady : p.ticksDue ≠ 0 → p.producer.Steady

/-- A pipeline without ticks due has none that could come late or fail. -/
theorem Alert.orderly (h : p.Alert none) (hnone : p.ticksDue = 0) : p.Orderly :=
  ⟨h, fun hdue ↦ absurd hnone hdue, fun hdue ↦ absurd hnone hdue⟩

/-- From `p` to `q` nothing changed about what is ahead. -/
structure Onward (p q : Pipeline) : Prop where
  prospect_eq : q.prospect = p.prospect
  nextTrigger_eq : q.nextTrigger = p.nextTrigger
  nextStage_eq : q.nextStage = p.nextStage

theorem Onward.trans {r : Pipeline} (h : Onward p q) (h' : Onward q r) : Onward p r :=
  ⟨h'.prospect_eq.trans h.prospect_eq, h'.nextTrigger_eq.trans h.nextTrigger_eq,
    h'.nextStage_eq.trans h.nextStage_eq⟩

theorem onward_pollTrigger (hsteady : p.ticksDue ≠ 0 → p.producer.Steady) :
    Onward p p.pollTrigger ∧ p.pollTrigger.ticksDue = 0 := by
  obtain ⟨n, heq, hrests, -, -, hdue⟩ := ticked_pollTrigger p
  obtain ⟨rfl, hnext⟩ := hdue hsteady
  have hwork : p.pollTrigger.work = Work.fire^[p.ticksDue] p.work := by
    rw [heq]
    exact work_fires p.ticksDue p
  have hbeside : p.pollTrigger.besideTrigger = p.besideTrigger := by
    rw [heq]
    exact besideTrigger_fires p.ticksDue p
  simp only [besideTrigger, Prod.mk.injEq] at hbeside
  obtain ⟨htask, hline, hown, -, -, -, -, hnow⟩ := hbeside
  rw [← hnow, ← hown] at hrests
  have hnone := TriggerRests.ticksDue_eq hrests
  refine ⟨⟨?_, ?_, ?_⟩, hnone⟩
  · rw [prospect, hnone, htask, hline, hwork]
    rfl
  · rw [TriggerRests.nextTrigger_eq hrests, hnext]
  · rw [nextStage, htask, hline]
    rfl

theorem onward_pollAppender (hwaits : p.appender.Waits p.pending) (hnone : p.ticksDue = 0) :
    Onward p p.pollAppender ∧ p.pollAppender.ticksDue = 0 := by
  obtain ⟨hwork, hbeside, hstage, hrests⟩ := attended_pollAppender hwaits
  simp only [besideAppender, Prod.mk.injEq] at hbeside
  obtain ⟨htask, hline, hown, -, -, -, -, hnow⟩ := hbeside
  have hdue : p.pollAppender.ticksDue = p.ticksDue := by
    unfold ticksDue
    rw [htask, hline, hnow]
  have hnext : p.pollAppender.nextTrigger = p.nextTrigger := by
    unfold nextTrigger
    rw [htask, hline, hnow]
  refine ⟨⟨?_, hnext, hrests.nextStage_eq.trans hstage⟩, hdue.trans hnone⟩
  rw [prospect, hdue, hnone, prospect, hnone]
  exact hrests.attend_eq.trans hwork

/-- A turn changes nothing about what is ahead, and leaves no ticks due. -/
theorem Orderly.turn (h : p.Orderly) : Onward p p.turn ∧ p.turn.Orderly := by
  have halert := h.alert.turn
  unfold Pipeline.turn at halert ⊢
  split at halert
  · exact ⟨⟨rfl, rfl, rfl⟩, h⟩
  · next rest hready =>
    obtain ⟨honward, hnone⟩ := onward_pollTrigger (p := { p with ready := rest }) h.steady
    exact ⟨⟨honward.prospect_eq, honward.nextTrigger_eq, honward.nextStage_eq⟩,
      halert.orderly hnone⟩
  · next rest hready =>
    have hnone : p.ticksDue = 0 := by
      by_contra hdue
      have hrole := h.first hdue
      rw [hready] at hrole
      cases hrole
    obtain ⟨honward, hnone⟩ :=
      onward_pollAppender (p := { p with ready := rest }) h.alert.waits hnone
    exact ⟨⟨honward.prospect_eq, honward.nextTrigger_eq, honward.nextStage_eq⟩,
      halert.orderly hnone⟩

/-! ### Quiescence -/

/-- How many turns it takes until nothing is ready: the trigger may wake the appender. -/
def load (p : Pipeline) : ℕ :=
  (if .trigger ∈ p.ready then 2 else 0) + if .appender ∈ p.ready then 1 else 0

theorem load_le (p : Pipeline) : p.load ≤ 3 := by
  unfold load
  split <;> split <;> decide

theorem ready_eq_nil_of_load_eq (h : p.load = 0) : p.ready = [] := by
  refine List.eq_nil_iff_forall_not_mem.2 fun role hrole ↦ ?_
  unfold load at h
  cases role with
  | trigger =>
    rw [if_pos hrole] at h
    omega
  | appender =>
    rw [if_pos hrole] at h
    omega

theorem trigger_not_mem_ready_pollTrigger (h : .trigger ∉ p.ready) :
    .trigger ∉ p.pollTrigger.ready := by
  obtain ⟨n, heq, -, -⟩ := ticked_pollTrigger p
  rw [heq]
  exact fires_induction (P := fun q ↦ .trigger ∉ q.ready)
    (fun _ hq hmem ↦ hq (trigger_mem_of_mem_ready_fire hmem)) h n

theorem load_turn (h : p.Alert none) : p.turn.load ≤ p.load - 1 := by
  have hnodup := h.nodup
  unfold turn
  split
  · next hready =>
    have hload : p.load = 0 := by
      rw [load, hready]
      rfl
    exact Nat.le_trans (Nat.le_of_eq hload) (Nat.zero_le _)
  · next rest hready =>
    rw [hready, List.nodup_cons] at hnodup
    have hafter := trigger_not_mem_ready_pollTrigger (p := { p with ready := rest }) hnodup.1
    have hbefore : .trigger ∈ p.ready := hready ▸ List.mem_cons_self
    unfold load
    rw [if_neg hafter, if_pos hbefore]
    split <;> omega
  · next rest hready =>
    rw [hready, List.nodup_cons] at hnodup
    have hattended := attended_pollAppender (p := { p with ready := rest }) h.waits
    have hrest : ({ p with ready := rest } : Pipeline).pollAppender.ready = rest :=
      congrArg (·.2.2.2.1) hattended.beside_eq
    have hsame : .trigger ∈ p.ready ↔ .trigger ∈ rest := by
      rw [hready, List.mem_cons]
      exact or_iff_right nofun
    have hbefore : .appender ∈ p.ready := hready ▸ List.mem_cons_self
    unfold load
    rw [hrest, if_neg hnodup.1, if_pos hbefore]
    simp only [hsame]
    omega

theorem ready_settle (h : p.Alert none) : p.settle.ready = [] := by
  refine ready_eq_nil_of_load_eq (Nat.le_zero.1 ?_)
  calc p.turn.turn.turn.load ≤ p.turn.turn.load - 1 := load_turn h.turn.turn
    _ ≤ p.turn.load - 1 - 1 := Nat.sub_le_sub_right (load_turn h.turn) 1
    _ ≤ p.load - 1 - 1 - 1 := Nat.sub_le_sub_right (Nat.sub_le_sub_right (load_turn h) 1) 1
    _ ≤ 0 := Nat.sub_le_sub_right (Nat.sub_le_sub_right (Nat.sub_le_sub_right p.load_le 1) 1) 1

/-- When nothing is ready, nothing happens. -/
theorem settle_of_ready_eq_nil (h : p.ready = []) : p.settle = p := by
  have hturn := turn_of_ready_eq_nil h
  rw [settle, hturn, hturn, hturn]

theorem Alert.rests (h : p.Alert none) (hready : p.ready = []) (role : Role) : p.Rests role := by
  refine (h.ready_or_rests role nofun).resolve_left ?_
  rw [hready]
  exact List.not_mem_nil

theorem Orderly.settle (h : p.Orderly) : Onward p p.settle := by
  obtain ⟨honward, h⟩ := h.turn
  obtain ⟨honward', h⟩ := h.turn
  obtain ⟨honward'', -⟩ := h.turn
  exact (honward.trans honward').trans honward''

/-- A settled pipeline has nothing ahead of it: what was ahead has come. -/
theorem Orderly.settle_eq (h : p.Orderly) :
    p.settle.work = p.prospect ∧ p.settle.trigger = p.nextTrigger ∧
      p.settle.appender.stage = p.nextStage := by
  obtain ⟨hprospect, htrigger, hstage⟩ := h.settle
  have hready := ready_settle h.alert
  have halert : p.settle.Alert none := h.alert.turn.turn.turn
  have hrests : p.settle.TriggerRests := halert.rests hready .trigger
  have hrests' : p.settle.AppenderRests := halert.rests hready .appender
  refine ⟨?_, ?_, ?_⟩
  · rw [← hprospect, prospect, hrests.ticksDue_eq]
    exact hrests'.attend_eq.symm
  · rw [← htrigger, hrests.nextTrigger_eq]
  · rw [← hstage, hrests'.nextStage_eq]

/-! ### What signals bring about -/

/-- Told to stop by any signals, the trigger ends and fires nothing more; the appender does what
there is for it to do. -/
theorem Alert.settle_signals_trigger (h : p.Alert none) {signals : List Signal}
    (hsignals : signals ≠ []) :
    (p.signals .trigger signals).settle.work = p.attend.work ∧
      (p.signals .trigger signals).settle.trigger.stage = p.trigger.stage.told true := by
  have hsounds := sounds_line_signals hsignals p .trigger
  have hnone := ticksDue_of_sounds hsounds
  obtain ⟨hwork, htrigger, -⟩ := ((h.signals .trigger signals).orderly hnone).settle_eq
  have hended := stage_nextTrigger_of_sounds hsounds
  rw [hwork, htrigger, prospect, hnone, hended, work_attend]
  obtain ⟨ready, -, heq⟩ := exists_signals_eq hsignals p .trigger
  rw [heq]
  exact ⟨rfl, rfl⟩

/-- Told to stop by any signals, the appender lets the trigger fire what is due, makes its last
drain if one is owed or an entry waits, and ends. -/
theorem Orderly.settle_signals_appender (h : p.Orderly) {signals : List Signal}
    (hsignals : signals ≠ []) :
    let fired := p.fires p.ticksDue
    (p.signals .appender signals).settle.work =
        (if p.appender.stage = .running ∧ (fired.pending.owed || fired.cell.hasPending) then
          fired.drain.2 else fired).work ∧
      (p.signals .appender signals).settle.appender.stage = p.appender.stage.told true := by
  intro fired
  have hsounds : (p.signals .appender signals).appenderLine.sounds = true :=
    sounds_line_signals hsignals p .appender
  obtain ⟨ready, ⟨behind, hready⟩, heq⟩ := exists_signals_eq hsignals p .appender
  have hdue : (p.signals .appender signals).ticksDue = p.ticksDue := by rw [heq]; rfl
  have htask : (p.signals .appender signals).appender = p.appender := by rw [heq]; rfl
  have hsame : (p.signals .appender signals).work = p.work := by rw [heq]; rfl
  have horderly : (p.signals .appender signals).Orderly := by
    refine ⟨h.alert.signals .appender signals, fun hsome ↦ ?_, fun hsome ↦ ?_⟩
    · -- the trigger keeps its place before the appender
      obtain ⟨rest, hfirst⟩ := List.head?_eq_some_iff.1 (h.first (hdue ▸ hsome))
      rw [heq]
      show ready.head? = some .trigger
      rw [← hready, hfirst]
      rfl
    · rw [heq]
      exact h.steady (hdue ▸ hsome)
  obtain ⟨hwork, -, hstage⟩ := horderly.settle_eq
  constructor
  · rw [hwork, prospect, hdue, hsame, htask, hsounds, ← work_fires, work_attend_stopped]
  · rw [hstage, nextStage, htask, hsounds]

/-! ### The main result -/

/-- The tasks do what a caller does by hand. Settling fires as often as ticks are due, and then the
appender drains if a drain is owed, or a last time if it was told to stop and an entry waits; told
to stop, the trigger fires no more, and each ends. Afterwards nothing is left to do: an appender
that runs has no drain owed, a trigger that runs has its next tick in the future, and settling again
changes nothing. Any signals make a line sound: the trigger then ends without firing, however late
it is, and the appender after its last drain. However a task was told to stop, it is told the same.
-/
theorem settle_by_hand (scratch : ℕ) (b : Buffer) {producer : Producer} (hsteady : producer.Steady)
    (uptime : ℕ → Duration) (moves : List Move)
    (hfirst : ((make scratch b producer uptime).operate moves).TriggerFirst) :
    let p := (make scratch b producer uptime).operate moves
    let fired := p.fires p.ticksDue
    p.settle.work = fired.attend.work ∧
    (p.triggerLine.sounds = true → p.ticksDue = 0 ∧
      (p.trigger.stage = .running → p.settle.trigger.stage = .finished)) ∧
    (∀ t, p.trigger = .armed t → p.triggerLine.sounds = false →
      (∀ n, p.now < ((fun t ↦ t.after p.now)^[n] t).next ↔ p.ticksDue ≤ n) ∧
      p.settle.trigger = .armed ((fun t ↦ t.after p.now)^[p.ticksDue] t)) ∧
    (∀ period t, p.trigger = .spawned period → p.triggerLine.sounds = false →
      Timetable.start? p.now period = some t → p.settle.trigger = .armed t ∧
        t.period = period.totalNanos ∧ t.next = p.now + period.totalNanos) ∧
    p.settle.appender.stage =
      (if p.appender.stage = .running ∧ p.appenderLine.sounds then .finished
        else p.appender.stage) ∧
    (p.settle.appender.stage = .running → p.settle.pending.owed = false) ∧
    (p.settle.trigger.stage = .running →
      ∃ t, p.settle.trigger = .armed t ∧ p.settle.now < t.next) ∧
    p.settle.settle = p.settle ∧
    ∀ signals, signals ≠ [] →
      (p.signalTrigger signals).triggerLine.sounds = true ∧
      (p.signalAppender signals).appenderLine.sounds = true ∧
      (p.signalTrigger signals).settle.work = p.attend.work ∧
      (p.trigger.stage = .running → (p.signalTrigger signals).settle.trigger.stage = .finished) ∧
      (p.signalAppender signals).settle.work =
        (if p.appender.stage = .running ∧ (fired.pending.owed || fired.cell.hasPending) then
          fired.drain.2 else fired).work ∧
      (p.appender.stage = .running →
        (p.signalAppender signals).settle.appender.stage = .finished) ∧
      (p.signalTrigger signals).settle =
        { p.stopTrigger.settle with triggerLine := p.triggerLine.signals signals } ∧
      (p.signalAppender signals).settle =
        { p.stopAppender.settle with appenderLine := p.appenderLine.signals signals } ∧
      (p.trigger = .absent → ∀ period, (p.signalTrigger signals).spawnTrigger period =
        (p.spawnTrigger period).signalTrigger signals) ∧
      (p.appender = .absent → (p.signalAppender signals).spawnAppender =
        p.spawnAppender.signalAppender signals) := by
  intro p fired
  obtain ⟨halert, hproducer, -, -⟩ := alert_operate scratch b producer uptime moves
  have horderly : p.Orderly := ⟨halert, hfirst, fun _ ↦ hproducer.symm ▸ hsteady⟩
  obtain ⟨hwork, htrigger, hstage⟩ := horderly.settle_eq
  have hready := ready_settle halert
  have hsettled : p.settle.Alert none := halert.turn.turn.turn
  have hrests : p.settle.TriggerRests := hsettled.rests hready .trigger
  have hrests' : p.settle.AppenderRests := hsettled.rests hready .appender
  refine ⟨hwork.trans p.prospect_eq, fun hsounds ↦ ⟨ticksDue_of_sounds hsounds, fun hrunning ↦ ?_⟩,
    fun t ht hsilent ↦ ⟨fun n ↦ ?_, ?_⟩, fun period t hspawned hsilent hstart ↦ ?_, hstage,
    hrests'.owed_eq, hrests.exists_armed, settle_of_ready_eq_nil hready, fun signals hsignals ↦ ?_⟩
  · rw [htrigger, stage_nextTrigger_of_sounds hsounds, hrunning]
    rfl
  · rw [ticksDue_of_armed ht hsilent]
    exact Timetable.lt_next_iterate_after_iff
  · rw [htrigger, nextTrigger, ht, hsilent, ticksDue_of_armed ht hsilent]
    rfl
  · obtain ⟨hperiod, hnext⟩ := Timetable.of_start? hstart
    refine ⟨?_, hperiod, hnext⟩
    rw [htrigger, nextTrigger_of_start?_eq_some hspawned hstart, hsilent]
    rfl
  · obtain ⟨hquiet, hended⟩ := halert.settle_signals_trigger hsignals
    obtain ⟨hlast, hended'⟩ := horderly.settle_signals_appender hsignals
    exact ⟨sounds_line_signals hsignals p .trigger, sounds_line_signals hsignals p .appender,
      hquiet, fun hrunning ↦ hended.trans (by rw [hrunning]; rfl), hlast,
      fun hrunning ↦ hended'.trans (by rw [hrunning]; rfl),
      settle_signals hsignals p .trigger, settle_signals hsignals p .appender,
      fun habsent period ↦ spawnTrigger_signalTrigger habsent period signals,
      fun habsent ↦ spawnAppender_signalAppender habsent signals⟩

theorem steady_counter : Producer.counter.Steady :=
  fun _ _ ↦ rfl

/-- The trigger has a period of a millisecond and a half and is late by three of them, and the
appender sleeps after a request whose drain was claimed behind its back: four fires, of which the
appender drains the last. Hung up on, the trigger would have fired none of them and ended; told to
stop, the appender would have ended behind the same drain. -/
theorem settle_by_hand_of_four_ticks :
    let period : Duration := ⟨0, 1500000, by decide⟩
    let moves : List Move := [.spawnTrigger period, .settle, .act .schedule, .act .claim,
      .spawnAppender, .settle, .act (.pass 6)]
    let b : Buffer := { contents := .empty, capacity := 5, maxEntry := 16, ceiling := none }
    let p := (make 64 b .counter).operate moves
    Producer.counter.Steady ∧ p.TriggerFirst ∧ p.ticksDue = 4 ∧
      p.settle.work = p.fire.2.fire.2.fire.2.fire.2.drain.2.work ∧ p.settle.settle = p.settle ∧
      p.settle.buffer.contents = "Timer 4 hit\n".toUTF8 ∧
      (p.signalTrigger [.hangUp, .word]).settle.work = p.work ∧
      (p.signalTrigger [.hangUp, .word]).settle.trigger.stage = .finished ∧
      (p.signalAppender [.word]).settle.work = p.settle.work ∧
      (p.signalAppender [.word]).settle.appender.stage = .finished := by
  intro period moves b p
  have hfirst : p.TriggerFirst := fun _ ↦ by decide +kernel
  have hdue : p.ticksDue = 4 := by decide +kernel
  have hattend : p.fire.2.fire.2.fire.2.fire.2.attend = p.fire.2.fire.2.fire.2.fire.2.drain.2 :=
    if_pos (by decide +kernel)
  have hidle : p.attend = p := if_neg (by decide +kernel)
  have hstage : p.trigger.stage = .running := by decide +kernel
  have hstage' : p.appender.stage = .running := by decide +kernel
  have howed : p.fire.2.fire.2.fire.2.fire.2.pending.owed = true := by decide +kernel
  have hcontents : p.settle.buffer.contents = "Timer 4 hit\n".toUTF8 := by decide +kernel
  have hrun : p = (make 64 b .counter).operate moves := rfl
  clear_value p
  obtain ⟨hwork, -, -, -, -, -, -, hsettled, hsignals⟩ :=
    settle_by_hand 64 b steady_counter _ moves (hrun ▸ hfirst)
  rw [← hrun] at hwork hsettled hsignals
  obtain ⟨-, -, hquiet, hended, -⟩ := hsignals [.hangUp, .word] nofun
  obtain ⟨-, -, -, -, hlast, hended', -⟩ := hsignals [.word] nofun
  rw [hidle] at hquiet
  rw [hdue, fires_succ, fires_succ, fires_succ, fires_succ, fires_zero] at hwork hlast
  rw [hattend] at hwork
  rw [if_pos ⟨hstage', by rw [howed, Bool.true_or]⟩] at hlast
  exact ⟨steady_counter, hfirst, hdue, hwork, hsettled, hcontents, hquiet, hended hstage,
    hlast.trans hwork.symm, hended' hstage'⟩

end Pipeline

end DeferredLog
