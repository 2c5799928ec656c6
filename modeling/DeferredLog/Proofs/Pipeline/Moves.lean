import DeferredLog.Proofs.Pipeline.Alertness

/-!
# Pipelines with tasks

A move is an act by hand, or something that concerns the tasks: one is handed over, once, or told to
stop, or the clock runs. The pipelines that moves lead to from a new one are those in which a caller
may find tasks and work, the caller's own requests and claims between the tasks' included.

Every run of the tasks is made of turns, so what acts, spawns, stops and turns keep, every move
keeps (`Kept.operate`). Alertness is such a property.
-/

namespace DeferredLog.Pipeline

variable {p : Pipeline} {P : Pipeline → Prop}

/-! ### Moves -/

/-- What can happen to a pipeline. -/
inductive Move where
  | act (a : Act)
  | spawnTrigger (period : Duration)
  | spawnAppender
  | stopTrigger (signal : Signal)
  | stopAppender (signal : Signal)
  | settle
  | sleep (ms : ℕ)
  | jump (ms : ℕ)
  deriving DecidableEq

/-- The pipeline after a move. A task can be handed over only once. -/
def move (p : Pipeline) : Move → Pipeline
  | .act a => (p.perform a).2
  | .spawnTrigger period => if p.trigger = .absent then p.spawnTrigger period else p
  | .spawnAppender => if p.appender = .absent then p.spawnAppender else p
  | .stopTrigger signal => p.stopTrigger signal
  | .stopAppender signal => p.stopAppender signal
  | .settle => p.settle
  | .sleep ms => p.sleep ms
  | .jump ms => p.jump ms

def operate (p : Pipeline) (moves : List Move) : Pipeline :=
  moves.foldl move p

/-- What settling and moving the clock keep, time that goes by keeps. -/
theorem elapse_induction (hadvance : ∀ q ms, P q → P (q.advance ms))
    (hsettle : ∀ q, P q → P q.settle) (ms : ℕ) (h : P p) : P (elapse ms p) := by
  -- along the halts on the way
  fun_induction elapse ms p with
  | case1 ms p wait hwait hhalt ih => exact ih (hsettle _ (hadvance p wait h))
  | case2 ms p wait hwait hhalt => exact hsettle _ (hadvance p ms h)
  | case3 ms p hwait => exact hsettle _ (hadvance p ms h)

/-- A property that every step of every move keeps. -/
structure Kept (P : Pipeline → Prop) : Prop where
  act : ∀ p a, P p → P (p.perform a).2
  spawnTrigger : ∀ p period, p.trigger = .absent → P p → P (p.spawnTrigger period)
  spawnAppender : ∀ p, p.appender = .absent → P p → P p.spawnAppender
  stopTrigger : ∀ p signal, P p → P (p.stopTrigger signal)
  stopAppender : ∀ p signal, P p → P (p.stopAppender signal)
  turn : ∀ p, P p → P p.turn

theorem Kept.settle (hP : Kept P) (h : P p) : P p.settle :=
  hP.turn _ (hP.turn _ (hP.turn _ h))

theorem Kept.elapse (hP : Kept P) (ms : ℕ) (h : P p) : P (Pipeline.elapse ms p) :=
  elapse_induction (fun q ms hq ↦ hP.act q (.pass ms) hq) (fun _ hq ↦ hP.settle hq) ms h

theorem Kept.move (hP : Kept P) (m : Move) (h : P p) : P (p.move m) := by
  cases m with
  | act a => exact hP.act p a h
  | spawnTrigger period =>
    rw [Pipeline.move]
    split
    · next habsent => exact hP.spawnTrigger p period habsent h
    · exact h
  | spawnAppender =>
    rw [Pipeline.move]
    split
    · next habsent => exact hP.spawnAppender p habsent h
    · exact h
  | stopTrigger signal => exact hP.stopTrigger p signal h
  | stopAppender signal => exact hP.stopAppender p signal h
  | settle => exact hP.settle h
  | sleep ms => exact hP.elapse ms (hP.settle h)
  | jump ms => exact hP.settle (hP.act _ (.pass ms) (hP.settle h))

theorem Kept.operate (hP : Kept P) (moves : List Move) (h : P p) : P (p.operate moves) := by
  induction moves generalizing p with
  | nil => exact h
  | cons m rest ih => exact ih (hP.move m h)

/-! ### Moves and alertness -/

theorem Alert.spawnTrigger (h : p.Alert none) (period : Duration) :
    (p.spawnTrigger period).Alert none :=
  (h.but_trigger nofun (.spawned period) p.triggerLine p.now).wake

theorem Alert.spawnAppender (h : p.Alert none) (habsent : p.appender = .absent) :
    p.spawnAppender.Alert none := by
  have hwaits := h.waits
  rw [habsent] at hwaits
  cases hwaits with
  | absent hvacant => exact (h.but_appender (.spawned hvacant) p.appenderLine).wake

/-- Only a task that runs is woken to be told. -/
theorem stopTrigger_eq (p : Pipeline) (signal : Signal) :
    p.stopTrigger signal =
      let q : Pipeline := { p with triggerLine := p.triggerLine.signal signal }
      if p.trigger.stage = .running then q.wake .trigger else q := by
  unfold Pipeline.stopTrigger TriggerTask.stage
  dsimp only
  cases p.trigger <;> rfl

theorem stopAppender_eq (p : Pipeline) (signal : Signal) :
    p.stopAppender signal =
      let q : Pipeline := { p with appenderLine := p.appenderLine.signal signal }
      if p.appender.stage = .running then q.wake .appender else q := by
  unfold Pipeline.stopAppender AppenderTask.stage
  dsimp only
  cases p.appender <;> rfl

theorem exists_stopTrigger_eq (p : Pipeline) (signal : Signal) :
    ∃ ready, p.stopTrigger signal =
      { p with triggerLine := p.triggerLine.signal signal, ready } := by
  rw [stopTrigger_eq]
  dsimp only
  split
  · exact wake_eq { p with triggerLine := p.triggerLine.signal signal } .trigger
  · exact ⟨p.ready, rfl⟩

theorem exists_stopAppender_eq (p : Pipeline) (signal : Signal) :
    ∃ ready, p.stopAppender signal =
      { p with appenderLine := p.appenderLine.signal signal, ready } := by
  rw [stopAppender_eq]
  dsimp only
  split
  · exact wake_eq { p with appenderLine := p.appenderLine.signal signal } .appender
  · exact ⟨p.ready, rfl⟩

theorem Alert.stopTrigger (h : p.Alert none) (signal : Signal) :
    (p.stopTrigger signal).Alert none := by
  have hbut := h.but_trigger nofun p.trigger (p.triggerLine.signal signal) p.now
  rw [stopTrigger_eq]
  dsimp only
  split
  · exact hbut.wake
  · next hstage => exact hbut.of_but (Or.inr (TriggerTask.restsAt_of_stage_ne hstage _ _))

theorem Alert.stopAppender (h : p.Alert none) (signal : Signal) :
    (p.stopAppender signal).Alert none := by
  have hbut := h.but_appender h.waits (p.appenderLine.signal signal)
  rw [stopAppender_eq]
  dsimp only
  split
  · exact hbut.wake
  · next hstage => exact hbut.of_but (Or.inr (h.waits.rests_of_stage_ne hstage _))

/-! ### Moves and the work -/

theorem work_wake (p : Pipeline) (role : Role) : (p.wake role).work = p.work := by
  obtain ⟨ready, hready⟩ := wake_eq p role
  rw [hready]
  rfl

theorem work_stopTrigger (p : Pipeline) (signal : Signal) :
    (p.stopTrigger signal).work = p.work := by
  obtain ⟨ready, hstop⟩ := exists_stopTrigger_eq p signal
  rw [hstop]
  rfl

theorem work_stopAppender (p : Pipeline) (signal : Signal) :
    (p.stopAppender signal).work = p.work := by
  obtain ⟨ready, hstop⟩ := exists_stopAppender_eq p signal
  rw [hstop]
  rfl

/-- What fires and drains by hand keep of the work, a turn keeps. -/
theorem Alert.work_turn {Q : Work → Prop} (h : p.Alert none)
    (hfire : ∀ q : Pipeline, Q q.work → Q q.fire.2.work)
    (hdrain : ∀ q : Pipeline, Q q.work → Q q.drain.2.work) (hwork : Q p.work) : Q p.turn.work := by
  unfold Pipeline.turn
  split
  · exact hwork
  · next rest hready =>
    let q : Pipeline := { p with ready := rest }
    obtain ⟨n, heq, -, -⟩ := ticked_pollTrigger q
    have hfires : Q (q.fires n).work :=
      fires_induction (p := q) (P := fun r ↦ Q r.work) hfire hwork n
    rw [heq]
    exact hfires
  · next rest hready =>
    let q : Pipeline := { p with ready := rest }
    have hattended : Attended q q.pollAppender q.appender.stage := attended_pollAppender h.waits
    show Q q.pollAppender.work
    rw [hattended.work_eq, Work.attend, ← work_drain]
    split
    · exact hdrain q hwork
    · exact hwork

/-- What every act keeps of the work, every move keeps. -/
theorem kept_of_work {Q : Work → Prop}
    (hact : ∀ (p : Pipeline) (a : Act), Q p.work → Q (p.perform a).2.work) :
    Kept fun p ↦ p.Alert none ∧ Q p.work where
  act := fun p a h ↦ ⟨h.1.perform a, hact p a h.2⟩
  spawnTrigger := fun _ period _ h ↦
    ⟨h.1.spawnTrigger period, (work_wake _ .trigger).symm ▸ h.2⟩
  spawnAppender := fun _ habsent h ↦
    ⟨h.1.spawnAppender habsent, (work_wake _ .appender).symm ▸ h.2⟩
  stopTrigger := fun p signal h ↦
    ⟨h.1.stopTrigger signal, (work_stopTrigger p signal).symm ▸ h.2⟩
  stopAppender := fun p signal h ↦
    ⟨h.1.stopAppender signal, (work_stopAppender p signal).symm ▸ h.2⟩
  turn := fun _ h ↦
    ⟨h.1.turn, h.1.work_turn (hact · .fire) (hact · .drain) h.2⟩

theorem producer_perform (p : Pipeline) (a : Act) : (p.perform a).2.producer = p.producer := by
  obtain ⟨_, _, _, _, _, _, _, _, hperform, -⟩ := perform_eq p a
  rw [hperform]

/-! ### New pipelines -/

theorem alert_make (scratch : ℕ) (b : Buffer) (producer : Producer) (uptime : ℕ → Duration) :
    (make scratch b producer uptime).Alert none := by
  refine ⟨List.nodup_nil, .absent ⟨rfl, rfl⟩, fun role _ ↦ Or.inr ?_⟩
  cases role with
  | trigger => exact .absent
  | appender => exact .absent ⟨rfl, rfl⟩

/-- The pipelines that moves lead to are alert, what they were given stays, and their clock shows
whole milliseconds. -/
theorem alert_operate (scratch : ℕ) (b : Buffer) (producer : Producer) (uptime : ℕ → Duration)
    (moves : List Move) :
    let p := (make scratch b producer uptime).operate moves
    p.Alert none ∧ p.producer = producer ∧ p.uptime = uptime ∧ 1000000 ∣ p.now := by
  have hact (p : Pipeline) (a : Act)
      (hp : p.producer = producer ∧ p.uptime = uptime ∧ 1000000 ∣ p.now) :
      (p.perform a).2.producer = producer ∧ (p.perform a).2.uptime = uptime ∧
        1000000 ∣ (p.perform a).2.now := by
    obtain ⟨_, _, _, _, _, _, ms, _, hperform, -⟩ := perform_eq p a
    rw [hperform]
    exact ⟨hp.1, hp.2.1, Nat.dvd_add hp.2.2 (Nat.dvd_mul_right _ ms)⟩
  have hkept := kept_of_work
    (Q := fun w ↦ w.producer = producer ∧ w.uptime = uptime ∧ 1000000 ∣ w.now) hact
  exact hkept.operate moves
    ⟨alert_make scratch b producer uptime, rfl, rfl, Nat.dvd_zero 1000000⟩

end DeferredLog.Pipeline
