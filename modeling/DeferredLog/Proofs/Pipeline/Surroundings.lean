import DeferredLog.Proofs.Pipeline.Polls

/-!
# What the operations of a pipeline only read

The lines on which the tasks are told to stop, and the producer, are read and never written: they
are the surroundings of a pipeline. So the same operation in other surroundings does the same as
long as it reads the same, and leaves the same pipeline in those other surroundings. The appender's
operations read nothing of them but whether its line sounds, a fire nothing but what the producer
gives for the next tick.
-/

namespace DeferredLog.Pipeline

variable {p : Pipeline} {entry : ByteArray}

/-- What surrounds a pipeline. -/
structure Surroundings where
  triggerLine : StopLine
  appenderLine : StopLine
  producer : Producer

def surroundings (p : Pipeline) : Surroundings :=
  ⟨p.triggerLine, p.appenderLine, p.producer⟩

/-- The same pipeline in other surroundings. -/
def within (p : Pipeline) (s : Surroundings) : Pipeline :=
  { p with triggerLine := s.triggerLine, appenderLine := s.appenderLine, producer := s.producer }

theorem noteAll_within (p : Pipeline) (notices : List Notice) (s : Surroundings) :
    (p.within s).noteAll notices = (p.noteAll notices).within s := by
  induction notices generalizing p with
  | nil => rfl
  | cons notice rest ih => exact ih (p.note notice)

theorem wake_within (p : Pipeline) (role : Role) (s : Surroundings) :
    (p.within s).wake role = (p.wake role).within s := by
  unfold wake within
  dsimp only
  split <;> rfl

theorem advance_within (p : Pipeline) (ms : ℕ) (s : Surroundings) :
    (p.within s).advance ms = (p.advance ms).within s := by
  have hwake := wake_within { p with now := p.now + 1000000 * ms } .trigger s
  unfold advance within at *
  dsimp only at *
  split
  · split
    · exact hwake
    · rfl
  · rfl

theorem schedule_within (p : Pipeline) (s : Surroundings) :
    (p.within s).schedule = (p.schedule.1, p.schedule.2.within s) := by
  have hwake := wake_within { p with pending := p.pending.schedule.pending } .appender s
  unfold schedule within at *
  dsimp only at *
  split
  · split
    · rw [hwake]
    · rfl
  · rfl

/-- A fire asks the producer for the next tick only. -/
theorem fire_within {s : Surroundings} (h : (p.within s).nextParts = p.nextParts) :
    (p.within s).fire = (p.fire.1, p.fire.2.within s) := by
  cases hentry : Part.entry? p.nextParts with
  | none =>
    rw [fire_of_entry?_eq_none hentry, fire_of_entry?_eq_none (h ▸ hentry)]
    rfl
  | some entry =>
    have hentry' : Part.entry? (p.within s).nextParts = some entry := h ▸ hentry
    obtain ⟨ready, hfire⟩ := fire_of_entry?_eq_some hentry
    obtain ⟨ready', hfire'⟩ := fire_of_entry?_eq_some hentry'
    refine Prod.ext ?_ ?_
    · rw [hfire, hfire']
      rfl
    · have hschedule := schedule_within
        { p with tick := p.tick + 1, cell := (p.cell.publish entry).2 } s
      rw [snd_fire_of_entry?_eq_some hentry']
      show _ = p.fire.2.within s
      rw [snd_fire_of_entry?_eq_some hentry]
      exact congrArg Prod.snd hschedule

theorem append_within (p : Pipeline) (entry : ByteArray) (s : Surroundings) :
    (p.within s).append entry = ((p.append entry).1, (p.append entry).2.within s) :=
  Prod.ext rfl (noteAll_within { p with buffer := (p.buffer.append entry).2 } _ s)

theorem commit_within (p : Pipeline) (entry : ByteArray) (s : Surroundings) :
    (p.within s).commit entry = ((p.commit entry).1, (p.commit entry).2.within s) := by
  unfold commit
  rw [append_within]
  rcases p.append entry with ⟨_ | _, _⟩
  · rfl
  · rfl

theorem drain_within (p : Pipeline) (s : Surroundings) :
    (p.within s).drain = (p.drain.1, p.drain.2.within s) := by
  have hcommit (entry : ByteArray) (cell : Cell) := commit_within
    { p with
      cell
      pending := p.pending.claim.2
      drains.drains := p.drains.drains + 1 } entry s
  unfold drain claim within at *
  dsimp only at *
  rcases p.cell.take with ⟨_ | entry, cell⟩
  · rfl
  · exact hcommit entry cell

theorem drainOwed_within (p : Pipeline) (s : Surroundings) :
    (p.within s).drainOwed = p.drainOwed.within s := by
  unfold drainOwed
  show (if p.pending.owed then _ else _) = _
  split
  · exact congrArg Prod.snd (drain_within p s)
  · rfl

theorem finishAppender_within (p : Pipeline) (waiter : ℕ) (s : Surroundings) :
    (p.within s).finishAppender waiter = (p.finishAppender waiter).within s := by
  have hlast : (if (p.within s).pending.owed || (p.within s).cell.hasPending then
        ((p.within s).note .finalDrain).drain.2
      else p.within s) =
      (if p.pending.owed || p.cell.hasPending then (p.note .finalDrain).drain.2
        else p).within s := by
    show (if p.pending.owed || p.cell.hasPending then _ else _) = _
    split
    · exact congrArg Prod.snd (drain_within (p.note .finalDrain) s)
    · rfl
  unfold finishAppender
  rw [hlast]
  rfl

theorem runAppender_within (p : Pipeline) (waiter : ℕ) (s : Surroundings) :
    (p.within s).runAppender waiter = (p.runAppender waiter).within s := by
  fun_induction runAppender p waiter with
  | case1 p waiter answer hready q ih =>
    have hq : ({ p.within s with pending := answer.2 } : Pipeline).drainOwed = q.within s :=
      drainOwed_within { p with pending := answer.2 } s
    have hround : (p.within s).runAppender waiter =
        let q := ({ p.within s with pending := answer.2 } : Pipeline).drainOwed
        ({ q with pending := q.pending.wait.2 } : Pipeline).runAppender q.pending.wait.1 := by
      rw [runAppender]
      exact if_pos hready
    rw [hround, hq]
    exact ih
  | case2 p waiter answer hready =>
    rw [runAppender]
    exact if_neg hready

theorem pollAppender_within {s : Surroundings}
    (h : s.appenderLine.sounds = p.appenderLine.sounds) :
    (p.within s).pollAppender = p.pollAppender.within s := by
  have hgo {q : Pipeline} (hq : s.appenderLine.sounds = q.appenderLine.sounds) (waiter : ℕ) :
      pollAppender.go (q.within s) waiter = (pollAppender.go q waiter).within s := by
    unfold pollAppender.go
    show (if s.appenderLine.sounds then _ else _) = _
    rw [hq]
    split
    · exact finishAppender_within q waiter s
    · exact runAppender_within q waiter s
  cases htask : p.appender with
  | absent =>
    rw [pollAppender, pollAppender, htask, show (p.within s).appender = _ from htask]
  | finished =>
    rw [pollAppender, pollAppender, htask, show (p.within s).appender = _ from htask]
  | spawned =>
    rw [pollAppender_of_spawned htask, pollAppender_of_spawned (p := p.within s) htask]
    exact hgo (q := ({ p with pending := p.pending.wait.2 } : Pipeline).note .appenderStarted) h _
  | asleep waiter =>
    rw [pollAppender_of_asleep htask, pollAppender_of_asleep (p := p.within s) htask]
    exact hgo h waiter

/-! ### Runs of the trigger -/

/-- A burst with the same producer is the same burst. -/
theorem fireDue_within (now : ℕ) (t : Timetable) (p : Pipeline) {s : Surroundings}
    (h : s.producer = p.producer) :
    fireDue now t (p.within s) = (fireDue now t p).within s := by
  have hfires {q : Pipeline} (hq : s.producer = q.producer) :
      (q.within s).fire = (q.fire.1, q.fire.2.within s) :=
    fire_within (congrFun (congrFun hq (q.tick + 1)) (q.uptime (q.tick + 1)))
  fun_induction fireDue now t p with
  | case1 t p hdue fired q hfire ih =>
    have hq : s.producer = q.producer := by
      rw [h, ← show p.fire.2 = q from congrArg Prod.snd hfire, producer_fire]
    rw [fireDue, dif_pos hdue, hfires h, hfire]
    exact ih hq
  | case2 t p hdue q hfire =>
    rw [fireDue, dif_pos hdue, hfires h, hfire]
    rfl
  | case3 t p hdue =>
    rw [fireDue, dif_neg hdue]
    rfl

/-- A run of the trigger reads its line, and goes as its burst goes. -/
theorem runTrigger_within {s : Surroundings} (h : s.triggerLine.sounds = p.triggerLine.sounds)
    {t : Timetable}
    (hburst : fireDue p.now t (p.within s) = (fireDue p.now t p).within s) :
    (p.within s).runTrigger t = (p.runTrigger t).within s := by
  cases hline : p.triggerLine.sounds with
  | true =>
    rw [runTrigger_of_sounds hline, runTrigger_of_sounds (p := p.within s) (h.trans hline)]
    rfl
  | false =>
    rw [runTrigger_of_silent hline, runTrigger_of_silent (p := p.within s) (h.trans hline)]
    exact hburst

theorem pollTrigger_within {s : Surroundings} (h : s.triggerLine.sounds = p.triggerLine.sounds)
    (hproducer : s.producer = p.producer) :
    (p.within s).pollTrigger = p.pollTrigger.within s := by
  cases htask : p.trigger with
  | absent =>
    rw [pollTrigger, pollTrigger, htask, show (p.within s).trigger = _ from htask]
  | finished broken =>
    rw [pollTrigger, pollTrigger, htask, show (p.within s).trigger = _ from htask]
  | armed t =>
    rw [pollTrigger, pollTrigger, htask, show (p.within s).trigger = _ from htask]
    exact runTrigger_within h (fireDue_within p.now t p hproducer)
  | spawned period =>
    cases hstart : Timetable.start? p.now period with
    | none =>
      rw [pollTrigger_of_start?_eq_none htask hstart,
        pollTrigger_of_start?_eq_none (p := p.within s) htask hstart]
      rfl
    | some t =>
      rw [pollTrigger_of_start?_eq_some htask hstart,
        pollTrigger_of_start?_eq_some (p := p.within s) htask hstart]
      let q := p.note (.triggerArmed (period.millis % UInt64.size))
      exact runTrigger_within (p := q) h (fireDue_within q.now t q hproducer)

theorem turn_of_ready_eq_nil (h : p.ready = []) : p.turn = p := by
  rw [turn, h]

theorem turn_of_ready_eq_trigger {rest : List Role} (h : p.ready = .trigger :: rest) :
    p.turn = ({ p with ready := rest } : Pipeline).pollTrigger := by
  rw [turn, h]

theorem turn_of_ready_eq_appender {rest : List Role} (h : p.ready = .appender :: rest) :
    p.turn = ({ p with ready := rest } : Pipeline).pollAppender := by
  rw [turn, h]

theorem turn_within {s : Surroundings} (h : s.triggerLine.sounds = p.triggerLine.sounds)
    (h' : s.appenderLine.sounds = p.appenderLine.sounds) (hproducer : s.producer = p.producer) :
    (p.within s).turn = p.turn.within s := by
  let q := p.within s
  rcases hready : p.ready with _ | ⟨_ | _, rest⟩
  · have hsame : q.turn = q := turn_of_ready_eq_nil hready
    exact hsame.trans (congrArg (·.within s) (turn_of_ready_eq_nil hready).symm)
  · rw [turn_of_ready_eq_trigger hready, turn_of_ready_eq_trigger (p := q) hready]
    exact pollTrigger_within (p := { p with ready := rest }) h hproducer
  · rw [turn_of_ready_eq_appender hready, turn_of_ready_eq_appender (p := q) hready]
    exact pollAppender_within (p := { p with ready := rest }) h'

/-- Running leaves the surroundings as they are. -/
theorem surroundings_turn (p : Pipeline) : p.turn.surroundings = p.surroundings := by
  have hsame : p.turn = p.turn.within p.surroundings :=
    turn_within (p := p) (s := p.surroundings) rfl rfl rfl
  rw [hsame]
  rfl

theorem settle_within {s : Surroundings} (h : s.triggerLine.sounds = p.triggerLine.sounds)
    (h' : s.appenderLine.sounds = p.appenderLine.sounds) (hproducer : s.producer = p.producer) :
    (p.within s).settle = p.settle.within s := by
  have hsame (q : Pipeline) (hq : q.surroundings = p.surroundings) :
      (q.within s).turn = q.turn.within s := by
    simp only [surroundings, Surroundings.mk.injEq] at hq
    obtain ⟨hline, hline', hown⟩ := hq
    exact turn_within (hline ▸ h) (hline' ▸ h') (hown ▸ hproducer)
  have hturn := surroundings_turn p
  have hturns := (surroundings_turn p.turn).trans hturn
  rw [settle, hsame p rfl, hsame p.turn hturn, hsame p.turn.turn hturns, settle]

theorem surroundings_settle (p : Pipeline) : p.settle.surroundings = p.surroundings := by
  have hsame : p.settle = p.settle.within p.surroundings :=
    settle_within (p := p) (s := p.surroundings) rfl rfl rfl
  rw [hsame]
  rfl

end DeferredLog.Pipeline
