import DeferredLog.Proofs.Pipeline.Moves
import DeferredLog.Proofs.Pipeline.Surroundings

/-!
# One signal is as good as another

The tasks look at their lines only to learn whether they were told to stop. So two pipelines that
differ in what stands on the lines, and not in whether a line sounds, run alike
(`settle_withLines`): the one is the other with its own lines.

Any signals, in any number, make a line sound (`sounds_line_signals`), and besides that they only
wake the task, behind those that were woken before (`exists_signals_eq`). A caller who signals more
than once, or hangs up in place of saying a word, or signals before the task was handed over,
therefore brings about the same (`settle_signals`, `signals_comm`). All of it holds of either task,
whose line and stage are what a signal looks at.
-/

namespace DeferredLog

/-- The line after several signals. -/
def StopLine.signals (l : StopLine) (signals : List Signal) : StopLine :=
  signals.foldl signal l

/-- Any signals but none are heard. -/
theorem StopLine.sounds_signals {signals : List Signal} (h : signals ≠ []) (l : StopLine) :
    (l.signals signals).sounds = true := by
  obtain ⟨earlier, last, rfl⟩ := (List.eq_nil_or_concat' signals).resolve_left h
  rw [StopLine.signals, List.foldl_append]
  exact sounds_signal _ last

namespace Pipeline

variable {p : Pipeline} {role : Role} {l l' : StopLine}

/-! ### Other lines -/

/-- The same pipeline with other lines. -/
def withLines (p : Pipeline) (triggerLine appenderLine : StopLine) : Pipeline :=
  { p with triggerLine, appenderLine }

/-- The surroundings stay while the tasks run. -/
theorem lines_turn (p : Pipeline) :
    p.turn.triggerLine = p.triggerLine ∧ p.turn.appenderLine = p.appenderLine :=
  have hsame := surroundings_turn p
  ⟨congrArg Surroundings.triggerLine hsame, congrArg Surroundings.appenderLine hsame⟩

theorem lines_settle (p : Pipeline) :
    p.settle.triggerLine = p.triggerLine ∧ p.settle.appenderLine = p.appenderLine :=
  have hsame := surroundings_settle p
  ⟨congrArg Surroundings.triggerLine hsame, congrArg Surroundings.appenderLine hsame⟩

theorem settle_withLines (h : l.sounds = p.triggerLine.sounds)
    (h' : l'.sounds = p.appenderLine.sounds) :
    (p.withLines l l').settle = p.settle.withLines l l' := by
  have hproducer : p.settle.producer = p.producer :=
    congrArg Surroundings.producer (surroundings_settle p)
  calc (p.withLines l l').settle = p.settle.within ⟨l, l', p.producer⟩ :=
        settle_within (p := p) (s := ⟨l, l', p.producer⟩) h h' rfl
    _ = p.settle.within ⟨l, l', p.settle.producer⟩ := by rw [hproducer]

/-! ### The line of one task -/

/-- The line on which a task is told to stop. -/
def line (p : Pipeline) : Role → StopLine
  | .trigger => p.triggerLine
  | .appender => p.appenderLine

/-- The same pipeline with another line for one of the tasks. -/
def withLine (p : Pipeline) : Role → StopLine → Pipeline
  | .trigger, l => p.withLines l p.appenderLine
  | .appender, l => p.withLines p.triggerLine l

@[simp] theorem line_withLine (p : Pipeline) (role : Role) (l : StopLine) :
    (p.withLine role l).line role = l := by
  cases role <;> rfl

@[simp] theorem withLine_line (p : Pipeline) (role : Role) : p.withLine role (p.line role) = p := by
  cases role <;> rfl

@[simp] theorem withLine_withLine (p : Pipeline) (role : Role) (l l' : StopLine) :
    (p.withLine role l).withLine role l' = p.withLine role l' := by
  cases role <;> rfl

theorem wake_withLine (p : Pipeline) (role role' : Role) (l : StopLine) :
    (p.withLine role l).wake role' = (p.wake role').withLine role l := by
  cases role with
  | trigger =>
    unfold wake withLine withLines
    dsimp only
    split <;> rfl
  | appender =>
    unfold wake withLine withLines
    dsimp only
    split <;> rfl

theorem settle_withLine (h : l.sounds = (p.line role).sounds) :
    (p.withLine role l).settle = p.settle.withLine role l := by
  obtain ⟨hline, hline'⟩ := lines_settle p
  cases role with
  | trigger => exact (settle_withLines h rfl).trans (congrArg (p.settle.withLines l) hline'.symm)
  | appender => exact (settle_withLines rfl h).trans (congrArg (p.settle.withLines · l) hline.symm)

/-! ### Signals -/

/-- How a task looks from outside. -/
def stage (p : Pipeline) : Role → Stage
  | .trigger => p.trigger.stage
  | .appender => p.appender.stage

/-- Tells a task to stop. -/
def signal (p : Pipeline) : Role → Signal → Pipeline
  | .trigger, signal => p.stopTrigger signal
  | .appender, signal => p.stopAppender signal

/-- What a signal does besides standing on a line: it wakes a task that runs. -/
def rouse (p : Pipeline) (role : Role) : Pipeline :=
  if p.stage role = .running then p.wake role else p

theorem rouse_withLine (p : Pipeline) (role : Role) (l : StopLine) :
    (p.withLine role l).rouse role = (p.rouse role).withLine role l := by
  have hstage : (p.withLine role l).stage role = p.stage role := by cases role <;> rfl
  rw [rouse, rouse, hstage]
  split
  · exact wake_withLine p role role l
  · rfl

theorem signal_eq (p : Pipeline) (role : Role) (signal : Signal) :
    p.signal role signal = (p.rouse role).withLine role ((p.line role).signal signal) := by
  rw [← rouse_withLine]
  cases role with
  | trigger => exact stopTrigger_eq p signal
  | appender => exact stopAppender_eq p signal

theorem rouse_wake (p : Pipeline) (role : Role) : (p.wake role).rouse role = p.wake role := by
  have hagain : (p.wake role).wake role = p.wake role := by
    rw [wake, if_pos (List.contains_iff_mem.2 (mem_ready_wake p role))]
  rw [rouse, hagain, ite_self]

theorem rouse_rouse (p : Pipeline) (role : Role) : (p.rouse role).rouse role = p.rouse role := by
  by_cases hstage : p.stage role = .running
  · have hrouse : p.rouse role = p.wake role := if_pos hstage
    rw [hrouse, rouse_wake]
  · have hrouse : p.rouse role = p := if_neg hstage
    rw [hrouse, hrouse]

/-- Several signals to one task. -/
def signals (p : Pipeline) (role : Role) (signals : List Signal) : Pipeline :=
  signals.foldl (fun q signal ↦ q.signal role signal) p

/-- Several signals to the trigger. -/
def signalTrigger (p : Pipeline) (signals : List Signal) : Pipeline :=
  signals.foldl (fun q signal ↦ q.stopTrigger signal) p

/-- Several signals to the appender. -/
def signalAppender (p : Pipeline) (signals : List Signal) : Pipeline :=
  signals.foldl (fun q signal ↦ q.stopAppender signal) p

/-- Signals to a task that was woken change nothing but the line. -/
theorem signals_of_roused (h : p.rouse role = p) (signals : List Signal) :
    p.signals role signals = p.withLine role ((p.line role).signals signals) := by
  induction signals generalizing p with
  | nil => exact (withLine_line p role).symm
  | cons signal rest ih =>
    have hsignal : p.signal role signal = p.withLine role ((p.line role).signal signal) := by
      rw [signal_eq, h]
    have hroused : (p.signal role signal).rouse role = p.signal role signal := by
      rw [hsignal, rouse_withLine, h]
    rw [Pipeline.signals, List.foldl_cons]
    refine (ih hroused).trans ?_
    rw [hsignal, line_withLine, withLine_withLine]
    rfl

/-- The first signal wakes the task, the others change nothing but the line. -/
theorem signals_eq {signals : List Signal} (h : signals ≠ []) (p : Pipeline) (role : Role) :
    p.signals role signals = (p.rouse role).withLine role ((p.line role).signals signals) := by
  obtain ⟨first, rest, rfl⟩ := List.exists_cons_of_ne_nil h
  have hroused : (p.signal role first).rouse role = p.signal role first := by
    rw [signal_eq, rouse_withLine, rouse_rouse]
  rw [Pipeline.signals, List.foldl_cons]
  refine (signals_of_roused hroused rest).trans ?_
  rw [signal_eq, line_withLine, withLine_withLine]
  rfl

theorem sounds_line_signals {signals : List Signal} (h : signals ≠ []) (p : Pipeline)
    (role : Role) : ((p.signals role signals).line role).sounds = true := by
  rw [signals_eq h, line_withLine, StopLine.sounds_signals h]

/-- Waking a task puts it behind those that were woken before. -/
theorem rouse_eq (p : Pipeline) (role : Role) :
    ∃ ready, p.ready <+: ready ∧ p.rouse role = { p with ready } := by
  unfold rouse wake
  split
  · split
    · exact ⟨p.ready, List.prefix_refl _, rfl⟩
    · exact ⟨p.ready ++ [role], List.prefix_append _ _, rfl⟩
  · exact ⟨p.ready, List.prefix_refl _, rfl⟩

/-- Signals change the line of the task, and wake it. -/
theorem exists_signals_eq {signals : List Signal} (h : signals ≠ []) (p : Pipeline) (role : Role) :
    ∃ ready, p.ready <+: ready ∧ p.signals role signals =
      { p with ready }.withLine role ((p.line role).signals signals) := by
  obtain ⟨ready, hbefore, hrouse⟩ := rouse_eq p role
  exact ⟨ready, hbefore, by rw [signals_eq h, hrouse]⟩

theorem Alert.signals (h : p.Alert none) (role : Role) (signals : List Signal) :
    (p.signals role signals).Alert none := by
  induction signals generalizing p with
  | nil => exact h
  | cons signal rest ih =>
    cases role with
    | trigger => exact ih (h.stopTrigger signal)
    | appender => exact ih (h.stopAppender signal)

/-- Whatever the signals to a task, the pipeline settles as after one word. -/
theorem settle_signals {signals : List Signal} (h : signals ≠ []) (p : Pipeline) (role : Role) :
    (p.signals role signals).settle =
      (p.signal role .word).settle.withLine role ((p.line role).signals signals) := by
  have hsounds : ((p.line role).signals signals).sounds = ((p.line role).signal .word).sounds := by
    rw [StopLine.sounds_signals h, StopLine.sounds_signal]
  have hsettle : ((p.signal role .word).withLine role ((p.line role).signals signals)).settle =
      (p.signal role .word).settle.withLine role ((p.line role).signals signals) :=
    settle_withLine (by rw [signal_eq, line_withLine, hsounds])
  rw [← hsettle, signals_eq h, signal_eq, withLine_withLine]

/-- What does not look at the line of a task, and leaves nothing for a signal to wake, may as well
come after the signals. -/
theorem signals_comm (role : Role) {f : Pipeline → Pipeline}
    (hf : ∀ l, f (p.withLine role l) = (f p).withLine role l) (hbefore : p.rouse role = p)
    (hafter : (f p).rouse role = f p) (signals : List Signal) :
    f (p.signals role signals) = (f p).signals role signals := by
  have hline : (f p).line role = p.line role := by
    rw [← line_withLine (f p) role (p.line role), ← hf, withLine_line]
  rw [signals_of_roused hbefore, signals_of_roused hafter, hf, hline]

/-- A task that is told to stop before it is handed over is told the same. -/
theorem spawnTrigger_signalTrigger (habsent : p.trigger = .absent) (period : Duration)
    (signals : List Signal) :
    (p.signalTrigger signals).spawnTrigger period =
      (p.spawnTrigger period).signalTrigger signals := by
  have hspawn (l : StopLine) : (p.withLine .trigger l).spawnTrigger period =
      (p.spawnTrigger period).withLine .trigger l :=
    wake_withLine { p with trigger := .spawned period } .trigger .trigger l
  have hbefore : p.rouse .trigger = p := if_neg (by rw [stage, habsent]; nofun)
  exact signals_comm .trigger (f := (·.spawnTrigger period)) hspawn hbefore (rouse_wake _ .trigger)
    signals

theorem spawnAppender_signalAppender (habsent : p.appender = .absent) (signals : List Signal) :
    (p.signalAppender signals).spawnAppender = p.spawnAppender.signalAppender signals := by
  have hspawn (l : StopLine) : (p.withLine .appender l).spawnAppender =
      p.spawnAppender.withLine .appender l :=
    wake_withLine { p with appender := .spawned } .appender .appender l
  have hbefore : p.rouse .appender = p := if_neg (by rw [stage, habsent]; nofun)
  exact signals_comm .appender (f := spawnAppender) hspawn hbefore (rouse_wake _ .appender) signals

end Pipeline

end DeferredLog
