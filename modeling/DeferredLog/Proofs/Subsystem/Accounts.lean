import DeferredLog.Proofs.Cursor.Reading
import DeferredLog.Proofs.Pipeline.Teardown
import DeferredLog.Proofs.Subsystem.Opened

/-!
# The accounts of a log in use

A session is a log that was started together with the cursors of its readers. Its caller lets time
go by, appends directly, limits the memory and reads, in any order. None of that publishes or
requests anything, so trigger and requests stay in lockstep (`Session.run_keeps`), and between two
calls the appender has nothing left to do: the counts of all five components are tied to each other
(`Session.accounts`).

Stopping then finds nothing to drain. It ends both tasks and changes no count, and the log that the
readers keep is the log as it was.
-/

namespace DeferredLog

/-! ### Sessions -/

/-- What the caller of a log can do. -/
inductive Call where
  | settle
  | sleep (ms : ℕ)
  | jump (ms : ℕ)
  | append (entry : ByteArray)
  /-- The memory for growth is limited, or the limit is lifted. -/
  | limit (quota : Option ℕ)
  /-- A new cursor at the start. -/
  | cursor
  /-- A copy of the cursor of this number. -/
  | copy (index : ℕ)
  | reading (index : ℕ) (reading : Reading)
  deriving DecidableEq

/-- A log in use. -/
structure Session where
  system : Subsystem
  cursors : List Cursor := []
  /-- How many entries the log took from its caller directly. -/
  taken : ℕ := 0

namespace Session

def call (v : Session) : Call → Session
  | .settle => { v with system := v.system.settle }
  | .sleep ms => { v with system := v.system.sleep ms }
  | .jump ms => { v with system := v.system.jump ms }
  | .append entry =>
    let r := v.system.append entry
    { v with system := r.2, taken := v.taken + r.1.toBool.toNat }
  | .limit quota =>
    { v with system := v.system.step fun p ↦ { p with buffer := p.buffer.withQuota quota } }
  | .cursor => { v with cursors := v.cursors ++ [{}] }
  | .copy index => { v with cursors := v.cursors ++ v.cursors[index]?.toList }
  | .reading index reading =>
    { v with cursors := v.cursors.modify index (·.follow v.system.pipeline.buffer reading) }

def run (v : Session) (calls : List Call) : Session :=
  calls.foldl call v

end Session

namespace Pipeline

variable {p q : Pipeline} {others : ℕ}

/-! ### Calls that touch the log only -/

/-- Any entry that the log takes from its caller is one that came without a drain. -/
theorem InStep.append (h : p.InStep others 0) (entry : ByteArray) :
    (p.append entry).2.InStep (others + (p.append entry).1.toBool.toNat) 0 := by
  have halert : (p.append entry).2.Alert none := h.alert.perform (.append entry)
  obtain ⟨journal, happend⟩ := append_eq p entry
  rw [happend] at halert ⊢
  exact ⟨halert, h.lockstep.of_log rfl rfl rfl rfl (Buffer.entries_append p.buffer entry),
    h.appender_eq, h.silent, h.trigger_ne⟩

theorem InStep.limit (h : p.InStep others 0) (quota : Option ℕ) :
    ({ p with buffer := p.buffer.withQuota quota } : Pipeline).InStep others 0 :=
  ⟨h.alert.perform (.limit quota), h.lockstep.of_log (n := 0) rfl rfl rfl rfl rfl, h.appender_eq,
    h.silent, h.trigger_ne⟩

/-! ### What the log keeps -/

theorem Effect.sound {e : Event} (he : Effect p q e) (h : p.buffer.Sound) : q.buffer.Sound := by
  cases he with
  | published entry tick htick hc hb hd => exact hb ▸ h
  | quiet htick hc quota hb hd => exact hb ▸ h.withQuota quota
  | missed htick hpeek hc hb hd => exact hb ▸ h
  | took entry htick hpeek hc hb hd => exact hb ▸ h.append entry
  | appended entry htick hc hb hd => exact hb ▸ h.append entry

theorem sound_perform (p : Pipeline) (a : Act) (h : p.work.buffer.Sound) :
    (p.perform a).2.work.buffer.Sound :=
  (effect_perform p a).sound h

/-! ### Stopping -/

/-- The counts are part of the work. -/
theorem stats_eq_of_work_eq (h : q.work = p.work) : q.stats = p.stats :=
  congrArg (fun w : Work ↦ (⟨w.cell.stats, w.requests, w.drains, w.buffer.stats⟩ : Stats)) h

/-- Nothing is left to do for an appender in step, told to stop or not. -/
theorem InStep.attend_eq (h : p.InStep others 0) (stage : Stage) (stopped : Bool) :
    p.work.attend stage stopped = p.work := by
  refine if_neg fun hdrain ↦ ?_
  have howed : p.work.owed = false := h.lockstep.owed_eq
  rw [h.lockstep.hasPending_eq (by decide), howed, Bool.and_false, Bool.or_false] at hdrain
  exact Bool.false_ne_true hdrain.2

theorem alert_reportTrigger (h : p.Alert none) : (Subsystem.reportTrigger p).Alert none := by
  unfold Subsystem.reportTrigger
  split
  · exact ⟨h.nodup, h.waits, h.ready_or_rests⟩
  · exact h

/-- A report is told and changes nothing else. -/
theorem reportTrigger_eq (p : Pipeline) :
    ∃ journal, Subsystem.reportTrigger p = { p with journal } := by
  unfold Subsystem.reportTrigger
  split
  · exact ⟨_, rfl⟩
  · exact ⟨p.journal, rfl⟩

theorem Halted.reportTrigger {stopped : Bool} (h : Halted p q stopped) :
    Halted p (Subsystem.reportTrigger q) stopped := by
  have halert := alert_reportTrigger h.alert
  obtain ⟨journal, hreport⟩ := reportTrigger_eq q
  rw [hreport] at halert ⊢
  exact ⟨halert, h.silenced, h.work_eq, h.trigger_eq, h.appender_eq⟩

end Pipeline

namespace Subsystem

variable {s : Subsystem} {others : ℕ}

/-- Stopping ends both tasks and leaves the work as it is. -/
theorem stop_of_inStep (h : s.pipeline.InStep others 0) :
    s.stop.1 = s.stats ∧ s.stop.2.pipeline.work = s.pipeline.work ∧
      s.stop.2.pipeline.trigger.stage = .finished ∧
      s.stop.2.pipeline.appender.stage = .finished := by
  let r := reportTrigger s.pipeline.stopTrigger.settle
  let f := r.stopAppender.settle
  have hr : Pipeline.Halted s.pipeline r s.pipeline.appenderLine.sounds :=
    (Pipeline.halted_stopTrigger h.alert .word).reportTrigger
  have hf : Pipeline.Halted r f true := Pipeline.halted_stopAppender hr.alert hr.silenced .word
  -- Neither half of the stop finds a drain that is owed, so the work stays as it is.
  have hsame : r.work = s.pipeline.work := hr.work_eq.trans (h.attend_eq _ _)
  have hwork : f.work = s.pipeline.work := by
    rw [hf.work_eq, hsame]
    exact h.attend_eq _ _
  have hended : r.trigger.stage = .finished := by
    rw [hr.trigger_eq]
    cases hstage : s.pipeline.trigger.stage with
    | absent => exact absurd hstage h.trigger_ne
    | running => rfl
    | finished => rfl
  refine ⟨Pipeline.stats_eq_of_work_eq hwork, hwork, ?_, ?_⟩
  · show f.trigger.stage = .finished
    rw [hf.trigger_eq, hended]
    rfl
  · show f.appender.stage = .finished
    rw [hf.appender_eq, hr.appender_eq, h.appender_eq, h.silent]
    rfl

end Subsystem

/-! ### What a session keeps -/

/-- What a call does to the pipeline, if it does anything. -/
def Call.move? : Call → Option Pipeline.Move
  | .settle => some .settle
  | .sleep ms => some (.sleep ms)
  | .jump ms => some (.jump ms)
  | .append entry => some (.act (.append entry))
  | .limit quota => some (.act (.limit quota))
  | .cursor | .copy _ | .reading _ _ => none

namespace Session

variable {v : Session} {greeted : ℕ}

/-- What the calls of a session do to the pipeline. -/
theorem pipeline_run (v : Session) (calls : List Call) :
    (v.run calls).system.pipeline = v.system.pipeline.operate (calls.filterMap Call.move?) := by
  induction calls generalizing v with
  | nil => rfl
  | cons a rest ih =>
    have hrest := ih (v.call a)
    cases a with
    | settle => exact hrest
    | sleep ms => exact hrest
    | jump ms => exact hrest
    | append entry => exact hrest
    | limit quota => exact hrest
    | cursor => exact hrest
    | copy index => exact hrest
    | reading index reading => exact hrest

/-- The log of a session publishes what it holds, whatever was called. -/
theorem sound_run (halert : v.system.pipeline.Alert none) (h : v.system.pipeline.buffer.Sound)
    (calls : List Call) : (v.run calls).system.pipeline.buffer.Sound := by
  have hkept := Pipeline.kept_of_work (Q := fun w ↦ w.buffer.Sound) Pipeline.sound_perform
  rw [pipeline_run]
  exact (hkept.operate _ ⟨halert, h⟩).2

/-- A call tells apart only whether the log took an entry. -/
theorem call_keeps (h : v.system.pipeline.InStep (greeted + v.taken) 0) (a : Call) :
    (v.call a).system.pipeline.InStep (greeted + (v.call a).taken) 0 := by
  cases a with
  | settle => exact h.settle
  | sleep ms => exact h.sleep ms
  | jump ms => exact h.jump ms
  | append entry =>
    have happend := h.append entry
    rwa [Nat.add_assoc] at happend
  | limit quota => exact h.limit quota
  | cursor => exact h
  | copy index => exact h
  | reading index reading => exact h

theorem run_keeps (h : v.system.pipeline.InStep (greeted + v.taken) 0) (calls : List Call) :
    (v.run calls).system.pipeline.InStep (greeted + (v.run calls).taken) 0 := by
  induction calls generalizing v with
  | nil => exact h
  | cons a rest ih => exact ih (call_keeps h a)

/-- A cursor that reads on gets all that lies ahead of it. -/
theorem readRemaining_eq (c : Cursor) {b : Buffer} (h : b.Sound) :
    (c.readRemaining b).1 = b.contents.extract c.position b.contents.size := by
  rw [Cursor.readRemaining_eq_read h, Cursor.read_eq]
  dsimp only
  rcases Nat.le_total c.position b.contents.size with hle | hle
  · rw [Nat.add_sub_cancel' hle]
  · rw [Nat.sub_eq_zero_of_le hle, Nat.add_zero, ByteArray.extract_eq_empty_iff.2 (by omega),
      ByteArray.extract_eq_empty_iff.2 (by omega)]

/-- The accounts of a log in use, after any calls: each tick was queued or coalesced, a coalesced
one superseded an entry, and the queued ones were drained, none of them in vain; what was neither
committed nor lost is nowhere; and the entries of the log are the greeting, those of drains and
those of the caller. Stopping returns these counts. It fires nothing, ends both tasks and leaves the
log to its readers, who read on to its end or once more from its start. -/
theorem accounts {c : Config} {producer : Producer} {uptime : ℕ → Duration} {s : Subsystem}
    (hstart : Subsystem.start c producer uptime = .ok s) (calls : List Call) :
    let v := ({ system := s } : Session).run calls
    let q := v.system.stats
    let final := v.system.stop.2.pipeline
    (q.ticks = q.pending.queued + q.pending.coalesced ∧
      q.superseded = q.pending.coalesced ∧
      q.appender.emptyDrains = 0 ∧
      q.appender.drains = q.pending.queued ∧
      q.pending.queued = q.appender.committed + q.appender.dropped ∧
      q.ticks = q.appender.committed + q.lost ∧
      q.buffer.counts.entries =
        (if c.banner.isSome then 1 else 0) + q.appender.committed + v.taken) ∧
    v.system.stop.1 = q ∧ v.system.stop.2.stats = q ∧
    final.tick = v.system.pipeline.tick ∧
    final.trigger.stage = .finished ∧ final.appender.stage = .finished ∧
    final.buffer.contents = v.system.pipeline.buffer.contents ∧
    ∀ cursor ∈ v.cursors,
      (cursor.readRemaining final.buffer).1 =
        final.buffer.contents.extract cursor.position final.buffer.contents.size ∧
      ((cursor.seek final.buffer 0 .start).2.readRemaining final.buffer).1 =
        final.buffer.contents := by
  intro v q final
  obtain ⟨b, hgreet, rfl⟩ := Subsystem.start_eq_ok_iff.1 hstart
  obtain ⟨-, b₀, hnew, hgreeting, hgreeted⟩ := Subsystem.greet_eq_ok hgreet
  have hopened := Subsystem.inStep_opened c b producer uptime
  let begun : Session := { system := ⟨c, Subsystem.opened c b producer uptime⟩ }
  have hv : v.system.pipeline.InStep (b.counts.entries + v.taken) 0 :=
    run_keeps (v := begun) hopened calls
  have hsound : v.system.pipeline.buffer.Sound := by
    have hb : b.Sound := hgreeting ▸ (Buffer.sound_of_allocate hnew).run _
    exact sound_run (v := begun) hopened.alert hb calls
  obtain ⟨-, hqueued, hpublished⟩ := hv.lockstep.balance
  have hentries : q.buffer.counts.entries = q.appender.committed + (b.counts.entries + v.taken) :=
    hv.lockstep.entries_eq
  have hdrains : q.appender.drains = q.appender.committed + q.appender.dropped :=
    hv.lockstep.drains_eq
  have hdrained : q.pending.queued = q.appender.drains := hqueued
  obtain ⟨hstats, hwork, htrigger, happender⟩ := Subsystem.stop_of_inStep hv
  have hfinal : final.buffer.Sound := by
    have hsame : final.buffer = v.system.pipeline.buffer := congrArg Work.buffer hwork
    rwa [hsame]
  refine ⟨⟨hv.lockstep.published_eq, hv.lockstep.superseded_eq, hv.lockstep.emptyDrains_eq,
    hdrained.symm, hdrained.trans hdrains, hpublished, ?_⟩, hstats,
    Pipeline.stats_eq_of_work_eq hwork, congrArg Work.tick hwork, htrigger, happender,
    congrArg (fun w : Work ↦ w.buffer.contents) hwork,
    fun cursor _ ↦ ⟨readRemaining_eq cursor hfinal, ?_⟩⟩
  · rw [hentries, hgreeted]
    omega
  · have hrewound : (cursor.seek final.buffer 0 .start).2 = ⟨0⟩ := rfl
    rw [hrewound, readRemaining_eq _ hfinal]
    exact ByteArray.extract_zero_size

/-- A log with a greeting whose caller appends once, and jumps over two ticks: the second of three
entries is superseded, the third is refused, and the fourth tick breaks the producer down. -/
theorem accounts_of_breakdown :
    let c : Config := { Config.testing with
      maxEntry := 8, ceiling := some 16, period := .ofMillis 2, banner := some "hi\n" }
    let producer := Producer.script
      [[.text "ab\n"], [.text "c", .fail, .text "d"], [.text "0123456789"], [.breakdown]]
    let calls : List Call := [.cursor, .sleep 2, .append "e".toUTF8, .limit (some 0), .jump 4,
      .reading 0 (.read 4), .copy 0, .settle, .sleep 3]
    ∃ s, Subsystem.start c producer = .ok s ∧
      let v := ({ system := s } : Session).run calls
      let q := v.system.stats
      let final := v.system.stop.2.pipeline
      q.ticks = 3 ∧ q.pending = ⟨2, 1⟩ ∧ q.superseded = 1 ∧ q.appender = ⟨2, 0, 1, 1⟩ ∧
        3 = q.appender.committed + q.lost ∧
        q.buffer.counts.entries = 1 + q.appender.committed + v.taken ∧ v.taken = 1 ∧
        v.system.pipeline.trigger = .finished true ∧
        v.system.stop.1 = q ∧ final.trigger.stage = .finished ∧
        final.appender.stage = .finished ∧
        v.cursors = [⟨4⟩, ⟨4⟩] ∧
        ∀ cursor ∈ v.cursors, (cursor.readRemaining final.buffer).1 = "b\ne".toUTF8 ∧
          ((cursor.seek final.buffer 0 .start).2.readRemaining final.buffer).1 =
            "hi\nab\ne".toUTF8 := by
  intro c producer calls
  let b : Buffer :=
    { contents := "hi\n".toUTF8, committed := 3, capacity := 16, maxEntry := 8, ceiling := some 16,
      counts := { entries := 1, bytes := 3 } }
  have hgreet : Subsystem.greet c = .ok b := by decide +kernel
  let s : Subsystem := ⟨c, Subsystem.opened c b producer fun _ ↦ .ofMillis 0⟩
  have hstart : Subsystem.start c producer = .ok s :=
    Subsystem.start_eq_ok_iff.2 ⟨b, hgreet, rfl⟩
  refine ⟨s, hstart, ?_⟩
  intro v q final
  have hticks : q.ticks = 3 := by decide +kernel
  have hpending : q.pending = ⟨2, 1⟩ := by decide +kernel
  have hdrains : q.appender = ⟨2, 0, 1, 1⟩ := by decide +kernel
  have htaken : v.taken = 1 := by decide +kernel
  have hbroken : v.system.pipeline.trigger = .finished true := by decide +kernel
  have hcontents : v.system.pipeline.buffer.contents = "hi\nab\ne".toUTF8 := by decide +kernel
  have hcursors : v.cursors = [⟨4⟩, ⟨4⟩] := by decide +kernel
  have hrest : ("hi\nab\ne".toUTF8).extract 4 ("hi\nab\ne".toUTF8).size = "b\ne".toUTF8 := by
    decide +kernel
  obtain ⟨⟨-, hsuperseded, -, -, -, hpublished, hentries⟩, hstop, -, -, htrigger, happender, hlog,
    hread⟩ := accounts hstart calls
  refine ⟨hticks, hpending, ?_, hdrains, hticks.symm.trans hpublished, hentries, htaken, hbroken,
    hstop, htrigger, happender, hcursors, fun cursor hcursor ↦ ?_⟩
  · rw [show q.superseded = q.pending.coalesced from hsuperseded, hpending]
  · obtain ⟨hon, hwhole⟩ := hread cursor hcursor
    have hposition : cursor.position = 4 := by
      rw [hcursors] at hcursor
      rcases List.mem_pair.1 hcursor with rfl | rfl <;> rfl
    have hfinal : final.buffer.contents = "hi\nab\ne".toUTF8 := hlog.trans hcontents
    refine ⟨?_, hwhole.trans hfinal⟩
    rw [show (cursor.readRemaining final.buffer).1 = _ from hon, hfinal, hposition, hrest]

end Session

end DeferredLog
