import DeferredLog.Proofs.Buffer.Plan
import DeferredLog.Proofs.Pipeline.Settling

/-!
# Trigger and requests in lockstep

If nobody but the trigger publishes and requests, and nobody but the appender claims and drains,
then every publication comes with a request: an entry waits exactly if a drain is owed, an entry is
superseded exactly if its request is coalesced, and no drain is empty. `Work.Lockstep` says this of
the counts, with the number `k` of publications since the last drain.

Fires and the appender's drains keep it (`Work.Lockstep.fire`, `Work.Lockstep.attend`), a producer
that breaks down included. The numbers of the cell are the one thing that could break it, past half
the words. They cannot: between two drains there is one burst, and a burst is short
(`Timetable.due_le`), for a trigger that is late by more than a few milliseconds forgives what it
has missed.
-/

namespace DeferredLog

/-! ### Bursts are short -/

namespace Timetable

variable {t : Timetable} {now : ℕ}

/-- A timetable that is kept moves on by a nanosecond at least, one that was shifted past the
present. -/
theorem due_le_sub (now : ℕ) (t : Timetable) : t.due now ≤ now + 1 - t.next := by
  fun_induction due now t with
  | case1 t hdue ih =>
    have := next_lt_next_after hdue
    omega
  | case2 t hdue => exact Nat.zero_le _

/-- A tick that is late beyond tolerance is the only one due. -/
theorem due_of_late (h : t.next + tolerance < now) : t.due now = 1 := by
  have hpos := t.period_pos
  have hhorizon : 0 < horizon := by decide
  have hlater : now < (t.after now).next := by
    simp only [after, if_pos h]
    omega
  rw [due_of_le (Nat.le_trans (Nat.le_add_right _ _) (Nat.le_of_lt h)), due_of_lt hlater]

/-- However late the trigger is, it has few ticks to catch up with. -/
theorem due_le (now : ℕ) (t : Timetable) : t.due now ≤ tolerance + 1 := by
  have hle := due_le_sub now t
  rcases Nat.lt_or_ge (t.next + tolerance) now with hlate | hnear
  · rw [due_of_late hlate]
    exact Nat.le_add_left 1 tolerance
  · omega

end Timetable

/-! ### The counts in lockstep -/

namespace Work

/-- Every publication requested its drain, and of the entries in the log `others` came without one.
Since the last drain there were `k` publications. -/
structure Lockstep (w : Work) (others k : ℕ) : Prop where
  behind : w.cell.Behind k
  owed_eq : w.owed = decide (k ≠ 0)
  published_eq : w.cell.stats.published = w.requests.queued + w.requests.coalesced
  superseded_eq : w.cell.stats.superseded = w.requests.coalesced
  emptyDrains_eq : w.drains.emptyDrains = 0
  queued_eq : w.requests.queued = w.drains.drains + w.owed.toNat
  drains_eq : w.drains.drains = w.drains.committed + w.drains.dropped
  entries_eq : w.buffer.counts.entries = w.drains.committed + others

variable {w : Work} {others k n : ℕ}

/-- An entry waits exactly if a drain is owed. -/
theorem Lockstep.hasPending_eq (h : w.Lockstep others k) (hk : k < 2 ^ 63) :
    w.cell.hasPending = w.owed := by
  rw [h.owed_eq, Bool.eq_iff_iff, h.behind.hasPending_iff hk, decide_eq_true_iff]

theorem request_of_owed (h : w.owed = true) :
    w.request = { w with requests.coalesced := w.requests.coalesced + 1 } :=
  if_pos h

theorem request_of_not_owed (h : w.owed = false) :
    w.request = { w with owed := true, requests.queued := w.requests.queued + 1 } :=
  if_neg (Bool.eq_false_iff.1 h)

/-- The request of a publication is coalesced exactly if the publication supersedes an entry. -/
theorem Lockstep.publish (h : w.Lockstep others k) (hk : k < 2 ^ 63) (entry : ByteArray) (tick : ℕ) :
    (request { w with tick, cell := (w.cell.publish entry).2 }).Lockstep others (k + 1) := by
  have hpublished : (w.cell.publish entry).2.stats.published = w.cell.stats.published + 1 := rfl
  have hsuperseded : (w.cell.publish entry).2.stats.superseded =
      w.cell.stats.superseded + if w.cell.hasPending then 1 else 0 := rfl
  have hbefore := h.published_eq
  have hlost := h.superseded_eq
  have hqueued := h.queued_eq
  let v : Work := { w with tick, cell := (w.cell.publish entry).2 }
  rw [h.hasPending_eq hk] at hsuperseded
  -- An entry waits exactly if a drain is owed: both are counted, or neither is.
  rcases Bool.eq_false_or_eq_true w.owed with howed | howed
  · rw [howed, if_pos rfl] at hsuperseded
    show v.request.Lockstep others (k + 1)
    rw [request_of_owed (w := v) howed]
    exact
      { behind := h.behind.publish entry
        owed_eq := howed
        published_eq := by dsimp only [v]; omega
        superseded_eq := by dsimp only [v]; omega
        emptyDrains_eq := h.emptyDrains_eq
        queued_eq := hqueued
        drains_eq := h.drains_eq
        entries_eq := h.entries_eq }
  · rw [howed, if_neg Bool.false_ne_true] at hsuperseded
    rw [howed, Bool.toNat_false] at hqueued
    show v.request.Lockstep others (k + 1)
    rw [request_of_not_owed (w := v) howed]
    exact
      { behind := h.behind.publish entry
        owed_eq := rfl
        published_eq := by dsimp only [v]; omega
        superseded_eq := by dsimp only [v]; omega
        emptyDrains_eq := h.emptyDrains_eq
        queued_eq := by dsimp only [v, Bool.toNat_true]; omega
        drains_eq := h.drains_eq
        entries_eq := h.entries_eq }

/-- A fire publishes one entry, or none if the producer breaks down. -/
theorem Lockstep.fire (h : w.Lockstep others k) (hk : k < 2 ^ 63) :
    ∃ l ≤ k + 1, w.fire.Lockstep others l := by
  cases hentry : Part.entry? (w.producer (w.tick + 1) (w.uptime (w.tick + 1))) with
  | none =>
    rw [fire_of_entry?_eq_none hentry]
    exact ⟨k, Nat.le_succ k, h.behind, h.owed_eq, h.published_eq, h.superseded_eq, h.emptyDrains_eq,
      h.queued_eq, h.drains_eq, h.entries_eq⟩
  | some entry =>
    rw [fire_of_entry?_eq_some hentry]
    exact ⟨k + 1, Nat.le_refl _, h.publish hk entry (w.tick + 1)⟩

theorem Lockstep.fires (h : w.Lockstep others k) (hk : k + n < 2 ^ 63) :
    ∃ l ≤ k + n, (Work.fire^[n] w).Lockstep others l := by
  induction n generalizing w k with
  | zero => exact ⟨k, Nat.le_refl k, h⟩
  | succ n ih =>
    obtain ⟨l, hl, hfire⟩ := h.fire (by omega)
    obtain ⟨m, hm, hfires⟩ := ih hfire (by omega)
    exact ⟨m, by omega, hfires⟩

/-- The drain that is owed finds its entry. -/
theorem Lockstep.drain (h : w.Lockstep others k) (hk : k < 2 ^ 63) (howed : w.owed = true) :
    w.drain.Lockstep others 0 := by
  have hwaits : w.cell.peek.isSome = true := by
    rw [Cell.isSome_peek, h.hasPending_eq hk, howed]
  obtain ⟨entry, hpeek⟩ := Option.isSome_iff_exists.1 hwaits
  have hqueued := h.queued_eq
  have hdrains := h.drains_eq
  have hentries := h.entries_eq
  have happended := Buffer.entries_append w.buffer entry
  have hone := w.buffer.outcome_append entry
  rw [howed, Bool.toNat_true] at hqueued
  rw [drain_of_peek_eq_some hpeek]
  exact
    { behind := w.cell.behind_take
      owed_eq := rfl
      published_eq := by rw [Cell.stats_take]; exact h.published_eq
      superseded_eq := by rw [Cell.stats_take]; exact h.superseded_eq
      emptyDrains_eq := h.emptyDrains_eq
      queued_eq := hqueued
      drains_eq := by dsimp only; omega
      entries_eq := by dsimp only; omega }

/-- The appender drains only what is owed: when nothing is, nothing waits either. -/
theorem Lockstep.attend (h : w.Lockstep others k) (hk : k < 2 ^ 63) (stage : Stage)
    (stopped : Bool) : ∃ l ≤ k, (w.attend stage stopped).Lockstep others l := by
  unfold Work.attend
  rw [h.hasPending_eq hk]
  split
  · next hdrain =>
    have howed : w.owed = true := by
      obtain ⟨-, hsome⟩ := hdrain
      rcases Bool.or_eq_true_iff.1 hsome with howed | hlast
      · exact howed
      · exact (Bool.and_eq_true_iff.1 hlast).2
    exact ⟨0, Nat.zero_le k, h.drain hk howed⟩
  · exact ⟨k, Nat.le_refl k, h⟩

/-- What leaves cell, requests and drains alone leaves the books as they are, and what it brings to
the log comes without a drain. -/
theorem Lockstep.of_log {v : Work} (h : w.Lockstep others k) (hcell : v.cell = w.cell)
    (howed : v.owed = w.owed) (hrequests : v.requests = w.requests) (hdrains : v.drains = w.drains)
    (hentries : v.buffer.counts.entries = w.buffer.counts.entries + n) :
    v.Lockstep (others + n) k where
  behind := hcell ▸ h.behind
  owed_eq := howed ▸ h.owed_eq
  published_eq := hcell ▸ hrequests ▸ h.published_eq
  superseded_eq := hcell ▸ hrequests ▸ h.superseded_eq
  emptyDrains_eq := hdrains ▸ h.emptyDrains_eq
  queued_eq := hrequests ▸ hdrains ▸ howed ▸ h.queued_eq
  drains_eq := hdrains ▸ h.drains_eq
  entries_eq := by rw [hentries, hdrains, h.entries_eq, Nat.add_assoc]

/-- When no drain is owed, there was no publication since the last. -/
theorem Lockstep.of_owed_eq_false (h : w.Lockstep others k) (howed : w.owed = false) :
    w.Lockstep others 0 := by
  obtain rfl : k = 0 := by
    have hk := h.owed_eq
    rw [howed] at hk
    simpa using hk.symm
  exact h

/-- The books when nothing is owed: every publication was queued or coalesced, the coalesced ones
superseded an entry, and the queued ones were drained. -/
theorem Lockstep.balance (h : w.Lockstep others 0) :
    w.owed = false ∧ w.requests.queued = w.drains.drains ∧
      w.cell.stats.published =
        w.drains.committed + (w.cell.stats.superseded + w.drains.dropped) := by
  have howed : w.owed = false := h.owed_eq
  have hqueued := h.queued_eq
  have hpublished := h.published_eq
  have hsuperseded := h.superseded_eq
  have hdrains := h.drains_eq
  rw [howed, Bool.toNat_false, Nat.add_zero] at hqueued
  exact ⟨howed, hqueued, by omega⟩

end Work

/-! ### Turns -/

namespace Pipeline

variable {p : Pipeline} {others k : ℕ}

theorem ticksDue_le (p : Pipeline) : p.ticksDue ≤ Timetable.tolerance + 1 := by
  unfold ticksDue
  split
  · split
    · exact Nat.zero_le _
    · exact Timetable.due_le _ _
  · exact Nat.zero_le _

/-- A pipeline whose appender runs until it is told to stop, with its counts in lockstep. -/
structure InStep (p : Pipeline) (others k : ℕ) : Prop where
  alert : p.Alert none
  lockstep : p.work.Lockstep others k
  appender_eq : p.appender.stage = .running
  silent : p.appenderLine.sounds = false
  trigger_ne : p.trigger.stage ≠ .absent

/-- A turn adds one burst at most. -/
theorem InStep.turn (h : p.InStep others k) (hk : k + (Timetable.tolerance + 1) < 2 ^ 63) :
    ∃ l ≤ k + (Timetable.tolerance + 1), p.turn.InStep others l := by
  have halert := h.alert.turn
  have hsilent : p.turn.appenderLine.sounds = false := (lines_turn p).2 ▸ h.silent
  rcases hready : p.ready with _ | ⟨_ | _, rest⟩
  · rw [turn_of_ready_eq_nil hready]
    exact ⟨k, Nat.le_add_right _ _, h⟩
  · rw [turn_of_ready_eq_trigger hready] at halert hsilent ⊢
    let q : Pipeline := { p with ready := rest }
    obtain ⟨n, heq, -, hpresent, hle, -⟩ := ticked_pollTrigger q
    have hbeside := besideTrigger_fires n q
    simp only [besideTrigger, Prod.mk.injEq] at hbeside
    have hburst : n ≤ Timetable.tolerance + 1 := Nat.le_trans hle q.ticksDue_le
    obtain ⟨l, hl, hfires⟩ := h.lockstep.fires (n := n) (by omega)
    have hwork : q.pollTrigger.work = Work.fire^[n] p.work := by
      rw [heq]
      exact work_fires n q
    refine ⟨l, by omega, halert, hwork ▸ hfires, ?_, hsilent, hpresent h.trigger_ne⟩
    rw [heq]
    exact (congrArg AppenderTask.stage hbeside.1).trans h.appender_eq
  · rw [turn_of_ready_eq_appender hready] at halert hsilent ⊢
    let q : Pipeline := { p with ready := rest }
    obtain ⟨hwork, hbeside, hstage, -⟩ := attended_pollAppender (p := q) h.alert.waits
    simp only [besideAppender, Prod.mk.injEq] at hbeside
    obtain ⟨l, hl, hattend⟩ := h.lockstep.attend (by omega) q.appender.stage q.appenderLine.sounds
    have htrigger : q.pollAppender.trigger = p.trigger := hbeside.1
    refine ⟨l, by omega, halert, hwork ▸ hattend, ?_, hsilent, htrigger.symm ▸ h.trigger_ne⟩
    rw [hstage, show q.appender.stage = .running from h.appender_eq,
      show q.appenderLine.sounds = false from h.silent]
    rfl

/-- A settled pipeline has caught up: whatever fired was drained. -/
theorem InStep.settle (h : p.InStep others 0) : p.settle.InStep others 0 := by
  have hfew : 3 * (Timetable.tolerance + 1) < 2 ^ 63 := by decide
  -- Three turns settle, and a burst in each of them is too few to bring the numbers round.
  obtain ⟨k, hk, h₁⟩ := h.turn (by omega)
  obtain ⟨l, hl, h₂⟩ := h₁.turn (by omega)
  obtain ⟨m, hm, h₃⟩ := h₂.turn (by omega)
  have hrests : p.settle.AppenderRests := h₃.alert.rests (ready_settle h.alert) .appender
  have howed : p.settle.work.owed = false := hrests.owed_eq h₃.appender_eq
  exact ⟨h₃.alert, h₃.lockstep.of_owed_eq_false howed, h₃.appender_eq, h₃.silent, h₃.trigger_ne⟩

theorem InStep.advance (h : p.InStep others 0) (ms : ℕ) : (p.advance ms).InStep others 0 := by
  have halert := h.alert.advance ms
  obtain ⟨ready, hadvance⟩ := advance_eq p ms
  rw [hadvance] at halert ⊢
  exact ⟨halert, h.lockstep.of_log (n := 0) rfl rfl rfl rfl rfl, h.appender_eq, h.silent, h.trigger_ne⟩

theorem InStep.sleep (h : p.InStep others 0) (ms : ℕ) : (p.sleep ms).InStep others 0 :=
  elapse_induction (P := (InStep · others 0)) (fun _ ms hq ↦ hq.advance ms) (fun _ hq ↦ hq.settle) ms
    h.settle

theorem InStep.jump (h : p.InStep others 0) (ms : ℕ) : (p.jump ms).InStep others 0 :=
  (h.settle.advance ms).settle

end Pipeline

end DeferredLog
