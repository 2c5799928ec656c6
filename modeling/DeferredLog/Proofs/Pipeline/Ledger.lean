import DeferredLog.Proofs.Buffer.Plan
import DeferredLog.Proofs.Pipeline.Course

/-!
# The ledger of a pipeline

Four components count what passes through them, each on its own. `Course.Balanced` is what their
counts have to do with each other and with the events of a course: the cell's ledger with the
outcomes of drains for what was taken, the drains by their outcome, and the log's successes and
refusals by where the entry came from. What an effect does to each of these is a lemma of its own;
together they keep the books (`Balanced.effect`), which therefore hold after any course of a fresh
pipeline, and with them `ledger`.

Only publications need the bound on their number: past half the words an entry could pass for one
that was taken.
-/

namespace DeferredLog.Pipeline

/-- The counts of all components agree. -/
structure Course.Balanced (c : Course) : Prop where
  cell : c.pipeline.cell.Balanced (c.pipeline.drains.committed + c.pipeline.drains.dropped)
  published_eq : c.pipeline.cell.stats.published = publications c.past
  drains_eq : c.pipeline.drains.drains = c.pipeline.drains.emptyDrains +
    c.pipeline.drains.committed + c.pipeline.drains.dropped
  entries_eq : c.pipeline.buffer.counts.entries =
    c.pipeline.drains.committed + c.past.countP (·.isAccepted)
  refusals_eq : c.pipeline.buffer.counts.refusals =
    c.pipeline.drains.dropped + c.past.countP (·.isRefused)

theorem balanced_fresh {initial maxEntry : ℕ} {ceiling : Option ℕ} {b : Buffer}
    (h : Buffer.allocate initial maxEntry ceiling = .ok b) (scratch : ℕ) (producer : Producer)
    (uptime : ℕ → Duration) : (Course.fresh scratch b producer uptime).Balanced := by
  obtain ⟨-, -, rfl⟩ := Buffer.allocate_eq_ok_iff.1 h
  exact ⟨Cell.balanced_empty scratch, rfl, rfl, rfl, rfl⟩

variable {p q : Pipeline} {past : List Event} {e : Event} {n : ℕ}

/-! ### What an effect does to each count -/

/-- What an event adds to a count. -/
theorem countP_cons_eq (f : Event → Bool) (e : Event) (past : List Event) :
    (e :: past).countP f = past.countP f + (f e).toNat := by
  rw [List.countP_cons]
  cases f e <;> rfl

/-- The cell's ledger, where the drains tell what was taken. -/
theorem Effect.accounted (he : Effect p q e)
    (h : p.cell.Accounted (p.drains.committed + p.drains.dropped)) :
    q.cell.Accounted (q.drains.committed + q.drains.dropped) := by
  cases he with
  | published entry tick htick hc hb hd =>
    rw [hd, hc]
    exact h.publish entry
  | quiet htick hc quota hb hd => rwa [hd, hc]
  | missed htick hpeek hc hb hd => rwa [hd, hc]
  | took entry htick hpeek hc hb hd =>
    -- exactly one of the two outcomes is counted, so the cell's ledger goes on by one
    have htaken := h.take
    rw [hpeek, Option.isSome_some, Bool.toNat_true] at htaken
    rw [hd, hc]
    dsimp only
    rwa [Nat.add_add_add_comm, Buffer.outcome_append]
  | appended entry htick hc hb hd => rwa [hd, hc]

theorem Effect.published_eq (he : Effect p q e) :
    q.cell.stats.published = p.cell.stats.published + e.isPublication.toNat := by
  cases he with
  | published entry tick htick hc hb hd =>
    rw [hc]
    rfl
  | quiet htick hc quota hb hd => exact congrArg (·.stats.published) hc
  | missed htick hpeek hc hb hd => exact congrArg (·.stats.published) hc
  | took entry htick hpeek hc hb hd =>
    rw [hc, Cell.stats_take]
    rfl
  | appended entry htick hc hb hd => exact congrArg (·.stats.published) hc

/-- A drain finds nothing, or the log takes the entry, or refuses it. -/
theorem Effect.drains_eq (he : Effect p q e)
    (h : p.drains.drains = p.drains.emptyDrains + p.drains.committed + p.drains.dropped) :
    q.drains.drains = q.drains.emptyDrains + q.drains.committed + q.drains.dropped := by
  cases he with
  | published entry tick htick hc hb hd => rwa [hd]
  | quiet htick hc quota hb hd => rwa [hd]
  | missed htick hpeek hc hb hd =>
    rw [hd]
    dsimp only
    omega
  | took entry htick hpeek hc hb hd =>
    have hone := p.buffer.outcome_append entry
    rw [hd]
    dsimp only
    omega
  | appended entry htick hc hb hd => rwa [hd]

/-- What the log took came from a drain or directly. -/
theorem Effect.entries_eq (he : Effect p q e)
    (h : p.buffer.counts.entries = p.drains.committed + n) :
    q.buffer.counts.entries = q.drains.committed + (n + e.isAccepted.toNat) := by
  cases he with
  | published entry tick htick hc hb hd => rwa [hd, hb]
  | quiet htick hc quota hb hd => rwa [hd, hb]
  | missed htick hpeek hc hb hd => rwa [hd, hb]
  | took entry htick hpeek hc hb hd =>
    rw [hd, hb, Buffer.entries_append, h]
    exact Nat.add_right_comm ..
  | appended entry htick hc hb hd =>
    rw [hd, hb, Buffer.entries_append, h]
    exact Nat.add_assoc ..

/-- And so did what it refused. -/
theorem Effect.refusals_eq (he : Effect p q e)
    (h : p.buffer.counts.refusals = p.drains.dropped + n) :
    q.buffer.counts.refusals = q.drains.dropped + (n + e.isRefused.toNat) := by
  cases he with
  | published entry tick htick hc hb hd => rwa [hd, hb]
  | quiet htick hc quota hb hd => rwa [hd, hb]
  | missed htick hpeek hc hb hd => rwa [hd, hb]
  | took entry htick hpeek hc hb hd =>
    rw [hd, hb, Buffer.refusals_append, h]
    exact Nat.add_right_comm ..
  | appended entry htick hc hb hd =>
    rw [hd, hb, Buffer.refusals_append, h]
    exact Nat.add_assoc ..

/-! ### The books -/

theorem Course.Balanced.effect (h : Course.Balanced ⟨p, past⟩) (he : Effect p q e)
    (hlt : publications (e :: past) < 2 ^ 63) : Course.Balanced ⟨q, e :: past⟩ := by
  have hpublished : q.cell.stats.published = publications (e :: past) := by
    rw [publications, countP_cons_eq, he.published_eq]
    exact congrArg (· + e.isPublication.toNat) h.published_eq
  exact
    { cell := he.accounted (fun _ ↦ h.cell) (hpublished ▸ hlt)
      published_eq := hpublished
      drains_eq := he.drains_eq h.drains_eq
      entries_eq := by
        rw [countP_cons_eq]
        exact he.entries_eq h.entries_eq
      refusals_eq := by
        rw [countP_cons_eq]
        exact he.refusals_eq h.refusals_eq }

/-- The books of a pipeline, after any course of a new one: every publication is superseded,
committed, dropped or waits; every drain is empty, committed or dropped; the log's entries are those
of drains and of direct appends, and so are its refusals. So no more is lost than was ticked. -/
theorem ledger {initial maxEntry : ℕ} {ceiling : Option ℕ} {b : Buffer}
    (h : Buffer.allocate initial maxEntry ceiling = .ok b) (scratch : ℕ) (producer : Producer)
    (uptime : ℕ → Duration) (acts : List Act)
    (hlt : publications ((Course.fresh scratch b producer uptime).run acts).past < 2 ^ 63) :
    let c := (Course.fresh scratch b producer uptime).run acts
    let s := c.pipeline.stats
    s.scratch.published = s.scratch.superseded + s.appender.committed + s.appender.dropped +
      (if c.pipeline.cell.hasPending then 1 else 0) ∧
    s.appender.drains = s.appender.emptyDrains + s.appender.committed + s.appender.dropped ∧
    s.buffer.counts.entries = s.appender.committed + c.past.countP (·.isAccepted) ∧
    s.buffer.counts.rejectedTooLarge + s.buffer.counts.allocationFailures +
      s.buffer.counts.capacityExceeded = s.appender.dropped + c.past.countP (·.isRefused) ∧
    s.lost = s.scratch.superseded + s.appender.dropped ∧ s.lost ≤ s.ticks := by
  intro c s
  have hc : c.Balanced := Course.run_induction (balanced_fresh h scratch producer uptime)
    (fun _ a hc hlt ↦ hc.effect (effect_perform _ a) hlt) acts hlt
  have hpublished : s.scratch.published = s.scratch.superseded + s.appender.committed +
      s.appender.dropped + (if c.pipeline.cell.hasPending then 1 else 0) := by
    have hcell := hc.cell.published_eq
    rw [← Nat.add_assoc] at hcell
    rw [show s.scratch.published = _ from hcell]
    cases c.pipeline.cell.hasPending <;> rfl
  refine ⟨hpublished, hc.drains_eq, hc.entries_eq, hc.refusals_eq, rfl, ?_⟩
  show s.scratch.superseded + s.appender.dropped ≤ s.scratch.published
  omega

/-- Twelve acts that bring every count but one into play: of four publications the first is
superseded, the next two are committed and dropped, and the last still waits. -/
theorem ledger_of_twelve_acts :
    let acts : List Act := [.fire, .fire, .drain, .append ⟨#[1, 2, 3, 4, 5, 6, 7, 8, 9]⟩, .drain,
      .limit (some 8), .publish ⟨#[65, 66]⟩, .drain, .append ⟨#[7]⟩, .write [.number 7, .breakdown],
      .write [.number 7, .fail], .claim]
    ∃ b, Buffer.allocate 5 8 (some 12) = .ok b ∧
      let c := (Course.fresh 4 b .counter).run acts
      let s := c.pipeline.stats
      publications c.past < 2 ^ 63 ∧
      s.scratch.published = 4 ∧ s.scratch.superseded = 1 ∧ s.appender.committed = 1 ∧
      s.appender.dropped = 1 ∧ c.pipeline.cell.hasPending = true ∧ s.lost ≤ s.ticks := by
  intro acts
  obtain ⟨b, hb⟩ : ∃ b, Buffer.allocate 5 8 (some 12) = .ok b := ⟨_, rfl⟩
  obtain ⟨-, -, rfl⟩ := Buffer.allocate_eq_ok_iff.1 hb
  refine ⟨_, hb, ?_⟩
  intro c s
  have hlt : publications c.past < 2 ^ 63 := by decide +kernel
  obtain ⟨-, -, -, -, -, hlost⟩ := ledger hb 4 .counter _ acts hlt
  exact ⟨hlt, by decide +kernel, by decide +kernel, by decide +kernel, by decide +kernel,
    by decide +kernel, hlost⟩

end DeferredLog.Pipeline
