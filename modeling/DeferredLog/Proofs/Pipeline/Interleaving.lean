import DeferredLog.Proofs.Pending.Line
import DeferredLog.Proofs.Pipeline.Effects
import Mathlib.Data.List.Infix

/-!
# Fires and drains step by step

The trigger's side and the appender's side are two contexts. A fire is two steps, a publication and
then a request; a drain is three, a claim, a take and an append. Each step is done at once, but
between two steps of one side the other side may do any number of its own. `Contexts` is a pipeline
together with the place where each side stands, and a run is a list of turns, so every interleaving
is one. Undisturbed turns are a fire or a drain (`step_fire`, `step_drain`).

No entry is stranded because of the order of the steps. An entry that waits was published after the
last take. If its request has come, a drain is owed unless it was claimed since; a claim since is
one whose take is still to come, or its take would have had the entry. `Contexts.Sound.stranded`
says this of every state, and each step keeps it, with the mailbox and the ledger of the cell.
-/

namespace DeferredLog.Pipeline

/-! ### Two contexts -/

/-- Where the trigger's side stands. -/
inductive TriggerPlace where
  | between
  /-- An entry was published whose request is still to come. -/
  | published
  deriving DecidableEq

/-- Where the appender's side stands. -/
inductive AppenderPlace where
  | between
  /-- A drain was claimed, and its take is still to come. -/
  | claimed
  /-- An entry was taken that is still to be appended. -/
  | taken (entry : ByteArray)
  deriving DecidableEq

/-- A pipeline between the steps of its two sides. -/
structure Contexts where
  pipeline : Pipeline
  trigger : TriggerPlace := .between
  appender : AppenderPlace := .between
  /-- The entries published so far, whole, latest first. -/
  published : List ByteArray := []
  /-- The entries taken so far, latest first. -/
  taken : List ByteArray := []

/-- Whose turn it is: one of the sides, or something besides them. -/
inductive Turn where
  | trigger
  | appender
  /-- Time goes by. -/
  | pass (ms : ℕ)
  /-- The memory for growth is limited, or the limit is lifted. -/
  | limit (quota : Option ℕ)
  /-- Someone else appends an entry to the log. -/
  | append (entry : ByteArray)
  deriving DecidableEq

namespace Contexts

/-- A new pipeline, both sides between their operations. -/
def fresh (scratchCapacity : ℕ) (buffer : Buffer) (producer : Producer)
    (uptime : ℕ → Duration := fun _ ↦ .ofMillis 0) : Contexts :=
  { pipeline := make scratchCapacity buffer producer uptime }

/-- The next step of the trigger's side. A producer that breaks down leaves nothing to request. -/
def stepTrigger (s : Contexts) : Contexts :=
  match s.trigger with
  | .between =>
    let parts := s.pipeline.nextParts
    match { s.pipeline with tick := s.pipeline.tick + 1 }.write parts with
    | (none, p) => { s with pipeline := p }
    | (some _, p) =>
      { s with
        pipeline := p
        trigger := .published
        published := (Part.entry? parts).toList ++ s.published }
  | .published => { s with pipeline := s.pipeline.schedule.2, trigger := .between }

/-- The next step of the appender's side. A take that finds nothing leaves nothing to append. -/
def stepAppender (s : Contexts) : Contexts :=
  match s.appender with
  | .between => { s with pipeline := s.pipeline.claim.2, appender := .claimed }
  | .claimed =>
    let p := { s.pipeline with drains.drains := s.pipeline.drains.drains + 1 }
    match p.cell.take with
    | (none, _) =>
      { s with
        pipeline := { p with drains.emptyDrains := p.drains.emptyDrains + 1 }.note .drainEmpty
        appender := .between }
    | (some entry, cell) =>
      { s with pipeline := { p with cell }, appender := .taken entry, taken := entry :: s.taken }
  | .taken entry => { s with pipeline := (s.pipeline.commit entry).2, appender := .between }

def step (s : Contexts) : Turn → Contexts
  | .trigger => s.stepTrigger
  | .appender => s.stepAppender
  | .pass ms => { s with pipeline := s.pipeline.advance ms }
  | .limit quota => { s with pipeline.buffer := s.pipeline.buffer.withQuota quota }
  | .append entry => { s with pipeline := (s.pipeline.append entry).2 }

def run (s : Contexts) (turns : List Turn) : Contexts :=
  turns.foldl step s

variable {s : Contexts} {entry : ByteArray} {room : ℕ}

/-! ### What each step does -/

theorem stepTrigger_of_entry?_eq_none (hs : s.trigger = .between)
    (h : Part.entry? s.pipeline.nextParts = none) :
    s.stepTrigger = { s with pipeline.tick := s.pipeline.tick + 1 } := by
  rw [stepTrigger, hs]
  dsimp only
  rw [write_of_entry?_eq_none h]

theorem stepTrigger_of_entry?_eq_some (hs : s.trigger = .between)
    (h : Part.entry? s.pipeline.nextParts = some entry) :
    s.stepTrigger =
      { s with
        pipeline.tick := s.pipeline.tick + 1
        pipeline.cell := (s.pipeline.cell.publish entry).2
        trigger := .published
        published := entry :: s.published } := by
  rw [stepTrigger, hs]
  dsimp only
  rw [write_of_entry?_eq_some h, h]
  rfl

theorem stepTrigger_of_published (hs : s.trigger = .published) :
    s.stepTrigger = { s with pipeline := s.pipeline.schedule.2, trigger := .between } := by
  rw [stepTrigger, hs]

theorem stepAppender_of_between (hs : s.appender = .between) :
    s.stepAppender = { s with pipeline := s.pipeline.claim.2, appender := .claimed } := by
  rw [stepAppender, hs]

theorem stepAppender_of_peek_eq_none (hs : s.appender = .claimed)
    (h : s.pipeline.cell.peek = none) :
    s.stepAppender =
      { s with
        pipeline := { s.pipeline with
          drains.drains := s.pipeline.drains.drains + 1
          drains.emptyDrains := s.pipeline.drains.emptyDrains + 1 }.note .drainEmpty
        appender := .between } := by
  rw [stepAppender, hs]
  dsimp only
  rw [Cell.take_eq, h]

theorem stepAppender_of_peek_eq_some (hs : s.appender = .claimed)
    (h : s.pipeline.cell.peek = some entry) :
    s.stepAppender =
      { s with
        pipeline.drains.drains := s.pipeline.drains.drains + 1
        pipeline.cell := s.pipeline.cell.take.2
        appender := .taken entry
        taken := entry :: s.taken } := by
  rw [stepAppender, hs]
  dsimp only
  rw [Cell.take_eq, h]

theorem stepAppender_of_taken (hs : s.appender = .taken entry) :
    s.stepAppender =
      { s with pipeline := (s.pipeline.commit entry).2, appender := .between } := by
  rw [stepAppender, hs]

/-! ### Undisturbed turns -/

/-- Two turns of the trigger's side are a fire. -/
theorem step_fire (hs : s.trigger = .between)
    (h : Part.entry? s.pipeline.nextParts = some entry) :
    s.run [.trigger, .trigger] =
      { s with pipeline := s.pipeline.fire.2, published := entry :: s.published } := by
  show s.stepTrigger.stepTrigger = _
  rw [stepTrigger_of_entry?_eq_some hs h, stepTrigger_of_published rfl, ← hs]
  rw [nextParts] at h
  unfold fire
  dsimp only
  rw [write_of_entry?_eq_some h]

/-- Three turns of the appender's side are a drain, if an entry waits. -/
theorem step_drain (hs : s.appender = .between) (h : s.pipeline.cell.peek = some entry) :
    s.run [.appender, .appender, .appender] =
      { s with pipeline := s.pipeline.drain.2, taken := entry :: s.taken } := by
  let claimed : Contexts := { s with pipeline := s.pipeline.claim.2, appender := .claimed }
  have htake := stepAppender_of_peek_eq_some (s := claimed) rfl h
  show s.stepAppender.stepAppender.stepAppender = _
  rw [stepAppender_of_between hs, htake, stepAppender_of_taken rfl, ← hs]
  unfold drain
  dsimp only
  rw [Cell.take_eq, show s.pipeline.claim.2.cell.peek = some entry from h]

/-- Without one two turns are, for the third step has nothing to append. -/
theorem step_drain_of_peek_eq_none (hs : s.appender = .between)
    (h : s.pipeline.cell.peek = none) :
    s.run [.appender, .appender] = { s with pipeline := s.pipeline.drain.2 } := by
  let claimed : Contexts := { s with pipeline := s.pipeline.claim.2, appender := .claimed }
  have htake := stepAppender_of_peek_eq_none (s := claimed) rfl h
  show s.stepAppender.stepAppender = _
  rw [stepAppender_of_between hs, htake, ← hs]
  unfold drain
  dsimp only
  rw [Cell.take_eq, show s.pipeline.claim.2.cell.peek = none from h]

/-! ### The invariant -/

/-- What holds of two contexts whose cell has the given room. -/
structure Sound (room : ℕ) (s : Contexts) : Prop where
  /-- An entry that waits has a drain to come. -/
  stranded : s.pipeline.cell.hasPending = true →
    s.pipeline.pending.owed = true ∨ s.trigger = .published ∨ s.appender = .claimed
  capacity_eq : s.pipeline.cell.capacity = room
  /-- The cell holds the latest of the entries published, as many as came since the last take. -/
  holds : ∃ since, since <+: s.published ∧ s.pipeline.cell.Holds since
  published_eq : s.pipeline.cell.stats.published = s.published.length
  accounted : s.pipeline.cell.Accounted s.taken.length

theorem sound_fresh (scratch : ℕ) (b : Buffer) (producer : Producer) (uptime : ℕ → Duration) :
    (fresh scratch b producer uptime).Sound (min scratch maxScratchCapacity) where
  stranded := nofun
  capacity_eq := Cell.capacity_empty scratch
  holds := ⟨[], List.nil_prefix, Cell.holds_nil (Cell.behind_empty scratch)⟩
  published_eq := rfl
  accounted := Cell.accounted_empty scratch

/-- Steps that leave the cell alone keep all but who is to come for the entry that waits. -/
theorem Sound.of_cell {t : Contexts} (h : s.Sound room) (hcell : t.pipeline.cell = s.pipeline.cell)
    (hpublished : t.published = s.published) (htaken : t.taken = s.taken)
    (hstranded : s.pipeline.cell.hasPending = true →
      t.pipeline.pending.owed = true ∨ t.trigger = .published ∨ t.appender = .claimed) :
    t.Sound room where
  stranded := by rwa [hcell]
  capacity_eq := by rw [hcell, h.capacity_eq]
  holds := by
    rw [hcell, hpublished]
    exact h.holds
  published_eq := by rw [hcell, hpublished, h.published_eq]
  accounted := by
    rw [hcell, htaken]
    exact h.accounted

theorem Sound.stepTrigger (h : s.Sound room) : s.stepTrigger.Sound room := by
  cases hs : s.trigger with
  | published =>
    -- a request: whatever waits, a drain is owed for it
    obtain ⟨ready, hschedule⟩ := schedule_eq s.pipeline
    rw [stepTrigger_of_published hs, hschedule]
    exact h.of_cell rfl rfl rfl fun _ ↦ Or.inl s.pipeline.pending.owed_schedule
  | between =>
    cases hentry : Part.entry? s.pipeline.nextParts with
    | none =>
      rw [stepTrigger_of_entry?_eq_none hs hentry]
      exact h.of_cell rfl rfl rfl h.stranded
    | some entry =>
      rw [stepTrigger_of_entry?_eq_some hs hentry]
      obtain ⟨since, hsince, hholds⟩ := h.holds
      exact
        { stranded := fun _ ↦ Or.inr (Or.inl rfl)
          capacity_eq := by rw [Cell.capacity_publish, h.capacity_eq]
          holds := ⟨entry :: since, List.cons_prefix_cons.2 ⟨rfl, hsince⟩, hholds.publish entry⟩
          published_eq := congrArg (· + 1) h.published_eq
          accounted := h.accounted.publish entry }

theorem Sound.stepAppender (h : s.Sound room) : s.stepAppender.Sound room := by
  cases hs : s.appender with
  | between =>
    rw [stepAppender_of_between hs]
    exact h.of_cell rfl rfl rfl fun _ ↦ Or.inr (Or.inr rfl)
  | claimed =>
    cases hpeek : s.pipeline.cell.peek with
    | none =>
      have hnone : s.pipeline.cell.hasPending = false := by
        rw [← Cell.isSome_peek, hpeek, Option.isSome_none]
      rw [stepAppender_of_peek_eq_none hs hpeek]
      exact h.of_cell rfl rfl rfl fun hp ↦ absurd hp (Bool.eq_false_iff.1 hnone)
    | some entry =>
      have htaken := h.accounted.take
      rw [hpeek] at htaken
      rw [stepAppender_of_peek_eq_some hs hpeek]
      exact
        { stranded := fun hp ↦ absurd hp (Bool.eq_false_iff.1 s.pipeline.cell.hasPending_take)
          capacity_eq := by rw [Cell.capacity_take, h.capacity_eq]
          holds := ⟨[], List.nil_prefix, s.pipeline.cell.holds_take⟩
          published_eq := by rw [Cell.stats_take, h.published_eq]
          accounted := htaken }
  | taken entry =>
    obtain ⟨journal, hcommit⟩ := commit_eq s.pipeline entry
    rw [stepAppender_of_taken hs, hcommit]
    refine h.of_cell rfl rfl rfl fun hp ↦ ?_
    obtain howed | htrigger | hclaimed := h.stranded hp
    · exact Or.inl howed
    · exact Or.inr (Or.inl htrigger)
    · rw [hs] at hclaimed
      cases hclaimed

theorem Sound.step (h : s.Sound room) (turn : Turn) : (s.step turn).Sound room := by
  cases turn with
  | trigger => exact h.stepTrigger
  | appender => exact h.stepAppender
  | pass ms =>
    obtain ⟨ready, hpass⟩ := advance_eq s.pipeline ms
    rw [Contexts.step, hpass]
    exact h.of_cell rfl rfl rfl h.stranded
  | limit quota => exact h.of_cell rfl rfl rfl h.stranded
  | append entry =>
    obtain ⟨journal, happend⟩ := append_eq s.pipeline entry
    rw [Contexts.step, happend]
    exact h.of_cell rfl rfl rfl h.stranded

theorem Sound.run (h : s.Sound room) (turns : List Turn) : (s.run turns).Sound room := by
  induction turns generalizing s with
  | nil => exact h
  | cons turn turns ih => exact ih (h.step turn)

/-- What waits is the latest entry, cut to the room. -/
theorem Sound.peek_eq (h : s.Sound room) (hlt : s.published.length < 2 ^ 63)
    (hpending : s.pipeline.cell.hasPending = true) :
    ∃ entry ∈ s.published.head?, s.pipeline.cell.peek = some (Draft.cut room entry) := by
  obtain ⟨since, hsince, hholds⟩ := h.holds
  have hlength := Nat.lt_of_le_of_lt hsince.length_le hlt
  have hpeek := hholds.peek_eq hlength
  rw [hholds.hasPending_eq hlength] at hpending
  obtain ⟨entry, hentry⟩ := Option.isSome_iff_exists.1 hpending
  obtain ⟨rest, rfl⟩ := List.head?_eq_some_iff.1 hentry
  obtain ⟨older, holder⟩ := hsince
  refine ⟨entry, by rw [← holder]; rfl, ?_⟩
  rw [hpeek, h.capacity_eq]
  rfl

end Contexts

/-- In every state of two interleaved contexts an entry that waits has a drain owed, a request to
come or a take to come, and what was published was superseded, taken or waits. So if both sides are
between their operations a drain is owed for the entry that waits, and one drain, which is what the
next three turns of the appender's side are, gives the latest entry to the log: behind what it held,
if it takes the entry, and otherwise the log holds what it held. -/
theorem never_stranded (scratch : ℕ) (b : Buffer) (producer : Producer)
    (uptime : ℕ → Duration) (turns : List Turn)
    (hlt : ((Contexts.fresh scratch b producer uptime).run turns).published.length < 2 ^ 63) :
    let s := (Contexts.fresh scratch b producer uptime).run turns
    let p := s.pipeline
    let room := min scratch maxScratchCapacity
    (p.cell.hasPending = true →
      p.pending.owed = true ∨ s.trigger = .published ∨ s.appender = .claimed) ∧
    (s.trigger = .between → s.appender = .between → p.cell.hasPending = true →
      p.pending.owed = true ∧
      ∃ entry ∈ s.published.head?,
        p.drain.1 = (p.buffer.append (Draft.cut room entry)).1.map some ∧
        p.drain.2.buffer = (p.buffer.append (Draft.cut room entry)).2 ∧
        p.drain.2.buffer.contents =
          (if (p.buffer.append (Draft.cut room entry)).1.toBool then
            p.buffer.contents ++ Draft.cut room entry
          else p.buffer.contents) ∧
        p.drain.2.cell.hasPending = false ∧
        s.run [.appender, .appender, .appender] =
          { s with pipeline := p.drain.2, taken := Draft.cut room entry :: s.taken }) ∧
    p.cell.stats.published = s.published.length ∧
    p.cell.stats.published =
      p.cell.stats.superseded + s.taken.length + (if p.cell.hasPending then 1 else 0) := by
  intro s p room
  have hs : s.Sound room := (Contexts.sound_fresh scratch b producer uptime).run turns
  refine ⟨hs.stranded, fun htrigger happender hpending ↦ ⟨?_, ?_⟩, hs.published_eq, ?_⟩
  · obtain howed | hbetween | hbetween := hs.stranded hpending
    · exact howed
    · rw [htrigger] at hbetween
      cases hbetween
    · rw [happender] at hbetween
      cases hbetween
  · obtain ⟨entry, hentry, hpeek⟩ := hs.peek_eq hlt hpending
    obtain ⟨journal, hdrain⟩ := drain_of_peek_eq_some hpeek
    have hturns := Contexts.step_drain happender hpeek
    refine ⟨entry, hentry, ?_, ?_, ?_, ?_, hturns⟩
    · rw [hdrain]
    · rw [hdrain]
    · rw [hdrain]
      exact p.buffer.contents_append (Draft.cut room entry)
    · rw [hdrain]
      exact p.cell.hasPending_take
  · have hbalanced := hs.accounted (hs.published_eq ▸ hlt)
    rw [show p.cell.stats.published = _ from hbalanced.published_eq]
    cases p.cell.hasPending <;> rfl

/-- The second fire publishes between the claim and the take of a drain, which takes its entry in
place of the first; its request comes after the claim and queues another drain. The third fire's
entry waits for that one, which delivers it. -/
theorem never_stranded_of_three_fires :
    let turns : List Turn := [.trigger, .trigger, .appender, .trigger, .appender, .pass 2, .trigger,
      .appender, .trigger, .trigger]
    let b : Buffer := { contents := .empty, capacity := 5, maxEntry := 16, ceiling := none }
    let s := (Contexts.fresh 9 b .counter).run turns
    s.published.length < 2 ^ 63 ∧ s.trigger = .between ∧ s.appender = .between ∧
      s.pipeline.cell.hasPending = true ∧ s.pipeline.pending.owed = true ∧
      s.pipeline.cell.stats.published = 3 ∧ s.pipeline.cell.stats.superseded = 1 ∧
      s.taken = ["Timer 2 h".toUTF8] ∧
      (s.run [.appender, .appender, .appender]).taken =
        ["Timer 3 h".toUTF8, "Timer 2 h".toUTF8] ∧
      s.pipeline.drain.2.buffer.contents = "Timer 2 hTimer 3 h".toUTF8 := by
  intro turns b s
  have hlt : s.published.length < 2 ^ 63 := by decide +kernel
  have htrigger : s.trigger = .between := by decide +kernel
  have happender : s.appender = .between := by decide +kernel
  have hpending : s.pipeline.cell.hasPending = true := by decide +kernel
  have htaken : s.taken = ["Timer 2 h".toUTF8] := by decide +kernel
  have hlatest : s.published.head? = some "Timer 3 hit\n".toUTF8 := by decide +kernel
  have hcut : Draft.cut (min 9 maxScratchCapacity) "Timer 3 hit\n".toUTF8 =
      "Timer 3 h".toUTF8 := by decide +kernel
  have hwhole : (if (s.pipeline.buffer.append "Timer 3 h".toUTF8).1.toBool then
      s.pipeline.buffer.contents ++ "Timer 3 h".toUTF8 else s.pipeline.buffer.contents) =
        "Timer 2 hTimer 3 h".toUTF8 := by decide +kernel
  have hpublished : s.pipeline.cell.stats.published = 3 := by decide +kernel
  have hsuperseded : s.pipeline.cell.stats.superseded = 1 := by decide +kernel
  have hrun : s = (Contexts.fresh 9 b .counter).run turns := rfl
  clear_value s
  obtain ⟨-, hidle, -, -⟩ := never_stranded 9 b .counter _ turns (hrun ▸ hlt)
  rw [← hrun] at hidle
  obtain ⟨howed, entry, hentry, -, -, hcontents, -, hturns⟩ := hidle htrigger happender hpending
  have hsame : entry = "Timer 3 hit\n".toUTF8 := Option.some.inj (hentry.symm.trans hlatest)
  have hnext : (s.run [.appender, .appender, .appender]).taken =
      Draft.cut (min 9 maxScratchCapacity) entry :: s.taken := congrArg Contexts.taken hturns
  rw [hsame, hcut, htaken] at hnext
  rw [hsame, hcut, hwhole] at hcontents
  exact ⟨hlt, htrigger, happender, hpending, howed, hpublished, hsuperseded, htaken, hnext,
    hcontents⟩

end DeferredLog.Pipeline
