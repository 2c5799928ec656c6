import DeferredLog.Proofs.Pipeline.Effects
import Mathlib.Data.List.Induction

/-!
# Pipelines driven by hand

A course is a pipeline together with what has happened to it. A caller may publish, write, fire,
request and claim drains, drain, append directly, limit the memory and let time go by, in any order;
each such act leaves one event, and events are kept latest first, as the journal is.

An event tells what an act meant for the log. Whole entries are recorded, before the cell cuts them,
and the answers of drains and direct appends as they were given. Acts that publish, drain and append
nothing are quiet: requests, claims, limits, time, and a producer that broke down.

Two lemmas look into the nine acts. `effect_perform` lists what one act can do to cell, log and
counts, in five cases (`Effect`), and every law of courses is proved by these cases and carried over
runs by `Course.run_induction`. `perform_eq` says what all acts leave alone.
-/

namespace DeferredLog.Pipeline

/-! ### Acts and events -/

/-- What a caller can do with a pipeline by hand. -/
inductive Act where
  | publish (entry : ByteArray)
  | write (parts : List Part)
  | fire
  | schedule
  | claim
  | drain
  | append (entry : ByteArray)
  /-- The memory for growth is limited, or the limit is lifted. -/
  | limit (quota : Option ℕ)
  /-- Time goes by. -/
  | pass (ms : ℕ)
  deriving DecidableEq

/-- What an act meant for the log. -/
inductive Event where
  /-- An entry went into the cell, from a fire if there is a tick. -/
  | published (entry : ByteArray) (tick : Option ℕ)
  | drained (answer : Except Failure (Option ℕ))
  /-- An entry was appended directly. -/
  | appended (entry : ByteArray) (answer : Except Failure ℕ)
  | quiet

namespace Event

/-- The event of publishing what some parts make. -/
def ofParts (parts : List Part) (tick : Option ℕ) : Event :=
  match Part.entry? parts with
  | some entry => .published entry tick
  | none => .quiet

def isPublication : Event → Bool
  | .published .. => true
  | _ => false

/-- Whether the log took an entry that was appended directly. -/
def isAccepted : Event → Bool
  | .appended _ answer => answer.toBool
  | _ => false

/-- Whether the log refused an entry that was appended directly. -/
def isRefused : Event → Bool
  | .appended _ answer => !answer.toBool
  | _ => false

end Event

/-- Performs an act: the event it leaves and the pipeline after it. -/
def perform (p : Pipeline) : Act → Event × Pipeline
  | .publish entry => (.published entry none, (p.publish entry).2)
  | .write parts => (.ofParts parts none, (p.write parts).2)
  | .fire => (.ofParts p.nextParts (some (p.tick + 1)), p.fire.2)
  | .schedule => (.quiet, p.schedule.2)
  | .claim => (.quiet, p.claim.2)
  | .drain => (.drained p.drain.1, p.drain.2)
  | .append entry => (.appended entry (p.append entry).1, (p.append entry).2)
  | .limit quota => (.quiet, { p with buffer := p.buffer.withQuota quota })
  | .pass ms => (.quiet, p.advance ms)

/-! ### Courses -/

/-- A pipeline and what has happened to it, latest first. -/
structure Course where
  pipeline : Pipeline
  past : List Event := []

namespace Course

/-- A new pipeline to which nothing has happened. -/
def fresh (scratchCapacity : ℕ) (buffer : Buffer) (producer : Producer)
    (uptime : ℕ → Duration := fun _ ↦ .ofMillis 0) : Course :=
  { pipeline := make scratchCapacity buffer producer uptime }

def step (c : Course) (a : Act) : Course :=
  ⟨(c.pipeline.perform a).2, (c.pipeline.perform a).1 :: c.past⟩

def run (c : Course) (acts : List Act) : Course :=
  acts.foldl step c

end Course

/-- How many entries went into the cell. -/
def publications (past : List Event) : ℕ :=
  past.countP (·.isPublication)

theorem publications_le_cons (e : Event) (past : List Event) :
    publications past ≤ publications (e :: past) :=
  List.Sublist.countP_le (List.sublist_cons_self e past)

/-- What every act keeps as long as fewer than half the words were published, every run keeps. -/
theorem Course.run_induction {P : Course → Prop} {c : Course} (hstart : P c)
    (hstep : ∀ c a, P c → publications (c.step a).past < 2 ^ 63 → P (c.step a)) (acts : List Act)
    (hlt : publications (c.run acts).past < 2 ^ 63) : P (c.run acts) := by
  -- from the end: the last act is the one whose event comes first in the past
  induction acts using List.reverseRecOn with
  | nil => exact hstart
  | append_singleton acts a ih =>
    have hrun : c.run (acts ++ [a]) = (c.run acts).step a := List.foldl_append ..
    rw [hrun] at hlt ⊢
    exact hstep _ a (ih (Nat.lt_of_le_of_lt (publications_le_cons ..) hlt)) hlt

/-! ### What an act can do -/

/-- What an act with the given event can do to cell, log and counts. -/
inductive Effect (p q : Pipeline) : Event → Prop
  | published (entry : ByteArray) (tick : Option ℕ)
      (htick : p.tick ≤ q.tick ∧ ∀ t ∈ tick, p.tick < t ∧ t ≤ q.tick)
      (hcell : q.cell = (p.cell.publish entry).2) (hbuffer : q.buffer = p.buffer)
      (hdrains : q.drains = p.drains) : Effect p q (.published entry tick)
  | quiet (htick : p.tick ≤ q.tick) (hcell : q.cell = p.cell) (quota : Option ℕ)
      (hbuffer : q.buffer = p.buffer.withQuota quota) (hdrains : q.drains = p.drains) :
      Effect p q .quiet
  /-- A drain found nothing. -/
  | missed (htick : q.tick = p.tick) (hpeek : p.cell.peek = none) (hcell : q.cell = p.cell)
      (hbuffer : q.buffer = p.buffer)
      (hdrains : q.drains =
        { p.drains with
          drains := p.drains.drains + 1
          emptyDrains := p.drains.emptyDrains + 1 }) : Effect p q (.drained (.ok none))
  /-- A drain took an entry and appended it. -/
  | took (entry : ByteArray) (htick : q.tick = p.tick) (hpeek : p.cell.peek = some entry)
      (hcell : q.cell = p.cell.take.2) (hbuffer : q.buffer = (p.buffer.append entry).2)
      (hdrains : q.drains =
        { p.drains with
          drains := p.drains.drains + 1
          committed := p.drains.committed + (p.buffer.append entry).1.toBool.toNat
          dropped := p.drains.dropped + (!(p.buffer.append entry).1.toBool).toNat }) :
      Effect p q (.drained ((p.buffer.append entry).1.map some))
  | appended (entry : ByteArray) (htick : q.tick = p.tick) (hcell : q.cell = p.cell)
      (hbuffer : q.buffer = (p.buffer.append entry).2) (hdrains : q.drains = p.drains) :
      Effect p q (.appended entry (p.buffer.append entry).1)

theorem effect_perform (p : Pipeline) (a : Act) :
    Effect p (p.perform a).2 (p.perform a).1 := by
  cases a with
  | publish entry => exact .published entry none ⟨Nat.le_refl _, nofun⟩ rfl rfl rfl
  | write parts =>
    rw [perform, Event.ofParts]
    cases hentry : Part.entry? parts with
    | none =>
      rw [write_of_entry?_eq_none hentry]
      exact .quiet (Nat.le_refl _) rfl p.buffer.quota rfl rfl
    | some entry =>
      rw [write_of_entry?_eq_some hentry]
      exact .published entry none ⟨Nat.le_refl _, nofun⟩ rfl rfl rfl
  | fire =>
    rw [perform, Event.ofParts]
    cases hentry : Part.entry? p.nextParts with
    | none =>
      rw [fire_of_entry?_eq_none hentry]
      exact .quiet (Nat.le_succ _) rfl p.buffer.quota rfl rfl
    | some entry =>
      obtain ⟨ready, hfire⟩ := fire_of_entry?_eq_some hentry
      rw [hfire]
      refine .published entry _ ⟨Nat.le_succ _, fun t ht ↦ ?_⟩ rfl rfl rfl
      obtain rfl := Option.some.inj ht
      exact ⟨Nat.lt_succ_self _, Nat.le_refl _⟩
  | schedule =>
    obtain ⟨ready, hschedule⟩ := schedule_eq p
    rw [perform, hschedule]
    exact .quiet (Nat.le_refl _) rfl p.buffer.quota rfl rfl
  | claim => exact .quiet (Nat.le_refl _) rfl p.buffer.quota rfl rfl
  | drain =>
    rw [perform]
    cases hpeek : p.cell.peek with
    | none =>
      obtain ⟨journal, hdrain⟩ := drain_of_peek_eq_none hpeek
      rw [hdrain]
      exact .missed rfl hpeek rfl rfl rfl
    | some entry =>
      obtain ⟨journal, hdrain⟩ := drain_of_peek_eq_some hpeek
      rw [hdrain]
      exact .took entry rfl hpeek rfl rfl rfl
  | append entry =>
    obtain ⟨journal, happend⟩ := append_eq p entry
    rw [perform, happend]
    exact .appended entry rfl rfl rfl rfl
  | limit quota => exact .quiet (Nat.le_refl _) rfl quota rfl rfl
  | pass ms =>
    obtain ⟨ready, hpass⟩ := advance_eq p ms
    rw [perform, hpass]
    exact .quiet (Nat.le_refl _) rfl p.buffer.quota rfl rfl

/-- The tasks, their lines and what comes from outside are no act's concern. Only a fire counts a
tick, and only time that goes by moves the clock, by whole milliseconds. -/
theorem perform_eq (p : Pipeline) (a : Act) :
    ∃ cell buffer pending drains tick ready ms journal,
      (p.perform a).2 =
        { p with
          cell, buffer, pending, drains, tick, ready
          now := p.now + 1000000 * ms
          journal } ∧
      (a ≠ .fire → tick = p.tick) ∧ ((∀ ms, a ≠ .pass ms) → ms = 0) := by
  cases a with
  | publish entry => exact ⟨_, _, _, _, _, _, 0, _, rfl, fun _ ↦ rfl, fun _ ↦ rfl⟩
  | write parts =>
    cases hentry : Part.entry? parts with
    | none =>
      rw [perform, write_of_entry?_eq_none hentry]
      exact ⟨_, _, _, _, _, _, 0, _, rfl, fun _ ↦ rfl, fun _ ↦ rfl⟩
    | some entry =>
      rw [perform, write_of_entry?_eq_some hentry]
      exact ⟨_, _, _, _, _, _, 0, _, rfl, fun _ ↦ rfl, fun _ ↦ rfl⟩
  | fire =>
    cases hentry : Part.entry? p.nextParts with
    | none =>
      rw [perform, fire_of_entry?_eq_none hentry]
      exact ⟨_, _, _, _, _, _, 0, _, rfl, fun h ↦ absurd rfl h, fun _ ↦ rfl⟩
    | some entry =>
      obtain ⟨ready, hfire⟩ := fire_of_entry?_eq_some hentry
      rw [perform, hfire]
      exact ⟨_, _, _, _, _, _, 0, _, rfl, fun h ↦ absurd rfl h, fun _ ↦ rfl⟩
  | schedule =>
    obtain ⟨ready, hschedule⟩ := schedule_eq p
    rw [perform, hschedule]
    exact ⟨_, _, _, _, _, _, 0, _, rfl, fun _ ↦ rfl, fun _ ↦ rfl⟩
  | claim => exact ⟨_, _, _, _, _, _, 0, _, rfl, fun _ ↦ rfl, fun _ ↦ rfl⟩
  | drain =>
    cases hpeek : p.cell.peek with
    | none =>
      obtain ⟨journal, hdrain⟩ := drain_of_peek_eq_none hpeek
      rw [perform, hdrain]
      exact ⟨_, _, _, _, _, _, 0, _, rfl, fun _ ↦ rfl, fun _ ↦ rfl⟩
    | some entry =>
      obtain ⟨journal, hdrain⟩ := drain_of_peek_eq_some hpeek
      rw [perform, hdrain]
      exact ⟨_, _, _, _, _, _, 0, _, rfl, fun _ ↦ rfl, fun _ ↦ rfl⟩
  | append entry =>
    obtain ⟨journal, happend⟩ := append_eq p entry
    rw [perform, happend]
    exact ⟨_, _, _, _, _, _, 0, _, rfl, fun _ ↦ rfl, fun _ ↦ rfl⟩
  | limit quota => exact ⟨_, _, _, _, _, _, 0, _, rfl, fun _ ↦ rfl, fun _ ↦ rfl⟩
  | pass ms =>
    obtain ⟨ready, hpass⟩ := advance_eq p ms
    rw [perform, hpass]
    exact ⟨_, _, _, _, _, _, ms, _, rfl, fun _ ↦ rfl, fun h ↦ absurd rfl (h ms)⟩

end DeferredLog.Pipeline
