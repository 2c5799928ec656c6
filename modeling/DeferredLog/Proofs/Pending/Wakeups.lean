import DeferredLog.Proofs.Pending.Line
import Mathlib.Data.List.Induction
import Mathlib.Data.List.Infix

/-!
# No request is forgotten

Owed work and the line of waiters are two things, changed by different calls: a claim takes the work
over and leaves notifications as they are, a first poll looks at the work before the permit, a
coalesced request notifies nobody. `no_request_forgotten` says that the two stay in touch. As long
as a drain is owed, the request that made it owed has left something that ends a wait: the permit, a
notified waiter that can still be polled, or a waiter that was polled since and was ready.

The past of owed work is kept as events, latest first, and `recent` is its part since the last
queued request. `Course.Remembers` is the invariant; its step is `Remembers.step`, which needs that
numbers are not given twice (`Numbered`): else a waiter could leave unnotified and take a notified
one of the same number along.
-/

namespace DeferredLog.Pending

/-! ### Acts and events -/

/-- What can be done with owed work and its waiters. -/
inductive Act where
  | schedule
  | claim
  | wait
  | poll (id : ℕ)
  | leave (id : ℕ)
  deriving DecidableEq

/-- What was done and what came of it. -/
inductive Event where
  | requested (outcome : Scheduling)
  | claimed (owed : Bool)
  | created (id : ℕ)
  /-- A waiter that stood in line notified, or did not, was given the answer. -/
  | polled (id : ℕ) (notified : Bool) (answer : Readiness)
  | left (id : ℕ)
  deriving DecidableEq

namespace Event

def isRequest : Event → Bool
  | .requested _ => true
  | _ => false

/-- Whether an owed drain was taken over. -/
def isTakeover : Event → Bool
  | .claimed owed => owed
  | _ => false

/-- Whether a notified waiter was ready. -/
def isWakeup : Event → Bool
  | .polled _ true .ready => true
  | _ => false

end Event

/-- Whether the waiter of this number stands in line notified. -/
def isNotified (p : Pending) (id : ℕ) : Bool :=
  (p.line.find? (·.id = id)).any (·.notified)

/-- Performs an act: the event it leaves and the state after it. -/
def perform (p : Pending) : Act → Event × Pending
  | .schedule => (.requested p.schedule.outcome, p.schedule.pending)
  | .claim => (.claimed p.claim.1, p.claim.2)
  | .wait => (.created p.wait.1, p.wait.2)
  | .poll id => (.polled id (p.isNotified id) (p.poll id).1, (p.poll id).2)
  | .leave id => (.left id, (p.leave id).2)

/-- Owed work and what has happened to it, latest first. -/
structure Course where
  pending : Pending := {}
  past : List Event := []

namespace Course

def step (c : Course) (a : Act) : Course :=
  ⟨(c.pending.perform a).2, (c.pending.perform a).1 :: c.past⟩

def run (c : Course) (acts : List Act) : Course :=
  acts.foldl step c

theorem run_concat (c : Course) (acts : List Act) (a : Act) :
    c.run (acts ++ [a]) = (c.run acts).step a :=
  List.foldl_append ..

end Course

/-- The events since the last request that was queued. -/
def recent (past : List Event) : List Event :=
  past.takeWhile (· ≠ .requested .queued)

variable {p : Pending} {past : List Event}

theorem recent_cons {e : Event} (he : e ≠ .requested .queued) (past : List Event) :
    recent (e :: past) = e :: recent past :=
  List.takeWhile_cons_of_pos (decide_eq_true he)

/-! ### What a request leaves behind -/

/-- Something ends a wait: the permit, a notified waiter that can be polled, or a wakeup that came
to pass among the events. -/
def Rousing (p : Pending) (events : List Event) : Prop :=
  p.permit = true ∨ (∃ w ∈ p.line, w.notified = true) ∨ ∃ e ∈ events, e.isWakeup = true

theorem rousing_notify (p : Pending) (events : List Event) : p.notify.2.Rousing events :=
  p.notified_or_permit_notify.imp_right Or.inl

/-- What ends a wait stays if the permit and the line do. -/
theorem Rousing.cons {q : Pending} {events : List Event} (h : p.Rousing events)
    (hpermit : q.permit = p.permit) (hline : q.line = p.line) (e : Event) :
    q.Rousing (e :: events) := by
  rw [Rousing, hpermit, hline]
  exact h.imp_right fun h' ↦ h'.imp_right fun ⟨e', he', hwakeup⟩ ↦
    ⟨e', List.mem_cons_of_mem e he', hwakeup⟩

theorem Rousing.poll {events : List Event} (h : p.Rousing events) (howed : p.owed = true)
    (id : ℕ) : (p.poll id).2.Rousing (.polled id (p.isNotified id) (p.poll id).1 :: events) := by
  have hpolled := p.polled id
  generalize (p.poll id).1 = answer, (p.poll id).2 = q at hpolled ⊢
  cases hpolled with
  | owed => exact h.cons rfl rfl _
  | permitted hfirst hnot => exact absurd howed (Bool.eq_false_iff.1 hnot)
  | joined hfirst hnot => exact absurd howed (Bool.eq_false_iff.1 hnot)
  | notified hlater w hw hnotified =>
    have hflag : p.isNotified id = true := by rw [isNotified, hw, Option.any_some, hnotified]
    exact Or.inr (Or.inr ⟨_, List.mem_cons_self, by rw [hflag]; rfl⟩)
  | still => exact h.cons rfl rfl _
  | unknown => exact h.cons rfl rfl _

/-- Whoever leaves notified passes it on, and whoever leaves unnotified takes nothing along. -/
theorem Rousing.leave {events : List Event} (h : p.Rousing events) (hnumbered : p.Numbered)
    (id : ℕ) : (p.leave id).2.Rousing (.left id :: events) := by
  have hleft := p.left id
  generalize (p.leave id).2 = q at hleft ⊢
  cases hleft with
  | notified => exact rousing_notify _ _
  | waiting w hw hnotified =>
    obtain hpermit | ⟨v, hv, hvnotified⟩ | ⟨e, he, hwakeup⟩ := h
    · exact Or.inl hpermit
    · have hother : v.id ≠ id := by
        intro hid
        obtain rfl := hnumbered.eq_of_find? hw hv hid
        exact absurd hvnotified (Bool.eq_false_iff.1 hnotified)
      exact Or.inr (Or.inl ⟨v, List.mem_filter.2 ⟨hv, decide_eq_true hother⟩, hvnotified⟩)
    · exact Or.inr (Or.inr ⟨e, List.mem_cons_of_mem _ he, hwakeup⟩)
  | absent => exact h.cons rfl rfl _

/-! ### The invariant -/

/-- Owed work agrees with its past. -/
structure Course.Remembers (c : Course) : Prop where
  numbered : c.pending.Numbered
  unpermitted : c.pending.Unpermitted
  requested : c.pending.owed = true → .requested .queued ∈ c.past
  rousing : c.pending.owed = true → c.pending.Rousing (recent c.past)
  queued_eq : c.pending.stats.queued =
    c.past.countP (·.isTakeover) + (if c.pending.owed then 1 else 0)
  requests_eq : c.pending.stats.queued + c.pending.stats.coalesced =
    c.past.countP (·.isRequest)

theorem remembers_nil : ({} : Course).Remembers where
  numbered := ⟨List.nodup_nil, nofun⟩
  unpermitted := nofun
  requested := nofun
  rousing := nofun
  queued_eq := rfl
  requests_eq := rfl

/-- Polls, departures and new waiters are no requests and take nothing over. -/
theorem Course.Remembers.of_line {q : Pending} {e : Event} (h : Course.Remembers ⟨p, past⟩)
    (hnumbered : q.Numbered) (hunpermitted : q.Unpermitted) (howed : q.owed = p.owed)
    (hstats : q.stats = p.stats) (hrequest : e.isRequest = false)
    (htakeover : e.isTakeover = false)
    (hrousing : p.owed = true → p.Rousing (recent past) → q.Rousing (e :: recent past)) :
    Course.Remembers ⟨q, e :: past⟩ where
  numbered := hnumbered
  unpermitted := hunpermitted
  requested := fun ho ↦ List.mem_cons_of_mem e (h.requested (howed ▸ ho))
  rousing := by
    intro ho
    have hne : e ≠ .requested .queued := by rintro rfl; cases hrequest
    rw [recent_cons hne]
    exact hrousing (howed ▸ ho) (h.rousing (howed ▸ ho))
  queued_eq := by
    rw [List.countP_cons_of_neg (Bool.eq_false_iff.1 htakeover), hstats, howed]
    exact h.queued_eq
  requests_eq := by
    rw [List.countP_cons_of_neg (Bool.eq_false_iff.1 hrequest), hstats]
    exact h.requests_eq

theorem stats_poll (p : Pending) (id : ℕ) :
    (p.poll id).2.owed = p.owed ∧ (p.poll id).2.stats = p.stats := by
  have hpolled := p.polled id
  generalize (p.poll id).1 = answer, (p.poll id).2 = q at hpolled ⊢
  cases hpolled <;> exact ⟨rfl, rfl⟩

theorem stats_leave (p : Pending) (id : ℕ) :
    (p.leave id).2.owed = p.owed ∧ (p.leave id).2.stats = p.stats := by
  have hleft := p.left id
  generalize (p.leave id).2 = q at hleft ⊢
  cases hleft with
  | notified => exact ⟨owed_notify _, stats_notify _⟩
  | waiting => exact ⟨rfl, rfl⟩
  | absent => exact ⟨rfl, rfl⟩

/-- A request on top of owed work is only counted: what the queued one left is still there. -/
theorem Course.Remembers.coalesce (h : Course.Remembers ⟨p, past⟩) (howed : p.owed = true) :
    Course.Remembers (Course.step ⟨p, past⟩ .schedule) := by
  have hnumbered := h.numbered.schedule
  have hunpermitted := h.unpermitted.schedule
  have hne : Event.requested .coalesced ≠ .requested .queued := by decide
  show Course.Remembers ⟨p.schedule.pending, .requested p.schedule.outcome :: past⟩
  rw [schedule_of_owed howed] at hnumbered hunpermitted ⊢
  exact
    { numbered := hnumbered
      unpermitted := hunpermitted
      requested := fun _ ↦ List.mem_cons_of_mem _ (h.requested howed)
      rousing := fun _ ↦ by
        rw [recent_cons hne]
        exact (h.rousing howed).cons rfl rfl _
      queued_eq := by
        rw [List.countP_cons_of_neg Bool.false_ne_true]
        exact h.queued_eq
      requests_eq := by
        rw [List.countP_cons_of_pos rfl, ← h.requests_eq]
        rfl }

/-- A queued request notifies, and nothing has happened since. -/
theorem Course.Remembers.queue (h : Course.Remembers ⟨p, past⟩) (howed : p.owed = false) :
    Course.Remembers (Course.step ⟨p, past⟩ .schedule) := by
  have hnumbered := h.numbered.schedule
  have hunpermitted := h.unpermitted.schedule
  have hbefore : p.stats.queued = past.countP (·.isTakeover) := by
    have hqueued := h.queued_eq
    dsimp only at hqueued
    rwa [howed] at hqueued
  show Course.Remembers ⟨p.schedule.pending, .requested p.schedule.outcome :: past⟩
  rw [schedule_of_not_owed howed] at hnumbered hunpermitted ⊢
  have howed' : p.queue.notify.2.owed = true := owed_notify p.queue
  exact
    { numbered := hnumbered
      unpermitted := hunpermitted
      requested := fun _ ↦ List.mem_cons_self
      rousing := fun _ ↦ rousing_notify _ _
      queued_eq := by
        rw [howed', stats_notify, List.countP_cons_of_neg Bool.false_ne_true]
        exact congrArg (· + 1) hbefore
      requests_eq := by
        rw [stats_notify, List.countP_cons_of_pos rfl, ← h.requests_eq]
        exact Nat.add_right_comm .. }

theorem Course.Remembers.schedule (h : Course.Remembers ⟨p, past⟩) :
    Course.Remembers (Course.step ⟨p, past⟩ .schedule) := by
  cases howed : p.owed with
  | true => exact h.coalesce howed
  | false => exact h.queue howed

theorem Course.Remembers.claim (h : Course.Remembers ⟨p, past⟩) :
    Course.Remembers (Course.step ⟨p, past⟩ .claim) where
  numbered := ⟨h.numbered.nodup, h.numbered.lt_created⟩
  unpermitted := h.unpermitted
  requested := nofun
  rousing := nofun
  queued_eq := by
    have hbefore := h.queued_eq
    show p.stats.queued = (.claimed p.owed :: past).countP (·.isTakeover) + 0
    cases howed : p.owed with
    | true =>
      rw [howed] at hbefore
      rw [List.countP_cons_of_pos rfl]
      exact hbefore
    | false =>
      rw [howed] at hbefore
      rw [List.countP_cons_of_neg Bool.false_ne_true]
      exact hbefore
  requests_eq := by
    have hbefore := h.requests_eq
    show p.stats.queued + p.stats.coalesced = (.claimed p.owed :: past).countP (·.isRequest)
    rw [List.countP_cons_of_neg Bool.false_ne_true]
    exact hbefore

theorem Course.Remembers.step (h : Course.Remembers ⟨p, past⟩) (a : Act) :
    Course.Remembers (Course.step ⟨p, past⟩ a) := by
  cases a with
  | schedule => exact h.schedule
  | claim => exact h.claim
  | wait =>
    exact h.of_line h.numbered.wait h.unpermitted rfl rfl rfl rfl fun _ hr ↦ hr.cons rfl rfl _
  | poll id =>
    obtain ⟨howed, hstats⟩ := stats_poll p id
    exact h.of_line (h.numbered.poll id) (h.unpermitted.poll id) howed hstats rfl rfl
      fun ho hr ↦ hr.poll ho id
  | leave id =>
    obtain ⟨howed, hstats⟩ := stats_leave p id
    exact h.of_line (h.numbered.leave id) (h.unpermitted.leave id) howed hstats rfl rfl
      fun _ hr ↦ hr.leave h.numbered id

theorem Course.remembers_run (acts : List Act) : (({} : Course).run acts).Remembers := by
  induction acts using List.reverseRecOn with
  | nil => exact remembers_nil
  | append_singleton acts a ih =>
    rw [run_concat]
    exact ih.step a

/-! ### One waiter at a time -/

theorem Unowed.perform (h : p.Unowed) (hlength : p.line.length ≤ 1) (a : Act) :
    (p.perform a).2.Unowed := by
  cases a with
  | schedule => exact h.schedule hlength
  | claim => exact nofun
  | wait => exact h
  | poll id => exact h.poll id
  | leave id => exact h.leave hlength id

/-- If never more than one waiter stands in line, nobody waits unnotified for work that is owed. -/
theorem Course.unowed_run {acts : List Act}
    (h : ∀ before, before <+: acts → (({} : Course).run before).pending.line.length ≤ 1) :
    (({} : Course).run acts).pending.Unowed := by
  induction acts using List.reverseRecOn with
  | nil => exact nofun
  | append_singleton acts a ih =>
    have hprefix : acts <+: acts ++ [a] := List.prefix_append _ _
    rw [run_concat]
    exact (ih fun before hbefore ↦ h before (hbefore.trans hprefix)).perform (h acts hprefix) a

/-- After any acts on new owed work: while a drain is owed, something has come of the request that
queued it which ends a wait, be it the permit, a notified waiter or a wakeup since; the permit never
lies there while someone stands in line unnotified; nor is a drain owed then, if never more than one
waiter stood in line; and every queued request was taken over, but for one that is owed. -/
theorem no_request_forgotten (acts : List Act) :
    let c := ({} : Course).run acts
    (c.pending.owed = true → .requested .queued ∈ c.past ∧
      (c.pending.permit = true ∨ (∃ w ∈ c.pending.line, w.notified = true) ∨
        ∃ e ∈ recent c.past, e.isWakeup = true)) ∧
    (c.pending.permit = true → ∀ w ∈ c.pending.line, w.notified = true) ∧
    ((∀ before, before <+: acts → (({} : Course).run before).pending.line.length ≤ 1) →
      ∀ w ∈ c.pending.line, w.notified = false → c.pending.owed = false) ∧
    c.pending.stats.queued =
      c.past.countP (·.isTakeover) + (if c.pending.owed then 1 else 0) ∧
    c.pending.stats.queued + c.pending.stats.coalesced = c.past.countP (·.isRequest) := by
  intro c
  have hc : c.Remembers := Course.remembers_run acts
  refine ⟨fun howed ↦ ⟨hc.requested howed, hc.rousing howed⟩, hc.unpermitted, ?_, hc.queued_eq,
    hc.requests_eq⟩
  intro hone w hw hnotified
  refine Bool.eq_false_iff.2 fun howed ↦ ?_
  exact Bool.eq_false_iff.1 hnotified (Course.unowed_run hone howed w hw)

/-- Two waiters stand in line, a request wakes the first, and it leaves unpolled: its notification
goes to the second, which is ready although the drain was claimed meanwhile. One waiter after the
other has stood in line, and the one that still does waits for nothing that is owed. -/
theorem no_request_forgotten_of_two_waiters :
    let acts : List Act := [.wait, .wait, .poll 0, .poll 1, .schedule, .leave 0]
    let turns : List Act := [.wait, .poll 0, .schedule, .poll 0, .claim, .wait, .poll 1]
    let c := ({} : Course).run acts
    let d := ({} : Course).run turns
    c.pending.owed = true ∧ c.pending.permit = false ∧ c.pending.line = [⟨1, true⟩] ∧
      (c.pending.permit = true ∨ (∃ w ∈ c.pending.line, w.notified = true) ∨
        ∃ e ∈ recent c.past, e.isWakeup = true) ∧
      ((({} : Course).run (acts ++ [.claim])).pending.poll 1).1 = .ready ∧
      (∀ before, before <+: turns → (({} : Course).run before).pending.line.length ≤ 1) ∧
      d.pending.line = [⟨1, false⟩] ∧ d.pending.owed = false := by
  intro acts turns c d
  have howed : c.pending.owed = true := by decide
  obtain ⟨hrequest, -⟩ := no_request_forgotten acts
  have hone : ∀ before, before <+: turns →
      (({} : Course).run before).pending.line.length ≤ 1 := by
    have hall : ∀ before ∈ turns.inits,
        (({} : Course).run before).pending.line.length ≤ 1 := by decide
    exact fun before hbefore ↦ hall before ((List.mem_inits before turns).2 hbefore)
  have hline : d.pending.line = [⟨1, false⟩] := by decide
  obtain ⟨-, -, halone, -⟩ := no_request_forgotten turns
  have hfree := halone hone ⟨1, false⟩ (hline ▸ List.mem_cons_self) rfl
  exact ⟨howed, by decide, by decide, (hrequest howed).2, by decide, hone, hline, hfree⟩

end DeferredLog.Pending
