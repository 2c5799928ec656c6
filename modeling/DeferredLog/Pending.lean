/-!
# Work that is owed

At most one drain is owed at a time: the request that makes it owed is queued, further requests are
coalesced with it until someone claims it. A queued request wakes one waiter.

A waiter looks before it sleeps. Its first poll is answered at once if a drain is owed, else by the
permit that an earlier request left, and only else does it join the line. A queued request goes to
the waiter that stands longest in the line unnotified; if there is none it leaves the permit, of
which there is only one. A notified waiter that goes away unpolled passes its notification on in
the same way, so no request is forgotten.
-/

namespace DeferredLog

/-- What became of a request for a drain. -/
inductive Scheduling where
  | queued
  | coalesced
  deriving DecidableEq, Repr

/-- What a waiter is told. -/
inductive Readiness where
  | ready
  | waiting
  /-- The waiter was ready before, has gone, or never was. -/
  | finished
  deriving DecidableEq, Repr

/-- A waiter in the line, by its number. -/
structure Waiter where
  id : Nat
  notified : Bool := false
  deriving DecidableEq, Repr

/-- The requests for drains so far. -/
structure Pending.Stats where
  queued : Nat := 0
  coalesced : Nat := 0
  deriving DecidableEq, Repr

/-- The one drain that may be owed, and who waits for it. -/
structure Pending where
  /-- Whether a drain is owed. -/
  owed : Bool := false
  /-- Whether a request has found nobody to wake. -/
  permit : Bool := false
  /-- The number of waiters so far, which numbers the next. -/
  created : Nat := 0
  /-- The waiters that have not been polled. -/
  unpolled : List Nat := []
  /-- The waiters that were told to wait, longest first. -/
  line : List Waiter := []
  stats : Pending.Stats := {}
  deriving DecidableEq, Repr

namespace Pending

/-! ### Requests -/

/-- Hands one notification to the longest unnotified waiter, or leaves the permit. Tells whom it
woke. -/
def notify (p : Pending) : Option Nat × Pending :=
  match p.line.find? (!·.notified) with
  | some w =>
    (some w.id,
      { p with line := p.line.map fun v ↦ if v.id = w.id then { v with notified := true } else v })
  | none => (none, { p with permit := true })

/-- A request for a drain: what became of it, whom it woke, and the state after it. -/
structure Scheduled where
  outcome : Scheduling
  woken : Option Nat
  pending : Pending

/-- Requests a drain. -/
def schedule (p : Pending) : Scheduled :=
  if p.owed then
    ⟨.coalesced, none, { p with stats.coalesced := p.stats.coalesced + 1 }⟩
  else
    let r := { p with owed := true, stats.queued := p.stats.queued + 1 }.notify
    ⟨.queued, r.1, r.2⟩

/-- Takes the owed drain over; tells whether one was owed. -/
def claim (p : Pending) : Bool × Pending :=
  (p.owed, { p with owed := false })

/-! ### Waiters -/

/-- A new waiter, not yet polled. -/
def wait (p : Pending) : Nat × Pending :=
  (p.created, { p with created := p.created + 1, unpolled := p.created :: p.unpolled })

/-- Asks for a waiter whether its wait is over. -/
def poll (p : Pending) (id : Nat) : Readiness × Pending :=
  if p.unpolled.contains id then
    let p := { p with unpolled := p.unpolled.filter (· ≠ id) }
    if p.owed then (.ready, p)
    else if p.permit then (.ready, { p with permit := false })
    else (.waiting, { p with line := p.line ++ [⟨id, false⟩] })
  else
    match p.line.find? (·.id = id) with
    | some w =>
      if w.notified then (.ready, { p with line := p.line.filter (·.id ≠ id) })
      else (.waiting, p)
    | none => (.finished, p)

/-- Lets a waiter go. If it was notified, the notification goes to the next; tells whom that woke. -/
def leave (p : Pending) (id : Nat) : Option Nat × Pending :=
  match p.line.find? (·.id = id) with
  | some w =>
    let p := { p with line := p.line.filter (·.id ≠ id) }
    if w.notified then p.notify else (none, p)
  | none => (none, { p with unpolled := p.unpolled.filter (· ≠ id) })

/-! ### What bounds a waiter that asks again and again -/

/-- What could answer a poll at once: the owed drain, the permit, and the notifications. -/
def stimuli (p : Pending) : Nat :=
  p.owed.toNat + p.permit.toNat + p.line.countP (·.notified)

/-- A wait that is over has used something up, once the owed drain is taken over too. -/
theorem stimuli_claim_poll_lt {p : Pending} {id : Nat} (h : (p.poll id).1 = .ready) :
    (p.poll id).2.claim.2.stimuli < p.stimuli := by
  unfold poll at h ⊢
  split
  · next hu =>
    simp only [hu, if_true] at h
    by_cases ho : p.owed
    · simp [ho, claim, stimuli]
    · by_cases hp : p.permit
      · simp [ho, hp, claim, stimuli]
      · simp [ho, hp] at h
  · next hu =>
    simp only [hu] at h
    split
    · next w hw =>
      simp only [hw] at h
      by_cases hn : w.notified
      · simp only [hn, if_true, claim, stimuli, Bool.toNat_false, Nat.zero_add]
        have hmem := List.mem_of_find?_eq_some hw
        have hid : w.id = id := by simpa using List.find?_some hw
        have hsplit := List.countP_eq_countP_filter_add p.line (·.notified) (·.id ≠ id)
        have hone : 1 ≤ (p.line.filter fun v ↦ !decide (v.id ≠ id)).countP (·.notified) :=
          List.one_le_countP_iff.2 ⟨w, by simp [hmem, hid], hn⟩
        omega
      · simp [hn] at h
    · next hw => simp [hw] at h

@[simp] theorem stimuli_wait (p : Pending) : p.wait.2.stimuli = p.stimuli := rfl

end Pending

end DeferredLog
