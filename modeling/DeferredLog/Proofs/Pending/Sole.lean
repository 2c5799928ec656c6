import DeferredLog.Proofs.Pending.Line

/-!
# One waiter at a time

A caller who waits in one place only, and makes a new waiter when the last wait is over, never has
two of them. Between two calls such a caller either waits for nothing (`Vacant`) or through one
waiter (`Sole`), and a wait that is not over leaves that waiter asleep (`Asleep`): in line, with
nothing owed and no permit that it has missed.
-/

namespace DeferredLog.Pending

variable {p : Pending} {id : ℕ}

/-- Nobody waits. -/
structure Vacant (p : Pending) : Prop where
  unpolled_eq : p.unpolled = []
  line_eq : p.line = []

/-- One waiter stands in line, and there is nothing it should have been told. -/
structure Asleep (p : Pending) (id : ℕ) : Prop where
  unpolled_eq : p.unpolled = []
  line_eq : p.line = [⟨id, false⟩]
  owed_eq : p.owed = false
  permit_eq : p.permit = false

/-- One waiter stands in line, and was told what there is to tell. -/
structure Standing (p : Pending) (id : ℕ) : Prop where
  unpolled_eq : p.unpolled = []
  line_eq : ∃ notified, p.line = [⟨id, notified⟩] ∧
    (p.owed = true ∨ p.permit = true → notified = true)

/-- There is one waiter, not polled yet or in line. -/
inductive Sole (p : Pending) (id : ℕ) : Prop
  | fresh (hunpolled : p.unpolled = [id]) (hline : p.line = [])
  | standing (h : p.Standing id)

theorem Asleep.standing (h : p.Asleep id) : p.Standing id := by
  refine ⟨h.unpolled_eq, false, h.line_eq, ?_⟩
  rw [h.owed_eq, h.permit_eq, or_self]
  exact fun hs ↦ hs

theorem Vacant.wait (h : p.Vacant) : p.wait.2.Sole p.wait.1 :=
  .fresh (congrArg (p.created :: ·) h.unpolled_eq) h.line_eq

theorem Vacant.claim (h : p.Vacant) : p.claim.2.Vacant :=
  ⟨h.unpolled_eq, h.line_eq⟩

theorem Standing.claim (h : p.Standing id) : p.claim.2.Standing id := by
  obtain ⟨notified, hline, hstimulus⟩ := h.line_eq
  exact ⟨h.unpolled_eq, notified, hline,
    fun hs ↦ hstimulus (Or.inr (hs.resolve_left Bool.false_ne_true))⟩

theorem Asleep.claim (h : p.Asleep id) : p.claim.2.Asleep id :=
  ⟨h.unpolled_eq, h.line_eq, rfl, h.permit_eq⟩

theorem Sole.claim (h : p.Sole id) : p.claim.2.Sole id := by
  cases h with
  | fresh hunpolled hline => exact .fresh hunpolled hline
  | standing hstanding => exact .standing hstanding.claim

theorem Vacant.schedule (h : p.Vacant) : p.schedule.pending.Vacant := by
  obtain ⟨hunpolled, hline⟩ := h
  cases howed : p.owed with
  | true =>
    rw [schedule_of_owed howed]
    exact ⟨hunpolled, hline⟩
  | false =>
    rw [schedule_of_not_owed howed]
    refine ⟨(unpolled_notify _).trans hunpolled, ?_⟩
    rw [← List.map_eq_nil_iff (f := (·.id)), map_id_line_notify]
    exact congrArg _ hline

/-- A request reaches the only one in line. -/
theorem Standing.schedule (h : p.Standing id) : p.schedule.pending.Standing id := by
  obtain ⟨hunpolled, notified, hline, hstimulus⟩ := h
  cases howed : p.owed with
  | true =>
    rw [schedule_of_owed howed]
    exact ⟨hunpolled, notified, hline, fun _ ↦ hstimulus (Or.inl howed)⟩
  | false =>
    rw [schedule_of_not_owed howed]
    have hids : p.queue.notify.2.line.map (·.id) = [id] := by
      rw [map_id_line_notify]
      exact congrArg (List.map (·.id)) hline
    obtain ⟨⟨i, told⟩, hsole, hid⟩ := List.map_eq_singleton_iff.1 hids
    obtain rfl : i = id := hid
    have htold := notified_of_length_le (p := p.queue) (Nat.le_of_eq (congrArg List.length hline))
    rw [hsole] at htold
    exact ⟨(unpolled_notify _).trans hunpolled, told, hsole,
      fun _ ↦ htold _ (List.mem_singleton_self _)⟩

/-- A request wakes who sleeps. -/
theorem Asleep.woken_schedule (h : p.Asleep id) : p.schedule.woken = some id := by
  rw [schedule_of_not_owed h.owed_eq]
  obtain ⟨w, hw, -, hnotify⟩ | ⟨hall, -⟩ := p.queue.notify_cases
  · have hsole : w ∈ p.line := hw
    rw [h.line_eq, List.mem_singleton] at hsole
    rw [hnotify, hsole]
  · have htold := hall ⟨id, false⟩ (h.line_eq ▸ List.mem_singleton_self _)
    cases htold

/-- A wait that is over leaves nobody. -/
theorem Sole.poll_of_ready (h : p.Sole id) (hready : (p.poll id).1 = .ready) :
    (p.poll id).2.Vacant ∧ (p.poll id).2.owed = p.owed ∧ (p.poll id).2.stats = p.stats := by
  have hpolled := p.polled id
  generalize (p.poll id).1 = answer, (p.poll id).2 = q at hpolled hready ⊢
  have hfilter : ([id] : List ℕ).filter (· ≠ id) = [] := by simp
  cases h with
  | fresh hunpolled hline =>
    cases hpolled with
    | owed => exact ⟨⟨by rw [hunpolled, hfilter], hline⟩, rfl, rfl⟩
    | permitted => exact ⟨⟨by rw [hunpolled, hfilter], hline⟩, rfl, rfl⟩
    | joined => cases hready
    | notified hlater => exact absurd (hunpolled ▸ List.mem_singleton_self id) hlater
    | still hlater => cases hready
    | unknown hlater => cases hready
  | standing hstanding =>
    obtain ⟨hunpolled, notified, hline, hstimulus⟩ := hstanding
    have hlater : id ∉ p.unpolled := hunpolled ▸ List.not_mem_nil
    cases hpolled with
    | owed hfirst => exact absurd hfirst hlater
    | permitted hfirst => exact absurd hfirst hlater
    | joined hfirst => exact absurd hfirst hlater
    | notified => exact ⟨⟨hunpolled, by simp [hline]⟩, rfl, rfl⟩
    | still => cases hready
    | unknown => cases hready

/-- A wait that is not over puts the waiter to sleep. -/
theorem Sole.poll_of_not_ready (h : p.Sole id) (hready : (p.poll id).1 ≠ .ready) :
    (p.poll id).2.Asleep id ∧ (p.poll id).2.owed = p.owed ∧ (p.poll id).2.stats = p.stats := by
  have hpolled := p.polled id
  generalize (p.poll id).1 = answer, (p.poll id).2 = q at hpolled hready ⊢
  cases h with
  | fresh hunpolled hline =>
    have hfirst : id ∈ p.unpolled := hunpolled ▸ List.mem_singleton_self id
    cases hpolled with
    | joined _ howed hpermit =>
      exact ⟨⟨by simp [hunpolled], by simp [hline], howed, hpermit⟩, rfl, rfl⟩
    | owed => exact absurd rfl hready
    | permitted => exact absurd rfl hready
    | notified hlater => exact absurd rfl hready
    | still hlater => exact absurd hfirst hlater
    | unknown hlater => exact absurd hfirst hlater
  | standing hstanding =>
    obtain ⟨hunpolled, notified, hline, hstimulus⟩ := hstanding
    have hlater : id ∉ p.unpolled := hunpolled ▸ List.not_mem_nil
    have hfind : p.line.find? (·.id = id) = some ⟨id, notified⟩ := by simp [hline]
    cases hpolled with
    | owed => exact absurd rfl hready
    | permitted => exact absurd rfl hready
    | joined hfirst => exact absurd hfirst hlater
    | notified => exact absurd rfl hready
    | still _ w hw hnotified =>
      obtain rfl : (⟨id, notified⟩ : Waiter) = w := Option.some.inj (hfind.symm.trans hw)
      obtain rfl : notified = false := hnotified
      have hnone : ¬ (p.owed = true ∨ p.permit = true) := fun hs ↦ by simpa using hstimulus hs
      rw [not_or, Bool.not_eq_true, Bool.not_eq_true] at hnone
      exact ⟨⟨hunpolled, hline, hnone.1, hnone.2⟩, rfl, rfl⟩
    | unknown _ hw => rw [hfind] at hw; cases hw

/-- The only waiter leaves nobody behind. -/
theorem Sole.leave (h : p.Sole id) :
    (p.leave id).2.Vacant ∧ (p.leave id).2.owed = p.owed ∧ (p.leave id).2.stats = p.stats := by
  have hleft := p.left id
  generalize (p.leave id).2 = q at hleft ⊢
  cases h with
  | fresh hunpolled hline =>
    have hfind : p.line.find? (·.id = id) = none := by simp [hline]
    cases hleft with
    | notified w hw => rw [hfind] at hw; cases hw
    | waiting w hw => rw [hfind] at hw; cases hw
    | absent => exact ⟨⟨by simp [hunpolled], hline⟩, rfl, rfl⟩
  | standing hstanding =>
    obtain ⟨hunpolled, notified, hline, hstimulus⟩ := hstanding
    have hfind : p.line.find? (·.id = id) = some ⟨id, notified⟩ := by simp [hline]
    have hnobody : p.line.filter (·.id ≠ id) = [] := by simp [hline]
    cases hleft with
    | notified => 
      rw [hnobody]
      exact ⟨⟨hunpolled, rfl⟩, rfl, rfl⟩
    | waiting => exact ⟨⟨hunpolled, hnobody⟩, rfl, rfl⟩
    | absent hw => rw [hfind] at hw; cases hw

end DeferredLog.Pending
