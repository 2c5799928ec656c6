import DeferredLog.Pending
import Mathlib.Data.List.Nodup

/-!
# The line of waiters

What the operations on owed work do to the line, said once. A notification goes to someone who
stands there unnotified or is left as the permit (`notified_or_permit_notify`); a poll has six
outcomes (`Polled`), a departure three (`Left`).

Two facts hold at all times. `Numbered`: no number is given twice, so a waiter who leaves takes
nobody else's notification along. `Unpermitted`: while the permit lies there, nobody stands in line
unnotified. A third, `Unowed`, says the same of an owed drain; a request keeps it only if at most
one waiter stands in line (`Unowed.schedule`), for it wakes only one.
-/

namespace DeferredLog.Pending

variable {p : Pending} {id : ℕ}

/-! ### Notifications -/

/-- The line after its waiters of the given number were notified. -/
def notifyIn (line : List Waiter) (id : ℕ) : List Waiter :=
  line.map fun w ↦ if w.id = id then { w with notified := true } else w

@[simp] theorem map_id_notifyIn (line : List Waiter) (id : ℕ) :
    (notifyIn line id).map (·.id) = line.map (·.id) := by
  rw [notifyIn, List.map_map]
  refine List.map_congr_left fun w _ ↦ ?_
  show (if w.id = id then { w with notified := true } else w).id = w.id
  split <;> rfl

/-- A notification finds the first who stands in line unnotified, or nobody does and it stays. -/
theorem notify_cases (p : Pending) :
    (∃ w ∈ p.line, w.notified = false ∧
      p.notify = (some w.id, { p with line := notifyIn p.line w.id })) ∨
    ((∀ w ∈ p.line, w.notified = true) ∧ p.notify = (none, { p with permit := true })) := by
  unfold notify
  cases hfind : p.line.find? (!·.notified) with
  | some w =>
    have hw : w.notified = false := by simpa using List.find?_some hfind
    exact Or.inl ⟨w, List.mem_of_find?_eq_some hfind, hw, rfl⟩
  | none =>
    refine Or.inr ⟨fun w hw ↦ ?_, rfl⟩
    simpa using List.find?_eq_none.1 hfind w hw

/-- A notification leaves a mark: the permit, or a notified waiter. -/
theorem notified_or_permit_notify (p : Pending) :
    p.notify.2.permit = true ∨ ∃ w ∈ p.notify.2.line, w.notified = true := by
  obtain ⟨w, hw, -, hnotify⟩ | ⟨-, hnotify⟩ := p.notify_cases
  · rw [hnotify]
    exact Or.inr ⟨{ w with notified := true }, List.mem_map.2 ⟨w, hw, if_pos rfl⟩, rfl⟩
  · rw [hnotify]
    exact Or.inl rfl

@[simp] theorem map_id_line_notify (p : Pending) :
    p.notify.2.line.map (·.id) = p.line.map (·.id) := by
  obtain ⟨w, -, -, hnotify⟩ | ⟨-, hnotify⟩ := p.notify_cases
  · rw [hnotify]
    exact map_id_notifyIn p.line w.id
  · rw [hnotify]

theorem owed_notify (p : Pending) : p.notify.2.owed = p.owed := by
  obtain ⟨w, -, -, hnotify⟩ | ⟨-, hnotify⟩ := p.notify_cases <;> rw [hnotify]

theorem stats_notify (p : Pending) : p.notify.2.stats = p.stats := by
  obtain ⟨w, -, -, hnotify⟩ | ⟨-, hnotify⟩ := p.notify_cases <;> rw [hnotify]

theorem unpolled_notify (p : Pending) : p.notify.2.unpolled = p.unpolled := by
  obtain ⟨w, -, -, hnotify⟩ | ⟨-, hnotify⟩ := p.notify_cases <;> rw [hnotify]

theorem created_notify (p : Pending) : p.notify.2.created = p.created := by
  obtain ⟨w, -, -, hnotify⟩ | ⟨-, hnotify⟩ := p.notify_cases <;> rw [hnotify]

/-! ### Requests -/

/-- The state in which a request that is not coalesced notifies. -/
def queue (p : Pending) : Pending :=
  { p with owed := true, stats.queued := p.stats.queued + 1 }

theorem schedule_of_owed (h : p.owed = true) :
    p.schedule = ⟨.coalesced, none, { p with stats.coalesced := p.stats.coalesced + 1 }⟩ := by
  rw [schedule, if_pos h]

theorem schedule_of_not_owed (h : p.owed = false) :
    p.schedule = ⟨.queued, p.queue.notify.1, p.queue.notify.2⟩ := by
  rw [schedule, if_neg (Bool.eq_false_iff.1 h)]
  rfl

/-- A request leaves a drain owed. -/
@[simp] theorem owed_schedule (p : Pending) : p.schedule.pending.owed = true := by
  cases h : p.owed with
  | true =>
    rw [schedule_of_owed h]
    exact h
  | false =>
    rw [schedule_of_not_owed h]
    exact owed_notify p.queue

/-! ### Polls and departures -/

/-- What a poll of the waiter with the given number can answer and leave. -/
inductive Polled (p : Pending) (id : ℕ) : Readiness → Pending → Prop
  /-- A first poll, and a drain is owed: nothing else is touched. -/
  | owed (hfirst : id ∈ p.unpolled) (howed : p.owed = true) :
      Polled p id .ready { p with unpolled := p.unpolled.filter (· ≠ id) }
  /-- A first poll consumes the permit. -/
  | permitted (hfirst : id ∈ p.unpolled) (howed : p.owed = false) (hpermit : p.permit = true) :
      Polled p id .ready { p with unpolled := p.unpolled.filter (· ≠ id), permit := false }
  /-- A first poll joins the line at its end. -/
  | joined (hfirst : id ∈ p.unpolled) (howed : p.owed = false) (hpermit : p.permit = false) :
      Polled p id .waiting
        { p with unpolled := p.unpolled.filter (· ≠ id), line := p.line ++ [⟨id, false⟩] }
  /-- A notified waiter is ready, whether or not a drain is owed. -/
  | notified (hlater : id ∉ p.unpolled) (w : Waiter) (hw : p.line.find? (·.id = id) = some w)
      (hnotified : w.notified = true) :
      Polled p id .ready { p with line := p.line.filter (·.id ≠ id) }
  | still (hlater : id ∉ p.unpolled) (w : Waiter) (hw : p.line.find? (·.id = id) = some w)
      (hnotified : w.notified = false) : Polled p id .waiting p
  | unknown (hlater : id ∉ p.unpolled) (hw : p.line.find? (·.id = id) = none) :
      Polled p id .finished p

theorem polled (p : Pending) (id : ℕ) : Polled p id (p.poll id).1 (p.poll id).2 := by
  unfold poll
  by_cases hfirst : id ∈ p.unpolled
  · rw [if_pos (List.contains_iff_mem.2 hfirst)]
    dsimp only
    by_cases howed : p.owed = true
    · rw [if_pos howed]
      exact .owed hfirst howed
    · rw [if_neg howed]
      rw [Bool.not_eq_true] at howed
      by_cases hpermit : p.permit = true
      · rw [if_pos hpermit]
        exact .permitted hfirst howed hpermit
      · rw [if_neg hpermit]
        exact .joined hfirst howed (Bool.not_eq_true _ ▸ hpermit)
  · rw [if_neg fun h ↦ hfirst (List.contains_iff_mem.1 h)]
    cases hw : p.line.find? (·.id = id) with
    | none => exact .unknown hfirst hw
    | some w =>
      dsimp only
      by_cases hnotified : w.notified = true
      · rw [if_pos hnotified]
        exact .notified hfirst w hw hnotified
      · rw [if_neg hnotified]
        exact .still hfirst w hw (Bool.not_eq_true _ ▸ hnotified)

/-- What the departure of the waiter with the given number can leave. -/
inductive Left (p : Pending) (id : ℕ) : Pending → Prop
  /-- A notified waiter passes the notification on. -/
  | notified (w : Waiter) (hw : p.line.find? (·.id = id) = some w) (hnotified : w.notified = true) :
      Left p id { p with line := p.line.filter (·.id ≠ id) }.notify.2
  | waiting (w : Waiter) (hw : p.line.find? (·.id = id) = some w)
      (hnotified : w.notified = false) : Left p id { p with line := p.line.filter (·.id ≠ id) }
  | absent (hw : p.line.find? (·.id = id) = none) :
      Left p id { p with unpolled := p.unpolled.filter (· ≠ id) }

theorem left (p : Pending) (id : ℕ) : Left p id (p.leave id).2 := by
  unfold leave
  cases hw : p.line.find? (·.id = id) with
  | none => exact .absent hw
  | some w =>
    dsimp only
    by_cases hnotified : w.notified = true
    · rw [if_pos hnotified]
      exact .notified w hw hnotified
    · rw [if_neg hnotified]
      exact .waiting w hw (Bool.not_eq_true _ ▸ hnotified)

/-! ### Numbers -/

/-- No number is given twice, and the next is new. -/
structure Numbered (p : Pending) : Prop where
  nodup : (p.line.map (·.id) ++ p.unpolled).Nodup
  lt_created : ∀ id ∈ p.line.map (·.id) ++ p.unpolled, id < p.created

/-- Numbers that were given before stay distinct when some go. -/
theorem Numbered.sublist {q : Pending} (h : p.Numbered)
    (hids : (q.line.map (·.id) ++ q.unpolled).Sublist (p.line.map (·.id) ++ p.unpolled))
    (hcreated : q.created = p.created) : q.Numbered where
  nodup := h.nodup.sublist hids
  lt_created := fun id hid ↦ hcreated ▸ h.lt_created id (hids.subset hid)

theorem Numbered.notify (h : p.Numbered) : p.notify.2.Numbered := by
  refine h.sublist ?_ p.created_notify
  rw [map_id_line_notify, unpolled_notify]

theorem Numbered.schedule (h : p.Numbered) : p.schedule.pending.Numbered := by
  cases howed : p.owed with
  | true =>
    rw [schedule_of_owed howed]
    exact ⟨h.nodup, h.lt_created⟩
  | false =>
    have hqueue : p.queue.Numbered := ⟨h.nodup, h.lt_created⟩
    rw [schedule_of_not_owed howed]
    exact hqueue.notify

theorem Numbered.wait (h : p.Numbered) : p.wait.2.Numbered := by
  have hnew : p.created ∉ p.line.map (·.id) ++ p.unpolled :=
    fun hmem ↦ Nat.lt_irrefl _ (h.lt_created _ hmem)
  have hids : (p.line.map (·.id) ++ p.created :: p.unpolled).Perm
      (p.created :: (p.line.map (·.id) ++ p.unpolled)) := List.perm_middle
  refine ⟨hids.nodup_iff.2 (List.nodup_cons.2 ⟨hnew, h.nodup⟩), fun id hid ↦ ?_⟩
  rcases List.mem_cons.1 (hids.mem_iff.1 hid) with rfl | hold
  · exact Nat.lt_succ_self _
  · exact Nat.lt_succ_of_lt (h.lt_created id hold)

theorem map_id_filter_sublist (line : List Waiter) (id : ℕ) :
    ((line.filter (·.id ≠ id)).map (·.id)).Sublist (line.map (·.id)) :=
  List.filter_sublist.map _

theorem Numbered.poll (h : p.Numbered) (id : ℕ) : (p.poll id).2.Numbered := by
  have hpolled := p.polled id
  generalize (p.poll id).1 = answer, (p.poll id).2 = q at hpolled ⊢
  cases hpolled with
  | owed => exact h.sublist (List.filter_sublist.append_left _) rfl
  | permitted => exact h.sublist (List.filter_sublist.append_left _) rfl
  | joined hfirst =>
    have hrest : p.unpolled.erase id = p.unpolled.filter (· ≠ id) := by
      rw [(List.nodup_append.1 h.nodup).2.1.erase_eq_filter]
      exact List.filter_congr fun i _ ↦ decide_not.symm
    -- the number moves from the unpolled to the end of the line
    have hids : (p.line.map (·.id) ++ p.unpolled).Perm
        ((p.line ++ [(⟨id, false⟩ : Waiter)]).map (·.id) ++ p.unpolled.filter (· ≠ id)) := by
      rw [List.map_append, List.append_assoc]
      refine List.Perm.append_left _ ?_
      rw [← hrest]
      exact List.perm_cons_erase hfirst
    exact ⟨hids.nodup_iff.1 h.nodup, fun i hi ↦ h.lt_created i (hids.mem_iff.2 hi)⟩
  | notified => exact h.sublist ((map_id_filter_sublist p.line id).append_right _) rfl
  | still => exact h
  | unknown => exact h

theorem Numbered.leave (h : p.Numbered) (id : ℕ) : (p.leave id).2.Numbered := by
  have hleft := p.left id
  have hfiltered : Numbered { p with line := p.line.filter (·.id ≠ id) } :=
    h.sublist ((map_id_filter_sublist p.line id).append_right _) rfl
  generalize (p.leave id).2 = q at hleft ⊢
  cases hleft with
  | notified => exact hfiltered.notify
  | waiting => exact hfiltered
  | absent => exact h.sublist (List.filter_sublist.append_left _) rfl

/-- Who is found in line by a number is the only one of it. -/
theorem Numbered.eq_of_find? (h : p.Numbered) {v w : Waiter}
    (hw : p.line.find? (·.id = id) = some w) (hv : v ∈ p.line) (hid : v.id = id) : v = w := by
  have hnodup : (p.line.map (·.id)).Nodup := (List.nodup_append.1 h.nodup).1
  have hwid : w.id = id := by simpa using List.find?_some hw
  exact List.inj_on_of_nodup_map hnodup hv (List.mem_of_find?_eq_some hw) (hid.trans hwid.symm)

/-! ### Who stands in line -/

/-- While the permit lies there, nobody stands in line unnotified. -/
def Unpermitted (p : Pending) : Prop :=
  p.permit = true → ∀ w ∈ p.line, w.notified = true

/-- While a drain is owed, nobody stands in line unnotified. -/
def Unowed (p : Pending) : Prop :=
  p.owed = true → ∀ w ∈ p.line, w.notified = true

theorem Unpermitted.notify (h : p.Unpermitted) : p.notify.2.Unpermitted := by
  intro hpermit
  obtain ⟨w, hw, hnotified, hnotify⟩ | ⟨hall, hnotify⟩ := p.notify_cases
  · rw [hnotify] at hpermit
    exact absurd (h hpermit w hw) (Bool.eq_false_iff.1 hnotified)
  · rw [hnotify]
    exact hall

theorem Unpermitted.schedule (h : p.Unpermitted) : p.schedule.pending.Unpermitted := by
  cases howed : p.owed with
  | true =>
    rw [schedule_of_owed howed]
    exact h
  | false =>
    have hqueue : p.queue.Unpermitted := h
    rw [schedule_of_not_owed howed]
    exact hqueue.notify

theorem Unpermitted.poll (h : p.Unpermitted) (id : ℕ) : (p.poll id).2.Unpermitted := by
  have hpolled := p.polled id
  generalize (p.poll id).1 = answer, (p.poll id).2 = q at hpolled ⊢
  cases hpolled with
  | owed => exact h
  | permitted => exact nofun
  | joined hfirst howed hpermit => exact fun hp ↦ absurd hp (Bool.eq_false_iff.1 hpermit)
  | notified => exact fun hp v hv ↦ h hp v (List.mem_filter.1 hv).1
  | still => exact h
  | unknown => exact h

theorem Unpermitted.leave (h : p.Unpermitted) (id : ℕ) : (p.leave id).2.Unpermitted := by
  have hleft := p.left id
  have hfiltered : Unpermitted { p with line := p.line.filter (·.id ≠ id) } :=
    fun hp v hv ↦ h hp v (List.mem_filter.1 hv).1
  generalize (p.leave id).2 = q at hleft ⊢
  cases hleft with
  | notified => exact hfiltered.notify
  | waiting => exact hfiltered
  | absent => exact h

/-- A notification reaches the only one in line. -/
theorem notified_of_length_le (h : p.line.length ≤ 1) :
    ∀ w ∈ p.notify.2.line, w.notified = true := by
  obtain ⟨w, hw, -, hnotify⟩ | ⟨hall, hnotify⟩ := p.notify_cases
  · rw [hnotify]
    obtain ⟨v, hv⟩ : ∃ v, p.line = [v] :=
      List.length_eq_one_iff.1 (Nat.le_antisymm h (List.length_pos_of_mem hw))
    obtain rfl : w = v := by simpa [hv] using hw
    simp [notifyIn, hv]
  · rw [hnotify]
    exact hall

theorem Unowed.schedule (h : p.Unowed) (hlength : p.line.length ≤ 1) :
    p.schedule.pending.Unowed := by
  cases howed : p.owed with
  | true =>
    rw [schedule_of_owed howed]
    exact fun _ ↦ h howed
  | false =>
    rw [schedule_of_not_owed howed]
    exact fun _ ↦ notified_of_length_le (p := p.queue) hlength

theorem Unowed.poll (h : p.Unowed) (id : ℕ) : (p.poll id).2.Unowed := by
  have hpolled := p.polled id
  generalize (p.poll id).1 = answer, (p.poll id).2 = q at hpolled ⊢
  cases hpolled with
  | owed => exact h
  | permitted => exact h
  | joined hfirst howed => exact fun ho ↦ absurd ho (Bool.eq_false_iff.1 howed)
  | notified => exact fun ho v hv ↦ h ho v (List.mem_filter.1 hv).1
  | still => exact h
  | unknown => exact h

/-- One who leaves an otherwise empty line leaves nobody behind. -/
theorem Unowed.leave (h : p.Unowed) (hlength : p.line.length ≤ 1) (id : ℕ) :
    (p.leave id).2.Unowed := by
  have hleft := p.left id
  generalize (p.leave id).2 = q at hleft ⊢
  cases hleft with
  | notified =>
    exact fun _ ↦ notified_of_length_le (Nat.le_trans (List.length_filter_le ..) hlength)
  | waiting => exact fun ho v hv ↦ h ho v (List.mem_filter.1 hv).1
  | absent => exact h

end DeferredLog.Pending
