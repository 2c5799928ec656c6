import DeferredLog.Proofs.Cursor.Trail

/-!
# Where a seek leads

A seek adds an integer to where its origin lies now. `seek_eq` is the whole of it: the sum is the
new position if a word holds it, and otherwise the seek is refused and the cursor stays. The end
lies where the log ends at the time of the call, so a seek from there by `-k` finds the last `k`
bytes whatever was appended before (`seek_finish_neg`).

A stream seeks the same way from its position and from the end. From the start it names an offset as
a word without a sign, and here the two differ (`seekStream_start_eq`): the offset goes through a
signed word, so the upper half of the words is refused. Seeks from the position and from the end do
reach that half, and what was reached there cannot be returned to by its offset
(`not_returned_of_upper_half`).

No reading and no seek leads beyond the largest word (`Trail.position_le_run`).
-/

namespace DeferredLog

namespace Cursor

variable {c : Cursor} {b : Buffer}

/-! ### Seeks -/

/-- A seek leads to the sum of origin and offset if a word holds it. Otherwise it is refused and
moves nothing. -/
theorem seek_eq {offset : ℤ} {base : Origin} {sum : ℤ}
    (h : (c.origin b base : ℤ) + offset = sum) :
    c.seek b offset base =
      if 0 ≤ sum ∧ sum ≤ wordMax then (.ok sum.toNat, ⟨sum.toNat⟩)
      else
        (.error (.invalidArgument
          (if sum < 0 then SeekFault.negative sum base offset else .overflow sum).message), c) := by
  subst h
  by_cases hnegative : (c.origin b base : ℤ) + offset < 0
  · have htarget : c.target b offset base = .error (.negative _ base offset) := if_pos hnegative
    rw [seek_of_target_eq_error htarget, if_neg (by omega), if_pos hnegative]
    rfl
  by_cases hlarge : (wordMax : ℤ) < (c.origin b base : ℤ) + offset
  · have htarget : c.target b offset base = .error (.overflow _) :=
      (if_neg hnegative).trans (if_pos hlarge)
    rw [seek_of_target_eq_error htarget, if_neg (by omega), if_neg hnegative]
    rfl
  · have htarget : c.target b offset base = .ok (Int.toNat _) :=
      (if_neg hnegative).trans (if_neg hlarge)
    rw [seek_of_target_eq_ok htarget, if_pos (by omega)]

theorem seek_of_le {offset : ℤ} {base : Origin} {position : ℕ}
    (h : (c.origin b base : ℤ) + offset = position) (hword : position ≤ wordMax) :
    c.seek b offset base = (.ok position, ⟨position⟩) := by
  rw [seek_eq h, if_pos (by omega), Int.toNat_natCast]

/-- A stream counts from its position and from the end as any seek does. -/
theorem seekStream_current (offset : ℤ) :
    c.seekStream b (.current offset) =
      ((c.seek b offset .current).1.mapError StreamFault.ofFailure,
        (c.seek b offset .current).2) := rfl

theorem seekStream_finish (offset : ℤ) :
    c.seekStream b (.finish offset) =
      ((c.seek b offset .finish).1.mapError StreamFault.ofFailure,
        (c.seek b offset .finish).2) := rfl

/-- From the start a stream reaches what a signed word can name, and nothing above. -/
theorem seekStream_start_eq (offset : ℕ) :
    c.seekStream b (.start offset) =
      if offset ≤ streamMax then (.ok offset, ⟨offset⟩)
      else
        (.error ⟨.invalidInput, s!"Invalid argument: seek offset {(offset : ℤ)} overflows"⟩, c) := by
  have hwords : streamMax ≤ wordMax := by decide
  by_cases hlow : offset ≤ streamMax
  · have hseek : c.seek b offset .start = (.ok offset, ⟨offset⟩) :=
      seek_of_le (Int.zero_add _) (Nat.le_trans hlow hwords)
    unfold seekStream
    dsimp only
    rw [if_neg (Nat.not_lt.2 hlow), if_pos hlow, hseek]
    rfl
  · unfold seekStream
    dsimp only
    rw [if_pos (Nat.not_le.1 hlow), if_neg hlow]
    rfl

/-- What is read behind a seek to `k` bytes before the end is the last `k` bytes. -/
theorem seek_finish_neg (h : b.Sound) {k len : ℕ} (hword : b.committed ≤ wordMax)
    (hk : k ≤ b.committed) (hlen : k ≤ len) :
    c.seek b (-k) .finish = (.ok (b.committed - k), ⟨b.committed - k⟩) ∧
      (c.seek b (-k) .finish).2.read b len =
        (b.contents.extract (b.committed - k) b.committed, ⟨b.committed⟩) := by
  have hseek : c.seek b (-k) .finish = (.ok (b.committed - k), ⟨b.committed - k⟩) := by
    refine seek_of_le ?_ (Nat.le_trans (Nat.sub_le _ _) hword)
    show (b.committed : ℤ) + -k = _
    omega
  refine ⟨hseek, ?_⟩
  have hleft : b.contents.size - (b.committed - k) ≤ len := by
    rw [h.committed_eq] at hk ⊢
    omega
  rw [hseek, read_eq_read hleft (Nat.le_refl _), read_eq, Nat.min_self, ← h.committed_eq,
    Nat.add_sub_cancel' (Nat.sub_le _ _)]

/-! ### Positions are words -/

/-- Nothing that a reader does leads beyond the largest word. -/
theorem position_follow_le (hword : c.position ≤ wordMax) (hlog : b.contents.size ≤ wordMax)
    (r : Reading) : (c.follow b r).position ≤ wordMax := by
  have hseek (offset : ℤ) (base : Origin) : (c.seek b offset base).2.position ≤ wordMax := by
    rw [seek_eq rfl]
    split
    · next hsum =>
      show Int.toNat _ ≤ wordMax
      omega
    · exact hword
  cases hr : r.isSeek with
  | false =>
    rw [follow_eq hr, size_taken]
    show c.position + min _ (b.contents.size - c.position) ≤ wordMax
    omega
  | true =>
    cases r with
    | read len | readRemaining | readInto target | readExact len | readText => cases hr
    | seek offset base => exact hseek offset base
    | seekStream position =>
      cases position with
      | current offset => exact hseek offset .current
      | finish offset => exact hseek offset .finish
      | start offset =>
        have hwords : streamMax ≤ wordMax := by decide
        show (c.seekStream b (.start offset)).2.position ≤ wordMax
        rw [seekStream_start_eq]
        split
        · next hlow => exact Nat.le_trans hlow hwords
        · exact hword

end Cursor

namespace Trail

variable {b : Buffer} {initial maxEntry : ℕ} {ceiling : Option ℕ}

theorem position_le_run (h : Buffer.allocate initial maxEntry ceiling = .ok b) {t : Trail}
    {steps : List Buffer.Step} (hlog : t.log = b.run steps) (hword : t.cursor.position ≤ wordMax)
    (events : List Event) : (t.run events).cursor.position ≤ wordMax := by
  induction events generalizing t steps with
  | nil => exact hword
  | cons e rest ih =>
    cases e with
    | log s =>
      have hnext : (t.step (.log s)).log = b.run (steps ++ [s]) := by
        rw [Buffer.run_append, ← hlog]
        rfl
      exact ih hnext hword
    | reading r =>
      have hlt := Buffer.committed_lt_run h steps
      have hwords : addressSpace ≤ wordMax := by decide
      refine ih (t := t.step (.reading r)) hlog (Cursor.position_follow_le hword ?_ r)
      rw [hlog, ← ((Buffer.sound_of_allocate h).run steps).committed_eq]
      omega

/-! ### The main results -/

/-- A reader of any log, after whatever was read, sought and appended. A seek by any offset from any
origin, the end being where the log ends now, leads exactly to their sum if a word holds it; if not
it is refused as an invalid argument and the cursor stays. As a stream it does the same from its
position and from the end. In particular a seek to `k` bytes before the end and a reading of no less
give the last `k` bytes and leave the cursor at the end. -/
theorem seek_exact (h : Buffer.allocate initial maxEntry ceiling = .ok b)
    (before : List Buffer.Step) {start : ℕ} (hstart : start ≤ wordMax) (events : List Event) :
    let t := ({ log := b.run before, cursor := ⟨start⟩ } : Trail).run events
    t.cursor.position ≤ wordMax ∧
    (∀ (offset : ℤ) (base : Origin),
      let origin : ℕ :=
        match base with
        | .start => 0
        | .current => t.cursor.position
        | .finish => t.log.contents.size
      let sum := (origin : ℤ) + offset
      t.cursor.seek t.log offset base =
        if 0 ≤ sum ∧ sum ≤ wordMax then (.ok sum.toNat, ⟨sum.toNat⟩)
        else
          (.error (.invalidArgument
            (if sum < 0 then SeekFault.negative sum base offset else .overflow sum).message),
            t.cursor)) ∧
    (∀ offset : ℤ,
      t.cursor.seekStream t.log (.current offset) =
        ((t.cursor.seek t.log offset .current).1.mapError StreamFault.ofFailure,
          (t.cursor.seek t.log offset .current).2) ∧
      t.cursor.seekStream t.log (.finish offset) =
        ((t.cursor.seek t.log offset .finish).1.mapError StreamFault.ofFailure,
          (t.cursor.seek t.log offset .finish).2)) ∧
    ∀ k len : ℕ, k ≤ t.log.committed → k ≤ len →
      t.cursor.seek t.log (-k) .finish =
        (.ok (t.log.committed - k), ⟨t.log.committed - k⟩) ∧
      (t.cursor.seek t.log (-k) .finish).2.read t.log len =
        (t.log.contents.extract (t.log.committed - k) t.log.committed, ⟨t.log.committed⟩) := by
  intro t
  have hlog : t.log = b.run (before ++ events.filterMap Event.step?) :=
    (log_run _ events).trans (Buffer.run_append b before _).symm
  have hsound : t.log.Sound := hlog ▸ (Buffer.sound_of_allocate h).run _
  have hcommitted : t.log.committed ≤ wordMax := by
    have hlt := Buffer.committed_lt_run h (before ++ events.filterMap Event.step?)
    have hwords : addressSpace ≤ wordMax := by decide
    rw [hlog]
    omega
  refine ⟨position_le_run h rfl hstart events, fun offset base ↦ ?_,
    fun offset ↦ ⟨Cursor.seekStream_current offset, Cursor.seekStream_finish offset⟩,
    fun k len hk hlen ↦ Cursor.seek_finish_neg hsound hcommitted hk hlen⟩
  cases base with
  | start => exact Cursor.seek_eq rfl
  | current => exact Cursor.seek_eq rfl
  | finish =>
    -- the end is looked up where it is published
    dsimp only
    rw [← hsound.committed_eq]
    exact Cursor.seek_eq rfl

/-- A reader at the largest word goes nowhere by one more, nor by a way back that is longer than the
log. Four bytes were appended, and it finds the last two. -/
theorem seek_exact_of_largest_word :
    let events : List Event := [.log (.append ⟨#[1, 2, 3]⟩), .reading (.seek 1 .current),
      .log (.append ⟨#[4]⟩)]
    ∃ b, Buffer.allocate 2 8 none = .ok b ∧ wordMax ≤ wordMax ∧
      let t := ({ log := b, cursor := ⟨wordMax⟩ } : Trail).run events
      t.cursor = ⟨wordMax⟩ ∧
      t.cursor.seek t.log 1 .current =
        (.error (.invalidArgument "seek offset 18446744073709551616 overflows"), t.cursor) ∧
      t.cursor.seekStream t.log (.finish (-5)) =
        (.error ⟨.invalidInput, "Invalid argument: seek to negative offset -1 (End -5)"⟩,
          t.cursor) ∧
      (t.cursor.seek t.log (-2) .finish).2.read t.log 9 = (⟨#[3, 4]⟩, ⟨4⟩) := by
  intro events
  obtain ⟨b, hb⟩ : ∃ b, Buffer.allocate 2 8 none = .ok b := ⟨_, rfl⟩
  obtain ⟨-, -, rfl⟩ := Buffer.allocate_eq_ok_iff.1 hb
  refine ⟨_, hb, Nat.le_refl _, ?_⟩
  intro t
  obtain ⟨-, hseek, hstream, htail⟩ := seek_exact hb [] (Nat.le_refl wordMax) events
  have hplace : t.cursor = ⟨wordMax⟩ := by decide +kernel
  have hbeyond := hseek 1 .current
  have hbefore := hseek (-5) .finish
  dsimp only at hbeyond hbefore
  rw [if_neg (by decide +kernel), if_neg (by decide +kernel)] at hbeyond
  rw [if_neg (by decide +kernel), if_pos (by decide +kernel)] at hbefore
  refine ⟨hplace, hbeyond.trans ?_, ?_, ?_⟩
  · exact congrArg (fun reason ↦ (Except.error (Failure.invalidArgument reason), t.cursor))
      (by decide +kernel)
  · refine (hstream (-5)).2.trans ?_
    rw [hbefore]
    exact congrArg (fun message ↦ (Except.error (StreamFault.mk .invalidInput message), t.cursor))
      (by decide +kernel)
  · exact (htail 2 9 (by decide +kernel) (by decide)).2.trans (by decide +kernel)

/-- A reader keeps its position, goes on in whatever ways, and then seeks the kept offset from the
start as a stream. It returns there exactly if a signed word holds the offset, or if it stands there
anyway; otherwise the seek is refused and the cursor stays. -/
theorem returned_iff (h : Buffer.allocate initial maxEntry ceiling = .ok b)
    (before : List Buffer.Step) {start : ℕ} (hstart : start ≤ wordMax)
    (events later : List Event) :
    let t := ({ log := b.run before, cursor := ⟨start⟩ } : Trail).run events
    let u := t.run later
    t.cursor.position ≤ wordMax ∧
    (∀ offset : ℕ, u.cursor.seekStream u.log (.start offset) =
      if offset ≤ Cursor.streamMax then (.ok offset, ⟨offset⟩)
      else
        (.error ⟨.invalidInput, s!"Invalid argument: seek offset {(offset : ℤ)} overflows"⟩,
          u.cursor)) ∧
    ((u.cursor.seekStream u.log (.start t.cursor.position)).2 = t.cursor ↔
      t.cursor.position ≤ Cursor.streamMax ∨ u.cursor = t.cursor) := by
  intro t u
  refine ⟨position_le_run h rfl hstart events, fun offset ↦ Cursor.seekStream_start_eq offset, ?_⟩
  rw [Cursor.seekStream_start_eq]
  split
  · next hlow => exact iff_of_true rfl (Or.inl hlow)
  · next hhigh => exact (or_iff_right hhigh).symm

/-- A reader keeps position one, reads on and leaves the log far behind. It returns to what it kept,
and is refused the first offset that no signed word holds. -/
theorem returned_iff_of_one :
    let before : List Buffer.Step := [.append ⟨#[1, 2, 3]⟩]
    let later : List Event := [.reading .readRemaining, .reading (.seek Cursor.streamMax .current)]
    ∃ b, Buffer.allocate 2 8 none = .ok b ∧ 0 ≤ wordMax ∧
      let t := ({ log := b.run before, cursor := ⟨0⟩ } : Trail).run [.reading (.read 1)]
      let u := t.run later
      t.cursor = ⟨1⟩ ∧ u.cursor.position = Cursor.streamMax + 3 ∧
      (u.cursor.seekStream u.log (.start 1)).2 = t.cursor ∧
      (u.cursor.seekStream u.log (.start (Cursor.streamMax + 1))).2 = u.cursor := by
  intro before later
  obtain ⟨b, hb⟩ : ∃ b, Buffer.allocate 2 8 none = .ok b := ⟨_, rfl⟩
  obtain ⟨-, -, rfl⟩ := Buffer.allocate_eq_ok_iff.1 hb
  refine ⟨_, hb, Nat.zero_le _, ?_⟩
  obtain ⟨-, hstream, hreturned⟩ :=
    returned_iff hb before (Nat.zero_le wordMax) [.reading (.read 1)] later
  intro t u
  have hkept : t.cursor = ⟨1⟩ := by decide +kernel
  have hleft : u.cursor.position = Cursor.streamMax + 3 := by decide +kernel
  have hreturns := hreturned.2 (Or.inl (by rw [hkept]; decide))
  rw [hkept] at hreturns
  refine ⟨hkept, hleft, hreturns.trans hkept.symm, ?_⟩
  rw [hstream, if_neg (Nat.not_succ_le_self Cursor.streamMax)]

/-- As a stream a reader goes as far as it can from the start and one byte further, keeps that
position, goes back to the start, and is refused the way to the position it kept. -/
theorem not_returned_of_upper_half :
    let b : Buffer := { contents := .empty, capacity := 8, maxEntry := 64, ceiling := none }
    let t := ({ log := b, cursor := {} } : Trail).run
      [.reading (.seekStream (.start Cursor.streamMax)), .reading (.seekStream (.current 1))]
    let u := t.run [.reading (.seekStream (.start 0))]
    Buffer.allocate 8 64 none = .ok b ∧ t.cursor.position = 2 ^ 63 ∧ 2 ^ 63 ≤ wordMax ∧
      u.cursor.seekStream u.log (.start t.cursor.position) =
        (.error ⟨.invalidInput, "Invalid argument: seek offset 9223372036854775808 overflows"⟩,
          ⟨0⟩) := by
  intro b t u
  have hplace : t.cursor.position = 2 ^ 63 := by decide +kernel
  have hstart : u.cursor = ⟨0⟩ := by decide +kernel
  refine ⟨rfl, hplace, by decide, ?_⟩
  rw [Cursor.seekStream_start_eq, hplace, hstart, if_neg (by decide)]
  exact congrArg
    (fun message ↦ (Except.error (StreamFault.mk .invalidInput message), (⟨0⟩ : Cursor)))
    (by decide +kernel)

end Trail

end DeferredLog
