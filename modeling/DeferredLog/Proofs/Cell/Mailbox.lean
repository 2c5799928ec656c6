import DeferredLog.Proofs.Draft.Cut

/-!
# What the cell holds and what went through it

The cell as a mailbox. Its two numbers are machine words, and what they tell is the difference
between them: `Behind c n` says that `n` publications have gone by since the last take. As long as
`n` stays below half the words, the difference is zero exactly when `n` is
(`Behind.hasPending_iff`), however often the words have wrapped around.

* `Holds c since` compares the cell with the list of all entries published since the last take,
  latest first. What waits is the head of that list, cut to the room of the cell (`Holds.peek_eq`);
  a publication puts an entry in front (`Holds.publish`) and a take leaves none (`holds_take`).
* `Balanced c taken` is the cell's own ledger: what was published was superseded, taken or waits.
  It needs `Behind` and nothing about the entries. `Accounted` is the same under the bound on
  publications, which makes it an invariant of runs of any length.
-/

namespace DeferredLog.Cell

variable {c : Cell} {n taken : ℕ} {since : List ByteArray}

/-! ### The two numbers -/

/-- The numbers of the cell are `n` publications apart. -/
def Behind (c : Cell) (n : ℕ) : Prop :=
  c.seq = c.drained + 2 * UInt64.ofNat n

theorem behind_empty (capacity : ℕ) : (empty capacity).Behind 0 := rfl

/-- The numbers tell whether anything was published, if not half the words went by. -/
theorem Behind.hasPending_iff (h : c.Behind n) (hn : n < 2 ^ 63) : c.hasPending = true ↔ n ≠ 0 := by
  have hdrained := c.drained.toNat_lt
  have hgap : (2 * UInt64.ofNat n).toNat = 2 * n := by
    rw [UInt64.toNat_mul, UInt64.toNat_ofNat', show (2 : UInt64).toNat = 2 from rfl]
    omega
  rw [hasPending, h, bne_iff_ne, Ne, ← UInt64.toNat_inj, UInt64.toNat_add, hgap]
  omega

theorem Behind.publish (h : c.Behind n) (entry : ByteArray) :
    (c.publish entry).2.Behind (n + 1) := by
  show c.seq + 2 = c.drained + 2 * UInt64.ofNat (n + 1)
  rw [h, UInt64.ofNat_add, UInt64.mul_add, UInt64.add_assoc]
  rfl

/-- A take gives what waits, and nothing has gone by after it. -/
theorem take_eq (c : Cell) : c.take = (c.peek, { c with drained := c.seq }) := by
  unfold take peek
  by_cases hp : c.hasPending = true
  · rw [if_pos hp]
  · have hsame : c.seq = c.drained := by simpa [hasPending] using hp
    rw [if_neg hp]
    exact congrArg (fun d ↦ ((none : Option ByteArray), { c with drained := d })) hsame.symm

theorem behind_take (c : Cell) : c.take.2.Behind 0 := by
  rw [take_eq]
  exact (UInt64.add_zero c.seq).symm

theorem isSome_peek (c : Cell) : c.peek.isSome = c.hasPending := by
  unfold peek
  cases c.hasPending <;> rfl

/-! ### What the operations leave alone -/

@[simp] theorem capacity_publish (c : Cell) (entry : ByteArray) :
    (c.publish entry).2.capacity = c.capacity := by
  rw [publish_eq_store]
  refine capacity_store ?_ _
  rw [Draft.size_cut]
  exact Nat.min_le_right _ _

@[simp] theorem capacity_take (c : Cell) : c.take.2.capacity = c.capacity := by
  rw [take_eq]
  rfl

@[simp] theorem stats_take (c : Cell) : c.take.2.stats = c.stats := by
  rw [take_eq]

/-! ### The mailbox -/

/-- The entries in `since`, latest first, are those published since the last take, and the slots
hold the latest of them as far as it fits. -/
structure Holds (c : Cell) (since : List ByteArray) : Prop where
  behind : c.Behind since.length
  slots_eq : ∀ entry ∈ since.head?,
    c.slots.extract 0 (min c.length c.capacity) = Draft.cut c.capacity entry

theorem holds_nil (h : c.Behind 0) : c.Holds [] where
  behind := h
  slots_eq := fun _ hentry ↦ by cases hentry

theorem Holds.publish (h : c.Holds since) (entry : ByteArray) :
    (c.publish entry).2.Holds (entry :: since) where
  behind := h.behind.publish entry
  slots_eq := by
    intro latest hlatest
    obtain rfl : entry = latest := Option.some.inj hlatest
    have hfits : (Draft.cut c.capacity entry).size ≤ c.capacity := by
      rw [Draft.size_cut]
      exact Nat.min_le_right _ _
    have hlength : (c.publish entry).2.length = (Draft.cut c.capacity entry).size := by
      rw [publish_eq_store]
      rfl
    rw [capacity_publish, Nat.min_eq_left (hlength ▸ hfits), publish_eq_store]
    -- a shorter entry leaves the tail of the one before it behind its own end
    exact extract_slots_store c _ _

theorem holds_take (c : Cell) : c.take.2.Holds [] :=
  holds_nil c.behind_take

theorem Holds.hasPending_eq (h : c.Holds since) (hn : since.length < 2 ^ 63) :
    c.hasPending = since.head?.isSome := by
  have hiff := h.behind.hasPending_iff hn
  cases since with
  | nil => exact Bool.eq_false_iff.2 fun hp ↦ hiff.1 hp rfl
  | cons entry rest => exact hiff.2 (Nat.succ_ne_zero rest.length)

/-- What waits is the latest entry, cut to the room of the cell. -/
theorem Holds.peek_eq (h : c.Holds since) (hn : since.length < 2 ^ 63) :
    c.peek = since.head?.map (Draft.cut c.capacity) := by
  unfold peek
  rw [h.hasPending_eq hn]
  cases hlatest : since.head? with
  | none => rfl
  | some entry => exact congrArg some (h.slots_eq entry hlatest)

/-! ### The ledger of the cell -/

/-- Of all that was published, `taken` entries were taken; the rest was superseded, but for one
that may wait. -/
structure Balanced (c : Cell) (taken : ℕ) : Prop where
  behind : ∃ n ≤ c.stats.published, c.Behind n
  published_eq : c.stats.published = c.stats.superseded + taken + c.hasPending.toNat

theorem balanced_empty (capacity : ℕ) : (empty capacity).Balanced 0 where
  behind := ⟨0, Nat.zero_le _, behind_empty capacity⟩
  published_eq := rfl

theorem Balanced.publish (h : c.Balanced taken) (hlt : c.stats.published + 1 < 2 ^ 63)
    (entry : ByteArray) : (c.publish entry).2.Balanced taken := by
  obtain ⟨n, hle, hbehind⟩ := h.behind
  have hpublished : (c.publish entry).2.stats.published = c.stats.published + 1 := rfl
  have hsuperseded : (c.publish entry).2.stats.superseded =
      c.stats.superseded + c.hasPending.toNat := by
    show c.stats.superseded + (if c.hasPending then 1 else 0) = _
    cases c.hasPending <;> rfl
  have hwaits : (c.publish entry).2.hasPending = true :=
    ((hbehind.publish entry).hasPending_iff (by omega)).2 (Nat.succ_ne_zero n)
  have hbefore := h.published_eq
  refine ⟨⟨n + 1, by omega, hbehind.publish entry⟩, ?_⟩
  rw [hpublished, hsuperseded, hwaits, Bool.toNat_true]
  omega

/-- A take moves the entry that waits, if one does, to those taken. -/
theorem Balanced.take (h : c.Balanced taken) :
    c.take.2.Balanced (taken + c.peek.isSome.toNat) where
  behind := ⟨0, Nat.zero_le _, c.behind_take⟩
  published_eq := by
    rw [stats_take, hasPending_take, Bool.toNat_false, isSome_peek, h.published_eq]
    omega

/-- The ledger holds as long as fewer than half the words were published. -/
def Accounted (c : Cell) (taken : ℕ) : Prop :=
  c.stats.published < 2 ^ 63 → c.Balanced taken

theorem accounted_empty (capacity : ℕ) : (empty capacity).Accounted 0 :=
  fun _ ↦ balanced_empty capacity

theorem Accounted.publish (h : c.Accounted taken) (entry : ByteArray) :
    (c.publish entry).2.Accounted taken :=
  fun hlt ↦ (h (Nat.lt_of_succ_lt hlt)).publish hlt entry

theorem Accounted.take (h : c.Accounted taken) :
    c.take.2.Accounted (taken + c.peek.isSome.toNat) := by
  intro hlt
  rw [stats_take] at hlt
  exact (h hlt).take

end DeferredLog.Cell
