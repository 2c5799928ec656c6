import DeferredLog.Buffer
import Mathlib.Algebra.Group.Nat.Defs
import Mathlib.Tactic.ByContra

/-!
# What an append decides

`Planned` lists everything that making room can come to, each outcome with the condition under which
it arises, so that proofs about appends split into the five cases by name and never unfold
`makeRoom`. Three facts about single appends follow:

* `Sound` is kept (`Sound.append`): what is published as committed is what the storage holds, that
  fits the capacity, the capacity stays below the ceiling, and the count of bytes is the size of the
  log. It passes through a move and through a commit by themselves (`Sound.move`, `Sound.commit`);
  in between the log has room for the entry. The one real point there is `le_target_of_grants`:
  doubling may stop short of the request at the largest word, but a capacity of that size is never
  granted.
* the counts tell successes and refusals apart (`entries_append`, `refusals_append`).
* the limits of the log stay as they were (`ceiling_append`, `maxEntry_append`).
-/

namespace DeferredLog.Buffer

variable {b : Buffer} {size : ℕ}

/-! ### Making a log -/

/-- What an optional ceiling comes to where it is not in the way. -/
theorem le_of_not_any_lt {ceiling : Option ℕ} {n : ℕ} (h : ¬ ceiling.any (· < n) = true) :
    ∀ limit ∈ ceiling, n ≤ limit := by
  intro limit hlimit
  by_contra hlt
  exact h ((Option.any_eq_true _ _).2 ⟨limit, hlimit, decide_eq_true (Nat.lt_of_not_le hlt)⟩)

/-- When a log is made, and which. -/
theorem allocate_eq_ok_iff {initial maxEntry : ℕ} {ceiling : Option ℕ} :
    allocate initial maxEntry ceiling = .ok b ↔
      (∀ limit ∈ ceiling, initial ≤ limit) ∧ initial < addressSpace ∧
        b = { contents := .empty, capacity := initial, maxEntry, ceiling } := by
  unfold allocate
  by_cases hceiling : ceiling.any (· < initial) = true
  · rw [if_pos hceiling]
    refine ⟨nofun, fun ⟨hle, _, _⟩ ↦ ?_⟩
    obtain ⟨limit, hlimit, hlt⟩ := (Option.any_eq_true _ _).1 hceiling
    have := hle limit hlimit
    have := of_decide_eq_true hlt
    omega
  · rw [if_neg hceiling]
    by_cases hmemory : initial < addressSpace
    · rw [if_pos hmemory]
      refine ⟨fun h ↦ ⟨le_of_not_any_lt hceiling, hmemory, (Except.ok.inj h).symm⟩, ?_⟩
      rintro ⟨-, -, rfl⟩
      rfl
    · rw [if_neg hmemory]
      exact ⟨nofun, fun ⟨_, hlt, _⟩ ↦ absurd hlt hmemory⟩

/-! ### The outcomes of making room -/

/-- What making room for an entry of `size` bytes comes to. -/
inductive Planned (b : Buffer) (size : ℕ) : Except Failure Buffer → Prop
  /-- The entry is larger than any the log takes. -/
  | tooLarge (hlarge : b.maxEntry < size) :
      Planned b size (.error (.entryTooLarge size b.maxEntry))
  /-- The entry fits into the present capacity. -/
  | fits (hsize : size ≤ b.maxEntry) (hroom : b.contents.size + size ≤ b.capacity) :
      Planned b size (.ok b)
  /-- The ceiling is in the way. -/
  | full (limit : ℕ) (hsize : size ≤ b.maxEntry) (hroom : b.capacity < b.contents.size + size)
      (hceiling : b.ceiling = some limit) (hlimit : limit < b.contents.size + size) :
      Planned b size (.error (.capacityExceeded (b.contents.size + size) limit))
  /-- The log moves to a larger storage. -/
  | grows (hsize : size ≤ b.maxEntry) (hroom : b.capacity < b.contents.size + size)
      (hlimit : ∀ limit ∈ b.ceiling, b.contents.size + size ≤ limit)
      (hgrants : b.grants (b.target (b.contents.size + size)) = true) :
      Planned b size (.ok (b.move (b.target (b.contents.size + size))))
  /-- The log would move, but the memory is not granted. -/
  | refused (hsize : size ≤ b.maxEntry) (hroom : b.capacity < b.contents.size + size)
      (hlimit : ∀ limit ∈ b.ceiling, b.contents.size + size ≤ limit)
      (hgrants : ¬ b.grants (b.target (b.contents.size + size)) = true) :
      Planned b size (.error (.outOfMemory (b.target (b.contents.size + size))))

theorem planned (b : Buffer) (size : ℕ) : b.Planned size (b.makeRoom size) := by
  unfold makeRoom
  by_cases hsize : b.maxEntry < size
  · rw [if_pos hsize]
    exact .tooLarge hsize
  rw [if_neg hsize]
  by_cases hroom : b.capacity < b.contents.size + size
  · rw [if_pos hroom, grow]
    by_cases hfull : b.ceiling.any (· < b.contents.size + size) = true
    · obtain ⟨limit, hceiling, hlimit⟩ := (Option.any_eq_true _ _).1 hfull
      rw [if_pos hfull, hceiling, Option.getD_some]
      exact .full limit (by omega) hroom hceiling (of_decide_eq_true hlimit)
    have hlimit := le_of_not_any_lt hfull
    rw [if_neg hfull]
    by_cases hgrants : b.grants (b.target (b.contents.size + size)) = true
    · rw [if_pos hgrants]
      exact .grows (by omega) hroom hlimit hgrants
    · rw [if_neg hgrants]
      exact .refused (by omega) hroom hlimit hgrants
  · rw [if_neg hroom]
    exact .fits (by omega) (by omega)

/-! ### The capacity to grow to -/

/-- Doubling reaches the request or the largest word. -/
theorem le_grown_or_wordMax_le (required capacity : ℕ) :
    required ≤ grown required capacity ∨ wordMax ≤ grown required capacity := by
  fun_induction grown required capacity with
  | case1 capacity c h ih => exact ih
  | case2 capacity c h => omega

theorem target_of_ceiling_eq_none (h : b.ceiling = none) (required : ℕ) :
    b.target required = grown required b.capacity := by
  simp only [target, h]

theorem target_of_ceiling_eq_some {limit : ℕ} (h : b.ceiling = some limit) (required : ℕ) :
    b.target required = min (grown required b.capacity) limit := by
  simp only [target, h]

theorem target_le_ceiling (required : ℕ) : ∀ limit ∈ b.ceiling, b.target required ≤ limit := by
  intro limit hlimit
  rw [target_of_ceiling_eq_some hlimit]
  exact Nat.min_le_right _ _

theorem lt_addressSpace_of_grants {capacity : ℕ} (h : b.grants capacity = true) :
    capacity < addressSpace :=
  of_decide_eq_true (Bool.and_eq_true_iff.1 h).1

/-- A granted capacity has room for what it was asked for. -/
theorem le_target_of_grants {required : ℕ} (hlimit : ∀ limit ∈ b.ceiling, required ≤ limit)
    (hgrants : b.grants (b.target required) = true) : required ≤ b.target required := by
  have hlt := lt_addressSpace_of_grants hgrants
  have hgrown := le_grown_or_wordMax_le required b.capacity
  -- doubling that stopped short has reached the largest word, and that much is never granted
  have hwords : addressSpace < wordMax := by decide
  cases hceiling : b.ceiling with
  | none =>
    rw [target_of_ceiling_eq_none hceiling] at hlt ⊢
    exact hgrown.resolve_right (by omega)
  | some limit =>
    have hle := hlimit limit hceiling
    rw [target_of_ceiling_eq_some hceiling] at hlt ⊢
    omega

/-! ### What every log keeps -/

/-- What is published as committed is what the storage holds, that fits, the capacity stays below
the ceiling, and the bytes are counted. -/
structure Sound (b : Buffer) : Prop where
  committed_eq : b.committed = b.contents.size
  size_le : b.contents.size ≤ b.capacity
  capacity_le : ∀ limit ∈ b.ceiling, b.capacity ≤ limit
  bytes_eq : b.counts.bytes = b.contents.size

theorem Sound.committed_le (h : b.Sound) : b.committed ≤ b.capacity :=
  h.committed_eq ▸ h.size_le

theorem sound_of_allocate {initial maxEntry : ℕ} {ceiling : Option ℕ}
    (h : allocate initial maxEntry ceiling = .ok b) : b.Sound := by
  obtain ⟨hceiling, -, rfl⟩ := allocate_eq_ok_iff.1 h
  exact ⟨rfl, Nat.zero_le _, hceiling, rfl⟩

theorem Sound.withQuota (h : b.Sound) (quota : Option ℕ) : (b.withQuota quota).Sound :=
  ⟨h.committed_eq, h.size_le, h.capacity_le, h.bytes_eq⟩

/-- A refusal is not among the other counts. -/
theorem Counts.of_refuse (counts : Counts) (cause : Failure) :
    (counts.refuse cause).entries = counts.entries ∧
      (counts.refuse cause).bytes = counts.bytes ∧
      (counts.refuse cause).growths = counts.growths := by
  cases cause <;> exact ⟨rfl, rfl, rfl⟩

theorem Sound.refuse (h : b.Sound) (cause : Failure) :
    ({ b with counts := b.counts.refuse cause } : Buffer).Sound :=
  ⟨h.committed_eq, h.size_le, h.capacity_le, (b.counts.of_refuse cause).2.1.trans h.bytes_eq⟩

/-- A move publishes nothing and counts no bytes, since it brings none. -/
theorem Sound.move (h : b.Sound) {capacity : ℕ} (hroom : b.contents.size ≤ capacity)
    (hlimit : ∀ limit ∈ b.ceiling, capacity ≤ limit) : (b.move capacity).Sound where
  committed_eq := by rw [contents_move]; exact h.committed_eq
  size_le := by rw [contents_move]; exact hroom
  capacity_le := hlimit
  bytes_eq := by rw [contents_move]; exact h.bytes_eq

theorem Sound.commit (h : b.Sound) {entry : ByteArray}
    (hroom : b.contents.size + entry.size ≤ b.capacity) : (b.commit entry).Sound where
  committed_eq := rfl
  size_le := by rw [contents_commit, ByteArray.size_append]; exact hroom
  capacity_le := h.capacity_le
  bytes_eq := by
    rw [contents_commit, ByteArray.size_append, ← h.bytes_eq]
    rfl

theorem Sound.append (h : b.Sound) (entry : ByteArray) : (b.append entry).2.Sound := by
  have hplanned := b.planned entry.size
  cases hmade : b.makeRoom entry.size with
  | error cause =>
    rw [append_of_makeRoom_eq_error hmade]
    exact h.refuse cause
  | ok roomy =>
    rw [append_of_makeRoom_eq_ok hmade]
    rw [hmade] at hplanned
    cases hplanned with
    | fits hsize hroom => exact h.commit hroom
    | grows hsize hroom hlimit hgrants =>
      have hle := le_target_of_grants hlimit hgrants
      have hmoved := h.move (Nat.le_of_add_right_le hle) (target_le_ceiling _)
      exact hmoved.commit (by rw [contents_move]; exact hle)

@[simp] theorem ceiling_append (b : Buffer) (entry : ByteArray) :
    (b.append entry).2.ceiling = b.ceiling := by
  have hplanned := b.planned entry.size
  unfold append
  generalize b.makeRoom entry.size = made at hplanned
  cases hplanned <;> rfl

@[simp] theorem maxEntry_append (b : Buffer) (entry : ByteArray) :
    (b.append entry).2.maxEntry = b.maxEntry := by
  have hplanned := b.planned entry.size
  unfold append
  generalize b.makeRoom entry.size = made at hplanned
  cases hplanned <;> rfl

/-- Growth is granted below the end of the address space only. -/
theorem capacity_lt_append (h : b.capacity < addressSpace) (entry : ByteArray) :
    (b.append entry).2.capacity < addressSpace := by
  have hplanned := b.planned entry.size
  cases hmade : b.makeRoom entry.size with
  | error cause => rwa [append_of_makeRoom_eq_error hmade]
  | ok roomy =>
    rw [append_of_makeRoom_eq_ok hmade]
    rw [hmade] at hplanned
    cases hplanned with
    | fits hsize hroom => exact h
    | grows hsize hroom hlimit hgrants => exact lt_addressSpace_of_grants hgrants

/-- An append that succeeds answers the length of the entry. -/
theorem eq_size_of_append_eq_ok {entry : ByteArray} {n : ℕ} (h : (b.append entry).1 = .ok n) :
    n = entry.size := by
  cases hmade : b.makeRoom entry.size with
  | error cause =>
    rw [append_of_makeRoom_eq_error hmade] at h
    cases h
  | ok roomy =>
    rw [append_of_makeRoom_eq_ok hmade] at h
    exact (Except.ok.inj h).symm

/-! ### What the counts tell -/

/-- All refusals, whatever their cause. -/
def Counts.refusals (c : Counts) : ℕ :=
  c.rejectedTooLarge + c.allocationFailures + c.capacityExceeded

theorem entries_append (b : Buffer) (entry : ByteArray) :
    (b.append entry).2.counts.entries =
      b.counts.entries + (b.append entry).1.toBool.toNat := by
  have hplanned := b.planned entry.size
  unfold append
  generalize b.makeRoom entry.size = made at hplanned
  cases hplanned <;> rfl

/-- An append has one of two outcomes. -/
theorem outcome_append (b : Buffer) (entry : ByteArray) :
    (b.append entry).1.toBool.toNat + (!(b.append entry).1.toBool).toNat = 1 := by
  cases (b.append entry).1.toBool <;> rfl

/-- A refusal is counted under one of the three causes, a success under none. -/
theorem refusals_append (b : Buffer) (entry : ByteArray) :
    (b.append entry).2.counts.refusals =
      b.counts.refusals + (!(b.append entry).1.toBool).toNat := by
  have hplanned := b.planned entry.size
  unfold append
  generalize b.makeRoom entry.size = made at hplanned
  -- the other two causes are never those of an append
  cases hplanned with
  | fits | grows => rfl
  | tooLarge | full | refused =>
    show (b.counts.refuse _).refusals = b.counts.refusals + 1
    simp only [Counts.refuse, Counts.refusals]
    omega

end DeferredLog.Buffer
