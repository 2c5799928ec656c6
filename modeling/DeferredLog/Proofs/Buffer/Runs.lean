import DeferredLog.Proofs.Buffer.Plan

/-!
# The log only grows at its end

Runs of a log: entries are offered one after the other, and the memory for growth is limited and
freed in between. `accepted` collects the entries that the log took, and `contents_run` says that a
run adds exactly these to what was there, in order. All that readers rely on follows from it: the
earlier contents are a prefix of the later, so bytes that were committed once are read the same
ever after, whether or not the log has moved.

What is published as committed, the sizes and the capacities need no history: they are `Sound`, and
soundness passes through every step (`Sound.step`, `Sound.run`).
-/

namespace DeferredLog.Buffer

/-! ### Runs -/

/-- What can be done to a log by itself. -/
inductive Step where
  | append (entry : ByteArray)
  /-- The memory for growth is limited, or the limit is lifted. -/
  | limit (quota : Option ℕ)
  deriving DecidableEq

/-- The log after a step. -/
def step (b : Buffer) : Step → Buffer
  | .append entry => (b.append entry).2
  | .limit quota => b.withQuota quota

/-- The log after several steps. -/
def run (b : Buffer) (steps : List Step) : Buffer :=
  steps.foldl step b

/-- The entry that a step adds, if the log takes it. -/
def accepts (b : Buffer) : Step → List ByteArray
  | .append entry => if (b.append entry).1.toBool then [entry] else []
  | .limit _ => []

/-- The entries that a run adds, in order. -/
def accepted (b : Buffer) : List Step → List ByteArray
  | [] => []
  | s :: rest => b.accepts s ++ (b.step s).accepted rest

/-- The bytes of several entries in a row. -/
def concat (entries : List ByteArray) : ByteArray :=
  entries.foldr (· ++ ·) .empty

@[simp] theorem concat_nil : concat [] = .empty := rfl

theorem concat_cons (entry : ByteArray) (rest : List ByteArray) :
    concat (entry :: rest) = entry ++ concat rest := rfl

theorem concat_append (entries rest : List ByteArray) :
    concat (entries ++ rest) = concat entries ++ concat rest := by
  induction entries with
  | nil => rw [List.nil_append, concat_nil, ByteArray.empty_append]
  | cons entry entries ih =>
    rw [List.cons_append, concat_cons, concat_cons, ih, ByteArray.append_assoc]

variable {b : Buffer}

/-! ### What a run does to the contents -/

theorem contents_step (b : Buffer) (s : Step) :
    (b.step s).contents = b.contents ++ concat (b.accepts s) := by
  cases s with
  | limit quota => exact (ByteArray.append_empty (b := b.contents)).symm
  | append entry =>
    rw [step, contents_append, accepts]
    split
    · rw [concat_cons, concat_nil, ByteArray.append_empty]
    · rw [concat_nil, ByteArray.append_empty]

/-- A run adds the entries that were accepted, in order, and changes nothing before them. -/
theorem contents_run (b : Buffer) (steps : List Step) :
    (b.run steps).contents = b.contents ++ concat (b.accepted steps) := by
  induction steps generalizing b with
  | nil => exact (ByteArray.append_empty (b := b.contents)).symm
  | cons s rest ih =>
    -- what the rest accepts depends on the log after the first step
    rw [accepted, concat_append, ← ByteArray.append_assoc, ← contents_step]
    exact ih (b.step s)

theorem run_append (b : Buffer) (steps later : List Step) :
    b.run (steps ++ later) = (b.run steps).run later :=
  List.foldl_append ..

/-! ### What a run keeps -/

theorem Sound.step (h : b.Sound) (s : Step) : (b.step s).Sound := by
  cases s with
  | append entry => exact h.append entry
  | limit quota => exact h.withQuota quota

theorem Sound.run (h : b.Sound) (steps : List Step) : (b.run steps).Sound := by
  induction steps generalizing b with
  | nil => exact h
  | cons s rest ih => exact ih (h.step s)

theorem ceiling_run (b : Buffer) (steps : List Step) : (b.run steps).ceiling = b.ceiling := by
  induction steps generalizing b with
  | nil => rfl
  | cons s rest ih =>
    have hstep : (b.step s).ceiling = b.ceiling := by
      cases s with
      | append entry => exact ceiling_append b entry
      | limit quota => rfl
    exact (ih (b.step s)).trans hstep

theorem maxEntry_run (b : Buffer) (steps : List Step) : (b.run steps).maxEntry = b.maxEntry := by
  induction steps generalizing b with
  | nil => rfl
  | cons s rest ih =>
    have hstep : (b.step s).maxEntry = b.maxEntry := by
      cases s with
      | append entry => exact maxEntry_append b entry
      | limit quota => rfl
    exact (ih (b.step s)).trans hstep

/-- No log outgrows the address space. -/
theorem capacity_lt_run (h : b.capacity < addressSpace) (steps : List Step) :
    (b.run steps).capacity < addressSpace := by
  induction steps generalizing b with
  | nil => exact h
  | cons s rest ih =>
    refine ih ?_
    cases s with
    | append entry => exact capacity_lt_append h entry
    | limit quota => exact h

/-- Every offset in a log is one that a machine can address. -/
theorem committed_lt_run {initial maxEntry : ℕ} {ceiling : Option ℕ}
    (h : allocate initial maxEntry ceiling = .ok b) (steps : List Step) :
    (b.run steps).committed < addressSpace := by
  obtain ⟨-, hspace, hnew⟩ := allocate_eq_ok_iff.1 h
  exact Nat.lt_of_le_of_lt ((sound_of_allocate h).run steps).committed_le
    (capacity_lt_run (by rwa [hnew]) steps)

/-! ### What readers see of it -/

/-- A read gives what the log holds of the range that was asked for. -/
theorem read_eq_extract (b : Buffer) (offset len : ℕ) :
    b.read offset len = b.contents.extract offset (offset + len) := by
  unfold read range?
  by_cases hany : offset < b.contents.size ∧ len ≠ 0
  · rw [if_pos hany]
    refine ByteArray.ext ?_
    rw [ByteArray.data_extract, ByteArray.data_extract, Array.extract_eq_extract_right]
    show min _ (b.contents.size - offset) = min _ (b.contents.size - offset)
    omega
  · rw [if_neg hany]
    refine (ByteArray.extract_eq_empty_iff.2 ?_).symm
    omega

/-- What is added behind a range does not show in it. -/
theorem extract_append_of_le {bytes rest : ByteArray} {first last : ℕ} (h : last ≤ bytes.size) :
    (bytes ++ rest).extract first last = bytes.extract first last := by
  have hnone : rest.extract (first - bytes.size) (last - bytes.size) = .empty := by
    rw [ByteArray.extract_eq_empty_iff]
    omega
  rw [ByteArray.extract_append, hnone, ByteArray.append_empty]

/-- A log of any sizing, after any run: it holds the accepted entries in order, every measure of
its length agrees, it keeps to its capacity and its ceiling, and whatever happens later only adds to
its end, so that a committed range is read the same ever after, however often the log moves. -/
theorem append_only {initial maxEntry : ℕ} {ceiling : Option ℕ}
    (h : allocate initial maxEntry ceiling = .ok b) (steps : List Step) :
    (b.run steps).contents = concat (b.accepted steps) ∧
    (b.run steps).committed = (concat (b.accepted steps)).size ∧
    (b.run steps).stats.committed = (concat (b.accepted steps)).size ∧
    (b.run steps).stats.counts.bytes = (concat (b.accepted steps)).size ∧
    (b.run steps).committed ≤ (b.run steps).capacity ∧
    (∀ limit ∈ ceiling, (b.run steps).capacity ≤ limit) ∧
    ∀ later : List Step,
      (b.run (steps ++ later)).contents =
        (b.run steps).contents ++ concat ((b.run steps).accepted later) ∧
      ∀ offset len : ℕ, offset + len ≤ (b.run steps).committed →
        (b.run (steps ++ later)).read offset len =
          (b.run steps).contents.extract offset (offset + len) := by
  obtain ⟨-, -, hnew⟩ := allocate_eq_ok_iff.1 h
  have hsound := (sound_of_allocate h).run steps
  have hcontents : (b.run steps).contents = concat (b.accepted steps) := by
    rw [contents_run, contents_of_allocate h, ByteArray.empty_append]
  have hsize : (b.run steps).contents.size = (concat (b.accepted steps)).size :=
    congrArg ByteArray.size hcontents
  have hceiling : (b.run steps).ceiling = ceiling := by
    rw [ceiling_run, hnew]
  refine ⟨hcontents, hsound.committed_eq.trans hsize, hsize, hsound.bytes_eq.trans hsize,
    hsound.committed_le, hceiling ▸ hsound.capacity_le, fun later ↦ ?_⟩
  have hlater : (b.run (steps ++ later)).contents =
      (b.run steps).contents ++ concat ((b.run steps).accepted later) := by
    rw [run_append, contents_run]
  refine ⟨hlater, fun offset len hle ↦ ?_⟩
  rw [read_eq_extract, hlater, extract_append_of_le (hsound.committed_eq ▸ hle)]

/-- Three bytes are refused while the memory is short and taken once it is not, nine are too many at
any time, and two more are taken behind them. The log has moved twice by then; all its measures tell
six bytes, and the first byte is read the same on both sides of the moves. -/
theorem append_only_of_short_memory :
    let steps : List Step := [.append ⟨#[1]⟩, .limit (some 3), .append ⟨#[2, 3, 4]⟩]
    let later : List Step :=
      [.limit none, .append ⟨#[5, 6, 7]⟩, .append ⟨.replicate 9 0⟩, .append ⟨#[8, 9]⟩]
    ∃ b, allocate 2 8 (some 12) = .ok b ∧ (b.run steps).contents = ⟨#[1]⟩ ∧
      (b.run steps).capacity = 2 ∧ (b.run (steps ++ later)).capacity = 8 ∧
      (b.run (steps ++ later)).counts.growths = 2 ∧
      (b.run (steps ++ later)).contents = ⟨#[1, 5, 6, 7, 8, 9]⟩ ∧
      (b.run (steps ++ later)).committed = 6 ∧ (b.run (steps ++ later)).stats.committed = 6 ∧
      (b.run (steps ++ later)).stats.counts.bytes = 6 ∧
      (b.run (steps ++ later)).read 0 1 = ⟨#[1]⟩ := by
  intro steps later
  obtain ⟨b, hb⟩ : ∃ b, allocate 2 8 (some 12) = .ok b := ⟨_, rfl⟩
  obtain ⟨-, -, rfl⟩ := allocate_eq_ok_iff.1 hb
  refine ⟨_, hb, ?_⟩
  obtain ⟨hcontents, hcommitted, -, -, -, -, hlater⟩ := append_only hb steps
  obtain ⟨hgrown, hread⟩ := hlater later
  obtain ⟨-, hpublished, hstats, hbytes, -⟩ := append_only hb (steps ++ later)
  have hfirst := hcontents.trans (by decide +kernel : _ = (⟨#[1]⟩ : ByteArray))
  refine ⟨hfirst, by decide +kernel, by decide +kernel, by decide +kernel, ?_, ?_, ?_, ?_, ?_⟩
  · rw [hgrown, hfirst]
    decide +kernel
  · rw [hpublished]
    decide +kernel
  · rw [hstats]
    decide +kernel
  · rw [hbytes]
    decide +kernel
  · rw [hread 0 1 (by rw [hcommitted]; decide +kernel), hfirst]
    decide +kernel

end DeferredLog.Buffer
