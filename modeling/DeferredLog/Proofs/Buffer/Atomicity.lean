import DeferredLog.Proofs.Buffer.Runs
import Mathlib.Order.Basic

/-!
# A refused append leaves no trace

What an append answers follows from sizes alone, in a fixed order: the largest entry, the ceiling,
the memory (`append_eq_entryTooLarge_iff` and its three siblings). The ceiling comes before the
memory although the log looks at its capacity first, and this rests on soundness: a capacity never
passes the ceiling, so a request beyond the ceiling is one beyond the capacity.

A refusal adds one to the count of its cause and changes nothing else, and there are three causes
(`append_of_entryTooLarge` and its two siblings, `cause_of_append_eq_error`). No decision looks at
the counts of refusals, so logs that agree up to these (`Alike`) answer alike and stay alike
(`Alike.append`), and a refused append leads from a log to one that is like it
(`Alike.of_refused`). From the two follows that refused appends can be left out of a run
(`alike_run_kept`).
-/

namespace DeferredLog.Buffer

variable {b c : Buffer} {entry : ByteArray}

/-! ### What an append answers -/

theorem fst_append (b : Buffer) (entry : ByteArray) :
    (b.append entry).1 = (b.makeRoom entry.size).map fun _ ↦ entry.size := by
  unfold append
  split <;> next h => rw [h]; rfl

theorem append_eq_entryTooLarge_iff {size limit : ℕ} :
    (b.append entry).1 = .error (.entryTooLarge size limit) ↔
      b.maxEntry < entry.size ∧ size = entry.size ∧ limit = b.maxEntry := by
  rw [fst_append]
  have hplanned := b.planned entry.size
  generalize b.makeRoom entry.size = made at hplanned ⊢
  cases hplanned with
  | tooLarge hlarge => simp [Except.map, hlarge, eq_comm]
  | fits hsize | full _ hsize | grows hsize | refused hsize =>
    simp [Except.map, Nat.not_lt.2 hsize]

theorem append_eq_capacityExceeded_iff (h : b.Sound) {requested limit : ℕ} :
    (b.append entry).1 = .error (.capacityExceeded requested limit) ↔
      entry.size ≤ b.maxEntry ∧ b.ceiling = some limit ∧ limit < b.contents.size + entry.size ∧
        requested = b.contents.size + entry.size := by
  rw [fst_append]
  have hplanned := b.planned entry.size
  have hcapacity := h.capacity_le
  generalize b.makeRoom entry.size = made at hplanned ⊢
  cases hplanned with
  | tooLarge hlarge => simp [Except.map, Nat.not_le.2 hlarge]
  | fits hsize hroom =>
    -- what fits the capacity is no more than the ceiling
    simp only [Except.map, reduceCtorEq, false_iff]
    rintro ⟨-, hceiling, hlimit, -⟩
    have := hcapacity limit hceiling
    omega
  | full ceiling hsize hroom hceiling hlimit =>
    simp only [Except.map, Except.error.injEq, Failure.capacityExceeded.injEq, hsize, hceiling,
      Option.some.injEq, true_and]
    constructor
    · rintro ⟨rfl, rfl⟩
      exact ⟨rfl, hlimit, rfl⟩
    · rintro ⟨rfl, -, rfl⟩
      exact ⟨rfl, rfl⟩
  | grows hsize hroom hlimit | refused hsize hroom hlimit =>
    simp only [Except.map, reduceCtorEq, Except.error.injEq, false_iff]
    rintro ⟨-, hceiling, hbeyond, -⟩
    have := hlimit limit hceiling
    omega

theorem append_eq_outOfMemory_iff {requested : ℕ} :
    (b.append entry).1 = .error (.outOfMemory requested) ↔
      entry.size ≤ b.maxEntry ∧ (∀ limit ∈ b.ceiling, b.contents.size + entry.size ≤ limit) ∧
        b.capacity < b.contents.size + entry.size ∧
        requested = b.target (b.contents.size + entry.size) ∧ b.grants requested = false := by
  rw [fst_append]
  have hplanned := b.planned entry.size
  generalize b.makeRoom entry.size = made at hplanned ⊢
  cases hplanned with
  | tooLarge hlarge => simp [Except.map, Nat.not_le.2 hlarge]
  | fits hsize hroom => simp [Except.map, Nat.not_lt.2 hroom]
  | full limit hsize hroom hceiling hlimit => simp [Except.map, hceiling, Nat.not_le.2 hlimit]
  | grows hsize hroom hlimit hgrants =>
    simp only [Except.map, reduceCtorEq, false_iff]
    rintro ⟨-, -, -, rfl, hrefused⟩
    exact absurd hgrants (by simp [hrefused])
  | refused hsize hroom hlimit hgrants =>
    simp only [Except.map, Except.error.injEq, Failure.outOfMemory.injEq]
    constructor
    · rintro rfl
      exact ⟨hsize, hlimit, hroom, rfl, Bool.eq_false_iff.2 hgrants⟩
    · rintro ⟨-, -, -, rfl, -⟩
      rfl

theorem append_eq_ok_iff (h : b.Sound) {n : ℕ} :
    (b.append entry).1 = .ok n ↔
      n = entry.size ∧ entry.size ≤ b.maxEntry ∧
        (∀ limit ∈ b.ceiling, b.contents.size + entry.size ≤ limit) ∧
        (b.capacity < b.contents.size + entry.size →
          b.grants (b.target (b.contents.size + entry.size)) = true) := by
  rw [fst_append]
  have hplanned := b.planned entry.size
  have hcapacity := h.capacity_le
  generalize b.makeRoom entry.size = made at hplanned ⊢
  cases hplanned with
  | tooLarge hlarge => simp [Except.map, Nat.not_le.2 hlarge]
  | fits hsize hroom =>
    simp only [Except.map, Except.ok.injEq]
    constructor
    · rintro rfl
      exact ⟨rfl, hsize, fun limit hlimit ↦ Nat.le_trans hroom (hcapacity limit hlimit),
        fun hbeyond ↦ absurd hroom (Nat.not_le.2 hbeyond)⟩
    · rintro ⟨rfl, -⟩
      rfl
  | full limit hsize hroom hceiling hlimit => simp [Except.map, hceiling, Nat.not_le.2 hlimit]
  | grows hsize hroom hlimit hgrants =>
    simp only [Except.map, Except.ok.injEq]
    constructor
    · rintro rfl
      exact ⟨rfl, hsize, hlimit, fun _ ↦ hgrants⟩
    · rintro ⟨rfl, -⟩
      rfl
  | refused hsize hroom hlimit hgrants => simp [Except.map, hroom, hgrants]

/-! ### What a refusal leaves -/

theorem append_of_fst_eq_error {cause : Failure} (h : (b.append entry).1 = .error cause) :
    (b.append entry).2 = { b with counts := b.counts.refuse cause } := by
  cases hmade : b.makeRoom entry.size with
  | error found =>
    rw [append_of_makeRoom_eq_error hmade] at h ⊢
    cases h
    rfl
  | ok roomy =>
    rw [append_of_makeRoom_eq_ok hmade] at h
    cases h

theorem append_of_entryTooLarge {size limit : ℕ}
    (h : (b.append entry).1 = .error (.entryTooLarge size limit)) :
    (b.append entry).2 =
      { b with counts.rejectedTooLarge := b.counts.rejectedTooLarge + 1 } :=
  append_of_fst_eq_error h

theorem append_of_capacityExceeded {requested limit : ℕ}
    (h : (b.append entry).1 = .error (.capacityExceeded requested limit)) :
    (b.append entry).2 =
      { b with counts.capacityExceeded := b.counts.capacityExceeded + 1 } :=
  append_of_fst_eq_error h

theorem append_of_outOfMemory {requested : ℕ}
    (h : (b.append entry).1 = .error (.outOfMemory requested)) :
    (b.append entry).2 =
      { b with counts.allocationFailures := b.counts.allocationFailures + 1 } :=
  append_of_fst_eq_error h

/-- An append fails for one of three causes. -/
theorem cause_of_append_eq_error {cause : Failure} (h : (b.append entry).1 = .error cause) :
    (∃ size limit, cause = .entryTooLarge size limit) ∨
      (∃ requested limit, cause = .capacityExceeded requested limit) ∨
      ∃ requested, cause = .outOfMemory requested := by
  rw [fst_append] at h
  have hplanned := b.planned entry.size
  generalize b.makeRoom entry.size = made at hplanned h
  cases hplanned with
  | tooLarge =>
    obtain rfl := Except.error.inj h
    exact .inl ⟨_, _, rfl⟩
  | full =>
    obtain rfl := Except.error.inj h
    exact .inr (.inl ⟨_, _, rfl⟩)
  | refused =>
    obtain rfl := Except.error.inj h
    exact .inr (.inr ⟨_, rfl⟩)
  | fits | grows => cases h

/-! ### Logs that agree up to their refusals -/

/-- The logs agree in everything but the counts of refusals. -/
structure Alike (b c : Buffer) : Prop where
  contents_eq : c.contents = b.contents
  committed_eq : c.committed = b.committed
  capacity_eq : c.capacity = b.capacity
  maxEntry_eq : c.maxEntry = b.maxEntry
  ceiling_eq : c.ceiling = b.ceiling
  quota_eq : c.quota = b.quota
  entries_eq : c.counts.entries = b.counts.entries
  bytes_eq : c.counts.bytes = b.counts.bytes
  growths_eq : c.counts.growths = b.counts.growths

theorem Alike.refl (b : Buffer) : b.Alike b :=
  ⟨rfl, rfl, rfl, rfl, rfl, rfl, rfl, rfl, rfl⟩

theorem Alike.symm (h : b.Alike c) : c.Alike b :=
  ⟨h.contents_eq.symm, h.committed_eq.symm, h.capacity_eq.symm, h.maxEntry_eq.symm,
    h.ceiling_eq.symm, h.quota_eq.symm, h.entries_eq.symm, h.bytes_eq.symm, h.growths_eq.symm⟩

theorem Alike.trans {d : Buffer} (h : b.Alike c) (h' : c.Alike d) : b.Alike d :=
  ⟨h'.contents_eq.trans h.contents_eq, h'.committed_eq.trans h.committed_eq,
    h'.capacity_eq.trans h.capacity_eq, h'.maxEntry_eq.trans h.maxEntry_eq,
    h'.ceiling_eq.trans h.ceiling_eq, h'.quota_eq.trans h.quota_eq,
    h'.entries_eq.trans h.entries_eq, h'.bytes_eq.trans h.bytes_eq,
    h'.growths_eq.trans h.growths_eq⟩

theorem Alike.withQuota (h : b.Alike c) (quota : Option ℕ) :
    (b.withQuota quota).Alike (c.withQuota quota) :=
  ⟨h.contents_eq, h.committed_eq, h.capacity_eq, h.maxEntry_eq, h.ceiling_eq, rfl, h.entries_eq,
    h.bytes_eq, h.growths_eq⟩

theorem Alike.move (h : b.Alike c) (capacity : ℕ) : (b.move capacity).Alike (c.move capacity) :=
  { h with
    contents_eq := by rw [contents_move, contents_move, h.contents_eq]
    capacity_eq := rfl
    growths_eq := congrArg (· + 1) h.growths_eq }

theorem Alike.commit (h : b.Alike c) (entry : ByteArray) :
    (b.commit entry).Alike (c.commit entry) :=
  { h with
    contents_eq := congrArg (· ++ entry) h.contents_eq
    committed_eq := congrArg (fun bytes ↦ (bytes ++ entry).size) h.contents_eq
    entries_eq := congrArg (· + 1) h.entries_eq
    bytes_eq := congrArg (· + entry.size) h.bytes_eq }

theorem Alike.target_eq (h : b.Alike c) (required : ℕ) : c.target required = b.target required := by
  unfold target
  rw [h.ceiling_eq, h.capacity_eq]

theorem Alike.grants_eq (h : b.Alike c) (capacity : ℕ) : c.grants capacity = b.grants capacity := by
  unfold grants
  rw [h.quota_eq]

/-- No decision looks at the counts. -/
theorem Alike.makeRoom (h : b.Alike c) (size : ℕ) :
    (∃ cause, b.makeRoom size = .error cause ∧ c.makeRoom size = .error cause) ∨
      ∃ roomy roomy', b.makeRoom size = .ok roomy ∧ c.makeRoom size = .ok roomy' ∧
        roomy.Alike roomy' := by
  unfold Buffer.makeRoom Buffer.grow
  rw [h.contents_eq, h.capacity_eq, h.maxEntry_eq, h.ceiling_eq, h.target_eq, h.grants_eq]
  split_ifs with hlarge hroom hfull hgrants
  · exact .inl ⟨_, rfl, rfl⟩
  · exact .inl ⟨_, rfl, rfl⟩
  · exact .inr ⟨_, _, rfl, rfl, h.move _⟩
  · exact .inl ⟨_, rfl, rfl⟩
  · exact .inr ⟨_, _, rfl, rfl, h⟩

theorem Alike.fst_append_eq (h : b.Alike c) (entry : ByteArray) :
    (c.append entry).1 = (b.append entry).1 := by
  rw [fst_append, fst_append]
  obtain ⟨cause, hb, hc⟩ | ⟨roomy, roomy', hb, hc, -⟩ := h.makeRoom entry.size
  · rw [hb, hc]
  · rw [hb, hc]
    rfl

theorem Alike.refuse (h : b.Alike c) (cause : Failure) :
    ({ b with counts := b.counts.refuse cause } : Buffer).Alike c := by
  obtain ⟨hentries, hbytes, hgrowths⟩ := b.counts.of_refuse cause
  exact { h with
    entries_eq := h.entries_eq.trans hentries.symm
    bytes_eq := h.bytes_eq.trans hbytes.symm
    growths_eq := h.growths_eq.trans hgrowths.symm }

/-- A refused append leads to a log that is like the one before. -/
theorem Alike.of_refused (h : b.Alike c) (hrefused : (b.append entry).1.toBool = false) :
    (b.append entry).2.Alike c := by
  cases hanswer : (b.append entry).1 with
  | ok n =>
    rw [hanswer] at hrefused
    cases hrefused
  | error cause =>
    rw [append_of_fst_eq_error hanswer]
    exact h.refuse cause

theorem Alike.append (h : b.Alike c) (entry : ByteArray) :
    (b.append entry).2.Alike (c.append entry).2 := by
  obtain ⟨cause, hb, hc⟩ | ⟨roomy, roomy', hb, hc, hroomy⟩ := h.makeRoom entry.size
  · rw [append_of_makeRoom_eq_error hb, append_of_makeRoom_eq_error hc]
    exact (h.refuse cause).trans ((Alike.refl c).refuse cause).symm
  · rw [append_of_makeRoom_eq_ok hb, append_of_makeRoom_eq_ok hc]
    exact hroomy.commit entry

/-! ### Leaving refused appends out -/

/-- The answer to an append. -/
def answer? (b : Buffer) : Step → Option (Except Failure ℕ)
  | .append entry => some (b.append entry).1
  | .limit _ => none

/-- The answers to the appends of a run, in order. -/
def answers (b : Buffer) : List Step → List (Except Failure ℕ)
  | [] => []
  | s :: rest => (b.answer? s).toList ++ (b.step s).answers rest

/-- The run without the appends that were refused; the limits of the memory stay. -/
def kept (b : Buffer) : List Step → List Step
  | [] => []
  | s :: rest =>
    if (b.answer? s).all Except.toBool then s :: (b.step s).kept rest else (b.step s).kept rest

/-- The run without its refused appends, on a log that is like the one it was on, ends in a log that
is like the one it ended in, and its answers are those that were no refusals. -/
theorem alike_run_kept (h : b.Alike c) (steps : List Step) :
    (b.run steps).Alike (c.run (b.kept steps)) ∧
      c.answers (b.kept steps) = (b.answers steps).filter Except.toBool := by
  induction steps generalizing b c with
  | nil => exact ⟨h, rfl⟩
  | cons s rest ih =>
    cases s with
    | limit quota => exact ih (h.withQuota quota)
    | append entry =>
      rw [kept, answers]
      by_cases htaken : (b.append entry).1.toBool = true
      · obtain ⟨hlog, hanswers⟩ := ih (h.append entry)
        rw [if_pos (by exact htaken)]
        refine ⟨hlog, ?_⟩
        show (c.append entry).1 :: (c.append entry).2.answers _ =
          ((b.append entry).1 :: (b.append entry).2.answers rest).filter Except.toBool
        rw [List.filter_cons_of_pos htaken, h.fst_append_eq]
        exact congrArg _ hanswers
      · obtain ⟨hlog, hanswers⟩ := ih (h.of_refused (Bool.eq_false_iff.2 htaken))
        rw [if_neg (by exact htaken)]
        exact ⟨hlog, hanswers.trans (List.filter_cons_of_neg htaken).symm⟩

/-! ### The main result -/

/-- A log of any sizing, after any run. The sizes alone decide what an append answers: first the
largest entry, then the ceiling, then the memory, and there is no other refusal. A refusal adds one
to the count of its cause and leaves everything else: the bytes, what is committed of them, the
capacity, the bounds and the other counts. So the refused appends of any further run can be left
out, with the limits of the memory kept: the other answers stay what they were, and the log ends
with the same bytes, capacity and other counts. And whatever was refused, an entry within the bounds
is taken once the memory that it needs is granted. -/
theorem all_or_nothing {initial maxEntry : ℕ} {ceiling : Option ℕ}
    (h : allocate initial maxEntry ceiling = .ok b) (steps : List Step) :
    let log := b.run steps
    (∀ entry : ByteArray,
      (∀ size limit, (log.append entry).1 = .error (.entryTooLarge size limit) ↔
        maxEntry < entry.size ∧ size = entry.size ∧ limit = maxEntry) ∧
      (∀ requested limit, (log.append entry).1 = .error (.capacityExceeded requested limit) ↔
        entry.size ≤ maxEntry ∧ ceiling = some limit ∧ limit < log.committed + entry.size ∧
          requested = log.committed + entry.size) ∧
      (∀ requested, (log.append entry).1 = .error (.outOfMemory requested) ↔
        entry.size ≤ maxEntry ∧ (∀ limit ∈ ceiling, log.committed + entry.size ≤ limit) ∧
          log.capacity < log.committed + entry.size ∧
          requested = log.target (log.committed + entry.size) ∧
          log.grants requested = false) ∧
      (∀ n, (log.append entry).1 = .ok n ↔
        n = entry.size ∧ entry.size ≤ maxEntry ∧
          (∀ limit ∈ ceiling, log.committed + entry.size ≤ limit) ∧
          (log.capacity < log.committed + entry.size →
            log.grants (log.target (log.committed + entry.size)) = true)) ∧
      (∀ cause, (log.append entry).1 = .error cause →
        (∃ size limit, cause = .entryTooLarge size limit) ∨
        (∃ requested limit, cause = .capacityExceeded requested limit) ∨
        ∃ requested, cause = .outOfMemory requested) ∧
      (∀ size limit, (log.append entry).1 = .error (.entryTooLarge size limit) →
        (log.append entry).2 =
          { log with counts.rejectedTooLarge := log.counts.rejectedTooLarge + 1 }) ∧
      (∀ requested limit, (log.append entry).1 = .error (.capacityExceeded requested limit) →
        (log.append entry).2 =
          { log with counts.capacityExceeded := log.counts.capacityExceeded + 1 }) ∧
      ∀ requested, (log.append entry).1 = .error (.outOfMemory requested) →
        (log.append entry).2 =
          { log with counts.allocationFailures := log.counts.allocationFailures + 1 }) ∧
    (∀ later : List Step,
      log.answers (log.kept later) = (log.answers later).filter Except.toBool ∧
      (log.run (log.kept later)).contents = (log.run later).contents ∧
      (log.run (log.kept later)).committed = (log.run later).committed ∧
      (log.run (log.kept later)).capacity = (log.run later).capacity ∧
      (log.run (log.kept later)).counts.entries = (log.run later).counts.entries ∧
      (log.run (log.kept later)).counts.bytes = (log.run later).counts.bytes ∧
      (log.run (log.kept later)).counts.growths = (log.run later).counts.growths) ∧
    ∀ refused entry : ByteArray, (log.append refused).1.toBool = false →
      entry.size ≤ maxEntry → (∀ limit ∈ ceiling, entry.size ≤ limit - log.committed) →
      ∀ quota, let freed := (log.append refused).2.withQuota quota
        (freed.capacity < freed.committed + entry.size →
          freed.grants (freed.target (freed.committed + entry.size)) = true) →
        (freed.append entry).1 = .ok entry.size := by
  intro log
  obtain ⟨-, -, hnew⟩ := allocate_eq_ok_iff.1 h
  have hsound : log.Sound := (sound_of_allocate h).run steps
  have hmax : log.maxEntry = maxEntry := by rw [maxEntry_run, hnew]
  have hceiling : log.ceiling = ceiling := by rw [ceiling_run, hnew]
  refine ⟨fun entry ↦ ?_, fun later ↦ ?_,
    fun refused entry hrefused hsize hlimit quota hgrants ↦ ?_⟩
  · rw [← hmax, ← hceiling]
    refine ⟨fun _ _ ↦ append_eq_entryTooLarge_iff, fun _ _ ↦ ?_, fun _ ↦ ?_, fun _ ↦ ?_,
      fun _ ↦ cause_of_append_eq_error, fun _ _ ↦ append_of_entryTooLarge,
      fun _ _ ↦ append_of_capacityExceeded, fun _ ↦ append_of_outOfMemory⟩
    · rw [hsound.committed_eq]
      exact append_eq_capacityExceeded_iff hsound
    · rw [hsound.committed_eq]
      exact append_eq_outOfMemory_iff
    · rw [hsound.committed_eq]
      exact append_eq_ok_iff hsound
  · obtain ⟨hlog, hanswers⟩ := alike_run_kept (Alike.refl log) later
    exact ⟨hanswers, hlog.contents_eq, hlog.committed_eq, hlog.capacity_eq, hlog.entries_eq,
      hlog.bytes_eq, hlog.growths_eq⟩
  · -- the refusal and the limit leave the contents and the bounds as they were
    have hlike : ((log.append refused).2.withQuota quota).Alike (log.withQuota quota) :=
      ((Alike.refl log).of_refused hrefused).withQuota quota
    have hfreed : ((log.append refused).2.withQuota quota).Sound :=
      (hsound.append refused).withQuota quota
    rw [hfreed.committed_eq] at hgrants
    refine (append_eq_ok_iff hfreed).2 ⟨rfl, ?_, fun limit hmem ↦ ?_, hgrants⟩
    · rw [← hlike.maxEntry_eq]
      exact hmax.symm ▸ hsize
    · rw [← hlike.ceiling_eq] at hmem
      have hmem' : limit ∈ ceiling := hceiling ▸ hmem
      have hroom := hlimit limit hmem'
      have hbelow := Nat.le_trans hsound.committed_le (hsound.capacity_le limit hmem)
      have hsame : ((log.append refused).2.withQuota quota).contents.size = log.committed :=
        hfreed.committed_eq.symm.trans hlike.committed_eq.symm
      omega

/-- The log has refused an entry of five bytes before. Four bytes are refused for want of memory,
and the count of that becomes one while the other refusals stay; two more are refused for want of
room. Without these two the run answers and ends the same; and once the memory is there the four
bytes are taken. -/
theorem all_or_nothing_of_short_memory :
    let steps : List Step := [.append ⟨#[1]⟩, .append ⟨#[0, 0, 0, 0, 0]⟩, .limit (some 3)]
    let later : List Step := [.append ⟨#[6, 7, 8, 9]⟩, .append ⟨#[2]⟩, .limit none,
      .append ⟨#[3, 4, 5]⟩, .append ⟨#[8, 9]⟩]
    ∃ b, allocate 2 4 (some 6) = .ok b ∧
      ((b.run steps).append ⟨#[6, 7, 8, 9]⟩).1 = .error (.outOfMemory 6) ∧
      ((b.run steps).append ⟨#[6, 7, 8, 9]⟩).2.counts =
        { entries := 1, bytes := 1, rejectedTooLarge := 1, allocationFailures := 1 } ∧
      ((b.run steps).append ⟨#[6, 7, 8, 9]⟩).2.contents = ⟨#[1]⟩ ∧
      ((b.run steps).append ⟨#[0, 0, 0, 0, 0]⟩).1 = .error (.entryTooLarge 5 4) ∧
      ((b.run steps).append ⟨#[0, 0, 0, 0, 0]⟩).2.counts =
        { entries := 1, bytes := 1, rejectedTooLarge := 2 } ∧
      (b.run steps).kept later = [.append ⟨#[2]⟩, .limit none, .append ⟨#[3, 4, 5]⟩] ∧
      (b.run steps).answers ((b.run steps).kept later) = [.ok 1, .ok 3] ∧
      ((b.run steps).run ((b.run steps).kept later)).contents = ⟨#[1, 2, 3, 4, 5]⟩ ∧
      ((((b.run steps).append ⟨#[6, 7, 8, 9]⟩).2.withQuota none).append ⟨#[6, 7, 8, 9]⟩).1 =
        .ok 4 := by
  intro steps later
  obtain ⟨b, hb⟩ : ∃ b, allocate 2 4 (some 6) = .ok b := ⟨_, rfl⟩
  obtain ⟨-, -, rfl⟩ := allocate_eq_ok_iff.1 hb
  obtain ⟨hsingle, hdeleted, hfreed⟩ := all_or_nothing hb steps
  obtain ⟨-, -, houtOfMemory, -, -, -, -, hshort⟩ := hsingle ⟨#[6, 7, 8, 9]⟩
  have hanswer := (houtOfMemory 6).2 (by decide +kernel)
  obtain ⟨htooLarge, -, -, -, -, hlarge, -⟩ := hsingle ⟨#[0, 0, 0, 0, 0]⟩
  have hanswer' := (htooLarge 5 4).2 (by decide +kernel)
  obtain ⟨hanswers, hcontents, -⟩ := hdeleted later
  refine ⟨_, hb, hanswer, ?_, ?_, hanswer', ?_, by decide +kernel, ?_, ?_, ?_⟩
  · rw [hshort _ hanswer]
    decide +kernel
  · rw [hshort _ hanswer]
    decide +kernel
  · rw [hlarge _ _ hanswer']
    decide +kernel
  · rw [hanswers]
    decide +kernel
  · rw [hcontents]
    decide +kernel
  · exact hfreed _ _ (by rw [hanswer]; rfl) (by decide) (by decide +kernel) none (by decide +kernel)

end DeferredLog.Buffer
