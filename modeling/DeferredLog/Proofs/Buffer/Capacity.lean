import DeferredLog.Proofs.Buffer.Atomicity
import DeferredLog.Proofs.Buffer.Doubling

/-!
# The capacity tells how much was committed

A log keeps its first capacity while that suffices, and then has the first multiple by doubling that
holds what is committed, cut to the ceiling. So the capacity depends on the number of bytes alone
and not on the entries that brought them, nor on what was refused in between.

`Fitted` says this of a log, together with how often it can have moved. It passes through an append
for two reasons: an entry that fits leaves the multiple where it is, since the multiple was the
first and the entry does not pass it; and a log that grows does so from a multiple and not from a
ceiling, since at its ceiling it takes nothing more (`Fitted.grown_eq`).
-/

namespace DeferredLog.Buffer

variable {b : Buffer} {initial : ℕ}

/-- What a ceiling leaves of a capacity. -/
def cappedBy (ceiling : Option ℕ) (capacity : ℕ) : ℕ :=
  ceiling.elim capacity (min capacity)

theorem target_eq (b : Buffer) (required : ℕ) :
    b.target required = cappedBy b.ceiling (grown required b.capacity) := by
  cases hceiling : b.ceiling with
  | none => exact target_of_ceiling_eq_none hceiling required
  | some limit => exact target_of_ceiling_eq_some hceiling required

theorem cappedBy_le (ceiling : Option ℕ) (capacity : ℕ) : cappedBy ceiling capacity ≤ capacity := by
  cases ceiling with
  | none => exact Nat.le_refl _
  | some limit => exact Nat.min_le_left _ _

/-- A capacity below a request that the ceiling admits is not cut. -/
theorem cappedBy_eq_of_lt {ceiling : Option ℕ} {capacity required : ℕ}
    (h : cappedBy ceiling capacity < required) (hlimit : ∀ limit ∈ ceiling, required ≤ limit) :
    cappedBy ceiling capacity = capacity := by
  cases ceiling with
  | none => rfl
  | some limit =>
    have hbelow := hlimit limit rfl
    simp only [cappedBy, Option.elim_some] at h ⊢
    omega

/-- That words end shows only in capacities that are never granted. -/
theorem cappedBy_min_wordMax {ceiling : Option ℕ} {capacity : ℕ}
    (h : cappedBy ceiling (min capacity wordMax) < addressSpace) :
    cappedBy ceiling (min capacity wordMax) = cappedBy ceiling capacity := by
  have hwords : addressSpace < wordMax := by decide
  cases ceiling with
  | none =>
    simp only [cappedBy, Option.elim_none] at h ⊢
    omega
  | some limit =>
    simp only [cappedBy, Option.elim_some] at h ⊢
    omega

/-! ### The invariant -/

/-- A log that began with room for `initial` bytes has grown no more than it had to. -/
structure Fitted (b : Buffer) (initial : ℕ) : Prop where
  /-- While the first capacity suffices the log has not moved. -/
  unmoved : b.contents.size ≤ initial → b.capacity = initial ∧ b.counts.growths = 0
  /-- Beyond it the capacity is the first multiple that suffices, cut to the ceiling. -/
  capacity_eq : initial < b.contents.size →
    b.capacity = cappedBy b.ceiling (max initial 1 * 2 ^ rounds initial b.contents.size)
  /-- A log without any room at first moves once more, to one byte. -/
  growths_le : b.counts.growths ≤ rounds initial b.contents.size + if initial = 0 then 1 else 0
  growths_le_entries : b.counts.growths ≤ b.counts.entries

theorem fitted_of_allocate {maxEntry : ℕ} {ceiling : Option ℕ}
    (h : allocate initial maxEntry ceiling = .ok b) : b.Fitted initial := by
  obtain ⟨-, -, rfl⟩ := allocate_eq_ok_iff.1 h
  exact ⟨fun _ ↦ ⟨rfl, rfl⟩, fun hbeyond ↦ absurd hbeyond (Nat.not_lt_zero _), Nat.zero_le _,
    Nat.zero_le _⟩

/-- A log that grows ends where doubling from its first capacity ends, and has moved less often than
that takes. -/
theorem Fitted.grown_eq (h : b.Fitted initial) (hspace : b.capacity < addressSpace) {required : ℕ}
    (hroom : b.capacity < required) (hlimit : ∀ limit ∈ b.ceiling, required ≤ limit) :
    grown required b.capacity = min (max initial 1 * 2 ^ rounds initial required) wordMax ∧
      b.counts.growths < rounds initial required + if initial = 0 then 1 else 0 := by
  have hwords : addressSpace < wordMax := by decide
  rcases Nat.lt_or_ge initial b.contents.size with hbeyond | hwithin
  · -- the log has grown before, and stands at a multiple
    have hcapped := h.capacity_eq hbeyond
    have hcapacity : b.capacity = max initial 1 * 2 ^ rounds initial b.contents.size :=
      hcapped.trans (cappedBy_eq_of_lt (hcapped ▸ hroom) hlimit)
    have hmore : rounds initial b.contents.size < rounds initial required :=
      lt_rounds_iff.2 (hcapacity ▸ hroom)
    refine ⟨?_, Nat.lt_of_le_of_lt h.growths_le (by omega)⟩
    rw [hcapacity]
    exact grown_of_doubled (by omega) (Nat.le_of_lt hmore)
  · obtain ⟨hcapacity, hgrowths⟩ := h.unmoved hwithin
    rw [hcapacity] at hspace hroom ⊢
    refine ⟨Buffer.grown_eq (by omega), ?_⟩
    rw [hgrowths]
    split
    · omega
    · have hsome : 0 < rounds initial required :=
        lt_rounds_iff.2 (by rw [Nat.pow_zero]; omega)
      omega

/-- While its first capacity suffices a log does not grow. -/
theorem Fitted.initial_lt (h : b.Fitted initial) {required : ℕ} (hroom : b.capacity < required)
    (hmore : b.contents.size ≤ required) : initial < required := by
  by_contra hwithin
  have := (h.unmoved (by omega)).1
  omega

/-! ### What an append keeps -/

/-- Where an entry fits, the multiple is still the first. -/
theorem Fitted.capacity_eq_of_fits (h : b.Fitted initial) {size : ℕ}
    (hroom : b.contents.size + size ≤ b.capacity) (hbeyond : initial < b.contents.size + size) :
    b.capacity =
      cappedBy b.ceiling (max initial 1 * 2 ^ rounds initial (b.contents.size + size)) := by
  have hgrown : initial < b.contents.size := by
    by_contra hwithin
    have := (h.unmoved (by omega)).1
    omega
  have hcapacity := h.capacity_eq hgrown
  have hsame : rounds initial (b.contents.size + size) = rounds initial b.contents.size := by
    refine Nat.le_antisymm (rounds_le_iff.2 ?_) (rounds_mono initial (Nat.le_add_right _ _))
    exact Nat.le_trans hroom (hcapacity ▸ cappedBy_le _ _)
  rwa [hsame]

/-- An entry that fits leaves the capacity, and the multiple, where they are. -/
theorem Fitted.commit (h : b.Fitted initial) {entry : ByteArray}
    (hroom : b.contents.size + entry.size ≤ b.capacity) : (b.commit entry).Fitted initial := by
  have hsize : (b.commit entry).contents.size = b.contents.size + entry.size :=
    ByteArray.size_append
  refine ⟨fun hle ↦ h.unmoved (by omega), fun hlt ↦ ?_, ?_, Nat.le_succ_of_le h.growths_le_entries⟩
  · rw [hsize] at hlt ⊢
    exact h.capacity_eq_of_fits hroom hlt
  · rw [hsize]
    have hmono := rounds_mono initial (Nat.le_add_right b.contents.size entry.size)
    exact Nat.le_trans h.growths_le (Nat.add_le_add_right hmono _)

/-- A log that moves for an entry lands on the next multiple, and had a move to spare. -/
theorem Fitted.commit_move (h : b.Fitted initial) (hspace : b.capacity < addressSpace)
    {entry : ByteArray} (hroom : b.capacity < b.contents.size + entry.size)
    (hlimit : ∀ limit ∈ b.ceiling, b.contents.size + entry.size ≤ limit)
    (hgrants : b.grants (b.target (b.contents.size + entry.size)) = true) :
    ((b.move (b.target (b.contents.size + entry.size))).commit entry).Fitted initial := by
  obtain ⟨hgrown, hmoves⟩ := h.grown_eq hspace hroom hlimit
  have hgranted := lt_addressSpace_of_grants hgrants
  rw [target_eq, hgrown] at hgranted ⊢
  rw [cappedBy_min_wordMax hgranted]
  generalize hcapacity : cappedBy b.ceiling _ = capacity
  have hsize : ((b.move capacity).commit entry).contents.size = b.contents.size + entry.size := by
    rw [contents_commit, contents_move, ByteArray.size_append]
  have hbeyond := h.initial_lt hroom (Nat.le_add_right _ _)
  refine ⟨fun hle ↦ ?_, fun _ ↦ ?_, ?_, Nat.succ_le_succ h.growths_le_entries⟩
  · rw [hsize] at hle
    exact absurd hle (Nat.not_le.2 hbeyond)
  · rw [hsize]
    exact hcapacity.symm
  · rw [hsize]
    exact hmoves

theorem Fitted.append (h : b.Fitted initial) (hspace : b.capacity < addressSpace)
    (entry : ByteArray) : (b.append entry).2.Fitted initial := by
  have hplanned := b.planned entry.size
  cases hmade : b.makeRoom entry.size with
  | error cause =>
    rw [append_of_makeRoom_eq_error hmade]
    obtain ⟨hentries, -, hgrowths⟩ := b.counts.of_refuse cause
    exact ⟨fun hwithin ↦ ⟨(h.unmoved hwithin).1, hgrowths.trans (h.unmoved hwithin).2⟩,
      h.capacity_eq, hgrowths.symm ▸ h.growths_le,
      hgrowths.symm ▸ hentries.symm ▸ h.growths_le_entries⟩
  | ok roomy =>
    rw [append_of_makeRoom_eq_ok hmade]
    rw [hmade] at hplanned
    cases hplanned with
    | fits hsize hroom => exact h.commit hroom
    | grows hsize hroom hlimit hgrants => exact h.commit_move hspace hroom hlimit hgrants

theorem Fitted.run (h : b.Fitted initial) (hspace : b.capacity < addressSpace)
    (steps : List Step) : (b.run steps).Fitted initial := by
  induction steps generalizing b with
  | nil => exact h
  | cons s rest ih =>
    cases s with
    | append entry => exact ih (h.append hspace entry) (capacity_lt_append hspace entry)
    | limit quota => exact ih ⟨h.unmoved, h.capacity_eq, h.growths_le, h.growths_le_entries⟩ hspace

/-! ### The main result -/

theorem capacity_le_append (b : Buffer) (entry : ByteArray) :
    b.capacity ≤ (b.append entry).2.capacity := by
  have hplanned := b.planned entry.size
  cases hmade : b.makeRoom entry.size with
  | error cause => rw [append_of_makeRoom_eq_error hmade]
  | ok roomy =>
    rw [append_of_makeRoom_eq_ok hmade]
    rw [hmade] at hplanned
    cases hplanned with
    | fits hsize hroom => exact Nat.le_refl _
    | grows hsize hroom hlimit hgrants =>
      exact Nat.le_trans (Nat.le_of_lt hroom) (le_target_of_grants hlimit hgrants)

/-- A capacity never shrinks. -/
theorem capacity_le_run (b : Buffer) (steps : List Step) : b.capacity ≤ (b.run steps).capacity := by
  induction steps generalizing b with
  | nil => exact Nat.le_refl _
  | cons s rest ih =>
    refine Nat.le_trans ?_ (ih (b.step s))
    cases s with
    | append entry => exact capacity_le_append b entry
    | limit quota => exact Nat.le_refl _

/-- A log of any sizing, after any run: its capacity is the first one while that suffices, and then
the first multiple by doubling that holds what is committed, cut to the ceiling. So it depends on
the number of committed bytes alone and never shrinks, the log has moved as often as doubling takes
at most, and never without taking an entry; and a log whose ceiling is its first capacity never
moves. -/
theorem capacity_of_committed {maxEntry : ℕ} {ceiling : Option ℕ}
    (h : allocate initial maxEntry ceiling = .ok b) (steps : List Step) :
    let log := b.run steps
    (log.committed ≤ initial → log.capacity = initial) ∧
    (∃ k, IsLeast {k | log.committed ≤ max initial 1 * 2 ^ k} k ∧
      (initial < log.committed →
        log.capacity = ceiling.elim (max initial 1 * 2 ^ k) (min (max initial 1 * 2 ^ k))) ∧
      log.counts.growths ≤ k + if initial = 0 then 1 else 0) ∧
    (∀ others : List Step, (b.run others).committed = log.committed →
      (b.run others).capacity = log.capacity) ∧
    (∀ later : List Step, log.capacity ≤ (b.run (steps ++ later)).capacity) ∧
    log.counts.growths ≤ log.counts.entries ∧
    (ceiling = some initial → log.capacity = initial ∧ log.counts.growths = 0) := by
  intro log
  obtain ⟨-, hspace, hnew⟩ := allocate_eq_ok_iff.1 h
  have hroom : b.capacity < addressSpace := by rwa [hnew]
  have hfitted : ∀ others : List Step, (b.run others).Fitted initial :=
    fun others ↦ (fitted_of_allocate h).run hroom others
  have hceiling : ∀ others : List Step, (b.run others).ceiling = ceiling :=
    fun others ↦ by rw [ceiling_run, hnew]
  have hsound : ∀ others : List Step, (b.run others).Sound := (sound_of_allocate h).run
  rw [show log.committed = log.contents.size from (hsound steps).committed_eq]
  refine ⟨fun hwithin ↦ ((hfitted steps).unmoved hwithin).1,
    ⟨_, isLeast_rounds initial log.contents.size, fun hbeyond ↦ ?_, (hfitted steps).growths_le⟩,
    fun others hsame ↦ ?_, fun later ↦ ?_, (hfitted steps).growths_le_entries, fun hfixed ↦ ?_⟩
  · rw [(hfitted steps).capacity_eq hbeyond, hceiling]
    rfl
  · rw [(hsound others).committed_eq] at hsame
    rcases Nat.lt_or_ge initial log.contents.size with hbeyond | hwithin
    · rw [(hfitted others).capacity_eq (hsame ▸ hbeyond), (hfitted steps).capacity_eq hbeyond,
        hsame, hceiling, hceiling]
    · rw [((hfitted others).unmoved (hsame ▸ hwithin)).1, ((hfitted steps).unmoved hwithin).1]
  · rw [run_append]
    exact capacity_le_run _ _
  · have hbound := (hsound steps).capacity_le initial ((hceiling steps).trans hfixed)
    exact (hfitted steps).unmoved (Nat.le_trans (hsound steps).size_le hbound)

/-- Eighteen bytes in a log that began with none and may hold twenty: brought by two entries with a
refusal between them or by one, five doublings make thirty-two of it, and the ceiling twenty. -/
theorem capacity_of_committed_of_eighteen :
    let steps : List Step := [.append ⟨.replicate 3 7⟩, .limit (some 4), .append ⟨.replicate 9 7⟩,
      .limit none, .append ⟨.replicate 15 7⟩]
    let others : List Step := [.append ⟨.replicate 18 7⟩]
    ∃ b, allocate 0 32 (some 20) = .ok b ∧ (b.run steps).committed = 18 ∧
      (b.run steps).capacity = 20 ∧ (b.run others).capacity = 20 ∧
      (b.run steps).counts.growths ≤ 6 := by
  intro steps others
  obtain ⟨b, hb⟩ : ∃ b, allocate 0 32 (some 20) = .ok b := ⟨_, rfl⟩
  obtain ⟨-, -, rfl⟩ := allocate_eq_ok_iff.1 hb
  obtain ⟨-, ⟨k, hleast, hcapacity, hgrowths⟩, hsame, -⟩ := capacity_of_committed hb steps
  refine ⟨_, hb, by decide +kernel, ?_⟩
  generalize hlog : Buffer.run _ steps = log at hleast hcapacity hgrowths hsame ⊢
  have hcommitted : log.committed = 18 := hlog ▸ by decide +kernel
  obtain rfl : k = 5 := hleast.unique (hcommitted ▸ isLeast_rounds 0 18)
  have htwenty : log.capacity = 20 := hcapacity (by omega)
  exact ⟨htwenty, (hsame others (hcommitted ▸ by decide +kernel)).trans htwenty, hgrowths⟩

end DeferredLog.Buffer
