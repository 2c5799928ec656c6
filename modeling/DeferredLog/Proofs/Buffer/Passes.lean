import DeferredLog.Proofs.Buffer.Capacity
import Mathlib.Logic.Function.Iterate

/-!
# The passes of growing

Growing is a loop: as long as the request does not fit, the capacity is doubled, and a doubling that
would pass the largest machine word stops there. After `n` passes the capacity is `doubled^[n]` of
the first one, which is the multiple `2 ^ n`, cut to the largest word (`iterate_doubled`).

The capacity itself does not measure the passes, since it stands still once it has reached the
largest word. But a request is a word too, so cutting to the largest word does not change whether
it fits. Hence the loop ends after `rounds` passes, in closed form and at the top of the range alike
(`le_iterate_doubled_iff`), and a request of `64` binary digits takes no more passes than that.

The ceiling is applied behind the loop. `le_cappedBy_iff` says what that may cost: nothing that the
request needs, as long as the ceiling admits the request.
-/

namespace DeferredLog.Buffer

variable {capacity required n : ℕ}

/-! ### The capacity after some passes -/

theorem iterate_doubled (h : capacity ≤ wordMax) (n : ℕ) :
    doubled^[n] capacity = min (capacity * 2 ^ n) wordMax := by
  induction n with
  | zero => rw [Function.iterate_zero_apply, Nat.pow_zero, Nat.mul_one, Nat.min_eq_left h]
  | succ n ih =>
    rw [Function.iterate_succ_apply', ih, doubled, Nat.pow_succ, ← Nat.mul_assoc]
    omega

/-- The request fits after as many passes as doubling without end takes. -/
theorem le_iterate_doubled_iff (hcapacity : capacity ≤ wordMax) (hrequired : required ≤ wordMax) :
    required ≤ doubled^[n] (max capacity 1) ↔ rounds capacity required ≤ n := by
  have hfirst : max capacity 1 ≤ wordMax := Nat.max_le.2 ⟨hcapacity, by decide⟩
  rw [iterate_doubled hfirst, Nat.le_min, rounds_le_iff]
  exact and_iff_left hrequired

theorem grown_eq_iterate (h : capacity ≤ wordMax) :
    grown required capacity = doubled^[rounds capacity required] (max capacity 1) := by
  rw [grown_eq h, iterate_doubled (Nat.max_le.2 ⟨h, by decide⟩)]

/-- A machine word is reached from one in as many doublings as it has binary digits. -/
theorem rounds_le_of_le_wordMax (h : required ≤ wordMax) : rounds capacity required ≤ 64 := by
  refine rounds_le_iff.2 ?_
  calc required
    _ ≤ 1 * 2 ^ 64 := Nat.le_trans h (by decide)
    _ ≤ max capacity 1 * 2 ^ 64 := Nat.mul_le_mul_right _ (Nat.le_max_right _ _)

/-! ### The ceiling behind the loop -/

theorem le_cappedBy_iff {ceiling : Option ℕ} :
    n ≤ cappedBy ceiling capacity ↔ n ≤ capacity ∧ ∀ limit ∈ ceiling, n ≤ limit := by
  match ceiling with
  | none => simp [cappedBy]
  | some limit => simp [cappedBy]

/-- A ceiling that admits the request leaves room for it. -/
theorem le_target {b : Buffer} (h : required ≤ wordMax)
    (hlimit : ∀ limit ∈ b.ceiling, required ≤ limit) : required ≤ b.target required := by
  rw [target_eq]
  exact le_cappedBy_iff.2 ⟨le_grown h, hlimit⟩

/-! ### The main result -/

/-- For every capacity and every request in the range of a machine word: the loop ends after at most
64 passes, at the first capacity that the request fits into. That is the first multiple by doubling,
or the largest word if the multiple is beyond it. The log asks for no more than this and its
ceiling. A ceiling that admits the request leaves room for it, and more than there was if the log
has to grow; so what the log holds fits into the new room together with the entry that the room was
requested for. -/
theorem growing_ends (hcapacity : capacity ≤ wordMax) (hrequired : required ≤ wordMax) :
    (∃ n ≤ 64, IsLeast {i | required ≤ doubled^[i] (max capacity 1)} n ∧
      grown required capacity = doubled^[n] (max capacity 1)) ∧
    required ≤ grown required capacity ∧
    (∃ k, IsLeast {i | required ≤ max capacity 1 * 2 ^ i} k ∧
      grown required capacity =
        if max capacity 1 * 2 ^ k ≤ wordMax then max capacity 1 * 2 ^ k else wordMax) ∧
    ∀ b : Buffer, b.capacity = capacity →
      b.target required = b.ceiling.elim (grown required capacity) (min (grown required capacity)) ∧
      ((∀ limit ∈ b.ceiling, required ≤ limit) →
        required ≤ b.target required ∧
        (capacity < required → capacity < b.target required) ∧
        ∀ entry : ByteArray, b.contents.size + entry.size = required →
          let roomy := b.move (b.target required)
          b.contents.size ≤ b.target required ∧ (b.contents ++ entry).size ≤ b.target required ∧
          roomy.contents = b.contents ∧
          (roomy.commit entry).contents.size ≤ (roomy.commit entry).capacity) := by
  have hfits (i : ℕ) : required ≤ doubled^[i] (max capacity 1) ↔ rounds capacity required ≤ i :=
    le_iterate_doubled_iff hcapacity hrequired
  refine ⟨⟨rounds capacity required, rounds_le_of_le_wordMax hrequired, ⟨?_, fun i hi ↦ ?_⟩, ?_⟩,
    le_grown hrequired, ⟨_, isLeast_rounds capacity required, ?_⟩,
    fun b hsame ↦ ⟨hsame ▸ target_eq b required, fun hlimit ↦ ?_⟩⟩
  · exact (hfits _).2 (Nat.le_refl _)
  · exact (hfits i).1 hi
  · exact grown_eq_iterate hcapacity
  · rw [grown_eq hcapacity, Nat.min_def]
  · have hroom : required ≤ b.target required := le_target hrequired hlimit
    refine ⟨hroom, fun hmore ↦ Nat.lt_of_lt_of_le hmore hroom, fun entry hentry ↦ ?_⟩
    have hboth : (b.contents ++ entry).size = required := by
      rw [ByteArray.size_append]
      exact hentry
    refine ⟨by omega, by rwa [hboth], contents_move .., ?_⟩
    rw [contents_commit, contents_move, hboth]
    exact hroom

/-- From no room at all to one byte more than the largest power of two: sixty-four passes end at the
largest word, and the ceiling takes the rest back. Three bytes and ten more under a ceiling of
fourteen: three passes make twenty-four of three, the ceiling fourteen. -/
theorem growing_ends_at_largest_word :
    let vast : Buffer :=
      { contents := .empty, capacity := 0, maxEntry := 8, ceiling := some (2 ^ 63 + 1) }
    let small : Buffer :=
      { contents := ⟨#[1, 2, 3]⟩, committed := 3, capacity := 3, maxEntry := 16
        ceiling := some 14 }
    let entry : ByteArray := ⟨.replicate 10 7⟩
    (2 ^ 63 + 1 ≤ wordMax ∧ (∀ limit ∈ vast.ceiling, 2 ^ 63 + 1 ≤ limit) ∧
      grown (2 ^ 63 + 1) 0 = wordMax ∧ vast.target (2 ^ 63 + 1) = 2 ^ 63 + 1) ∧
    (3 ≤ wordMax ∧ 13 ≤ wordMax ∧ (∀ limit ∈ small.ceiling, 13 ≤ limit) ∧
      small.contents.size + entry.size = 13 ∧ grown 13 3 = 24 ∧ small.target 13 = 14 ∧
      3 < small.target 13 ∧ (small.contents ++ entry).size ≤ small.target 13) := by
  intro vast small entry
  constructor
  · have hrequired : 2 ^ 63 + 1 ≤ wordMax := by decide
    have hlimit : ∀ limit ∈ vast.ceiling, 2 ^ 63 + 1 ≤ limit := by simp [vast]
    obtain ⟨-, -, ⟨k, hleast, hgrown⟩, hclamped⟩ := growing_ends (Nat.zero_le wordMax) hrequired
    have hbeyond : 2 ^ 63 < 2 ^ k := by
      rw [← Nat.one_mul (2 ^ k)]
      exact hleast.1
    have hmany : 63 < k := (Nat.pow_lt_pow_iff_right Nat.one_lt_two).1 hbeyond
    have hword : ¬ max 0 1 * 2 ^ k ≤ wordMax := by
      have htop : 1 * 2 ^ 64 ≤ max 0 1 * 2 ^ k :=
        Nat.mul_le_mul_left 1 (Nat.pow_le_pow_right (by decide) hmany)
      exact Nat.not_le.2 (Nat.lt_of_lt_of_le (by decide) htop)
    refine ⟨hrequired, hlimit, hgrown.trans (if_neg hword), ?_⟩
    exact Nat.le_antisymm (target_le_ceiling _ _ rfl) ((hclamped vast rfl).2 hlimit).1
  · have hlimit : ∀ limit ∈ small.ceiling, 13 ≤ limit := by simp [small]
    have hcapacity : 3 ≤ wordMax := by decide
    have hrequired : 13 ≤ wordMax := by decide
    obtain ⟨-, -, ⟨k, hleast, hgrown⟩, hclamped⟩ := growing_ends hcapacity hrequired
    obtain rfl : k = 3 := hleast.unique (isLeast_rounds 3 13)
    obtain ⟨htarget, hadmitted⟩ := hclamped small rfl
    obtain ⟨-, hmore, hfits⟩ := hadmitted hlimit
    rw [hgrown] at htarget
    exact ⟨hcapacity, hrequired, hlimit, rfl, hgrown, htarget, hmore (by decide),
      (hfits entry rfl).2.1⟩

end DeferredLog.Buffer
