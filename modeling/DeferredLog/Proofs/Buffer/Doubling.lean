import DeferredLog.Buffer.Growth
import Mathlib.Algebra.Order.Floor.Div
import Mathlib.Data.Nat.Log

/-!
# Doubling in closed form

Growing takes as many rounds as doubling needs at least: `rounds first required` is the least `k`
for which `first`, or one if it is zero, holds `required` after `k` doublings (`rounds_le_iff`,
which is all that later theory uses of it). Growing then ends at that multiple, or at the largest
machine word if the multiple lies beyond (`grown_eq`).

The rounds add up: a capacity that doubling from `first` has reached takes the rounds that are still
missing and no more (`grown_of_doubled`). This is why the way to a capacity does not show in it.
-/

namespace DeferredLog.Buffer

variable {first required k : ℕ}

/-- How often `first`, or one if it is zero, must be doubled until `required` fits. -/
def rounds (first required : ℕ) : ℕ :=
  Nat.clog 2 (required ⌈/⌉ max first 1)

theorem rounds_le_iff : rounds first required ≤ k ↔ required ≤ max first 1 * 2 ^ k := by
  rw [rounds, Nat.clog_le_iff_le_pow (by decide), ceilDiv_le_iff_le_mul (by omega)]

theorem lt_rounds_iff : k < rounds first required ↔ max first 1 * 2 ^ k < required := by
  rw [← Nat.not_le, rounds_le_iff, Nat.not_le]

theorem le_doubled_rounds (first required : ℕ) :
    required ≤ max first 1 * 2 ^ rounds first required :=
  rounds_le_iff.1 (Nat.le_refl _)

/-- The number of rounds is the least that suffices. -/
theorem isLeast_rounds (first required : ℕ) :
    IsLeast {k | required ≤ max first 1 * 2 ^ k} (rounds first required) :=
  ⟨le_doubled_rounds first required, fun _ hk ↦ rounds_le_iff.2 hk⟩

theorem rounds_mono (first : ℕ) {required later : ℕ} (h : required ≤ later) :
    rounds first required ≤ rounds first later :=
  rounds_le_iff.2 (Nat.le_trans h (le_doubled_rounds first later))

/-- Of a multiple that doubling has reached, the rounds that are missing. -/
theorem rounds_doubled (first required k : ℕ) :
    rounds (max first 1 * 2 ^ k) required = rounds first required - k := by
  have hpos : max (max first 1 * 2 ^ k) 1 = max first 1 * 2 ^ k :=
    Nat.max_eq_left (Nat.mul_pos (by omega) (Nat.two_pow_pos k))
  refine Nat.le_antisymm (rounds_le_iff.2 ?_) (Nat.sub_le_of_le_add (rounds_le_iff.2 ?_))
  · rw [hpos, Nat.mul_assoc, ← Nat.pow_add]
    exact rounds_le_iff.1 (by omega)
  · have hleast := le_doubled_rounds (max first 1 * 2 ^ k) required
    rwa [hpos, Nat.mul_assoc, ← Nat.pow_add, Nat.add_comm k] at hleast

/-- The largest word is not doubled. -/
theorem grown_of_wordMax_le {capacity : ℕ} (h : wordMax ≤ capacity) :
    grown required capacity = capacity := by
  rw [grown, if_neg (by omega)]
  exact Nat.max_eq_left (Nat.le_trans (by decide) h)

/-- Growing ends where doubling first suffices, at the latest at the largest word. -/
theorem grown_eq {capacity : ℕ} (h : capacity ≤ wordMax) :
    grown required capacity = min (max capacity 1 * 2 ^ rounds capacity required) wordMax := by
  fun_induction grown required capacity with
  | case1 capacity c hgoes ih =>
    have hround : 0 < rounds capacity required :=
      lt_rounds_iff.2 (by rw [Nat.pow_zero, Nat.mul_one]; exact hgoes.1)
    by_cases hfits : 2 * c ≤ wordMax
    · -- one round is done, and those that are missing are one less
      have hdoubled : doubled c = c * 2 ^ 1 := by unfold doubled; omega
      rw [ih (by unfold doubled; omega), hdoubled, rounds_doubled capacity required 1,
        Nat.max_eq_left (by omega), Nat.mul_assoc, ← Nat.pow_add, Nat.add_sub_cancel' hround]
    · have hdoubled : doubled c = wordMax := by unfold doubled; omega
      have hbeyond : c * 2 ^ 1 ≤ c * 2 ^ rounds capacity required :=
        Nat.mul_le_mul_left c (Nat.pow_le_pow_right (by decide) hround)
      rw [hdoubled, grown_of_wordMax_le (Nat.le_refl _)]
      refine (Nat.min_eq_right ?_).symm
      show wordMax ≤ c * 2 ^ rounds capacity required
      omega
  | case2 capacity c hends =>
    have hself : c ≤ c * 2 ^ rounds capacity required :=
      Nat.le_mul_of_pos_right c (Nat.two_pow_pos _)
    have hword : c ≤ wordMax := Nat.max_le.2 ⟨h, by decide⟩
    by_cases hfits : required ≤ c
    · have hnone : rounds capacity required = 0 :=
        Nat.le_zero.1 (rounds_le_iff.2 (by rw [Nat.pow_zero, Nat.mul_one]; exact hfits))
      rw [hnone, Nat.pow_zero, Nat.mul_one]
      exact (Nat.min_eq_left hword).symm
    · show c = min (c * 2 ^ rounds capacity required) wordMax
      omega

/-- From a capacity that doubling has reached, growing ends where it ends from the beginning. -/
theorem grown_of_doubled {first k : ℕ} (hword : max first 1 * 2 ^ k ≤ wordMax)
    (hk : k ≤ rounds first required) :
    grown required (max first 1 * 2 ^ k) =
      min (max first 1 * 2 ^ rounds first required) wordMax := by
  rw [grown_eq hword, rounds_doubled,
    Nat.max_eq_left (Nat.mul_pos (by omega) (Nat.two_pow_pos k)), Nat.mul_assoc, ← Nat.pow_add,
    Nat.add_sub_cancel' hk]

end DeferredLog.Buffer
