import DeferredLog.Limits

/-!
# Growth by doubling

A log that needs room doubles its capacity until the request fits, starting from one if it had
none, and stops at the largest machine word. Doubling makes the capacity depend on the bytes
committed and not on how they were split into entries, and keeps the number of moves logarithmic.
-/

namespace DeferredLog.Buffer

/-- One round: twice the capacity, at most the largest word. -/
def doubled (capacity : Nat) : Nat :=
  min (2 * capacity) wordMax

/-- The capacity after doubling `capacity`, or one if there was none, until `required` fits or the
largest word is reached. -/
def grown (required capacity : Nat) : Nat :=
  let c := max capacity 1
  if c < required ∧ c < wordMax then grown required (doubled c) else c
termination_by wordMax - capacity
decreasing_by simp only [doubled]; omega

/-- Doubling goes on until the request fits, up to the largest word. -/
theorem le_grown {required capacity : Nat} (h : required ≤ wordMax) :
    required ≤ grown required capacity := by
  fun_induction grown required capacity <;> omega

example : grown 40 2 = 64 ∧ grown 1 0 = 1 ∧ grown 9 8 = 16 := by decide +kernel

end DeferredLog.Buffer
