import DeferredLog.Draft
import DeferredLog.Duration

/-!
# What the trigger writes

A producer turns the number of a tick and the time since the trigger was made into the parts of an
entry. The stock producer writes both numbers; the others serve logs whose entries are known
beforehand.
-/

namespace DeferredLog

/-- The parts of the entry for a tick, given the tick's number and the trigger's age. -/
abbrev Producer := Nat → Duration → List Part

namespace Producer

/-- The stock entries: the age in milliseconds between brackets, then the tick. -/
def timer : Producer := fun tick age ↦
  [.text "[", .number age.millis, .text "] Timer ", .number tick, .text " hit\n"]

/-- The stock entries with an age of `period` milliseconds for every tick so far. -/
def steadyTimer (period : Nat) : Producer := fun tick _ ↦
  timer tick (.ofMillis (period * tick))

/-- Entries that tell the tick alone, one to a line. -/
def counter : Producer := fun tick _ ↦
  [.text "Timer ", .number tick, .text " hit\n"]

/-- Entries that tell the tick alone and do not end the line. -/
def plain : Producer := fun tick _ ↦
  [.text "tick ", .number tick]

/-- Given entries over and over; without any, the first tick is already too much. -/
def script (entries : List (List Part)) : Producer := fun tick _ ↦
  entries[(tick - 1) % entries.length]?.getD [.breakdown]

end Producer

end DeferredLog
