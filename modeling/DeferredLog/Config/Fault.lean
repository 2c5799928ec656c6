import DeferredLog.Failure

/-!
# What is wrong with a configuration

One cause per rule that a configuration can break, with its wording. The log itself reports one of
them too: its ceiling must not lie below the capacity it starts with, whoever asks for it.
-/

namespace DeferredLog

/-- A rule of the configuration that is broken. -/
inductive ConfigFault where
  | zeroInitialCapacity
  | zeroMaxEntry
  | scratchOutOfRange (most given : Nat)
  | zeroPeriod
  | ceilingBelowInitial (ceiling initial : Nat)
  | bannerTooLong (size limit : Nat)
  deriving DecidableEq, Repr

namespace ConfigFault

/-- What the user is told. -/
def message : ConfigFault → String
  | zeroInitialCapacity => "initial_capacity must be non-zero"
  | zeroMaxEntry => "max_entry_size must be non-zero"
  | scratchOutOfRange most given => s!"scratch_capacity must be between 1 and {most}, got {given}"
  | zeroPeriod => "trigger_period must be non-zero"
  | ceilingBelowInitial ceiling initial =>
    s!"max_capacity {ceiling} is below initial_capacity {initial}"
  | bannerTooLong size limit => s!"banner is {size} bytes, max_entry_size is {limit}"

/-- A broken rule as a refusal. -/
def toFailure (f : ConfigFault) : Failure :=
  .badConfig f.message

end ConfigFault

end DeferredLog
