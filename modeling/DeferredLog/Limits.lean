/-!
# Limits of the machine and of the design

Sizes and offsets are natural numbers throughout; these are the points at which a machine would
stop them.
-/

namespace DeferredLog

/-- The largest size, offset or count a machine word holds. -/
def wordMax : Nat := UInt64.size - 1

/-- No request for this many bytes or more is ever granted: it exceeds the address space. -/
def addressSpace : Nat := 1 <<< 47

/-- The most bytes the cell between trigger and appender can be made to hold. -/
def maxScratchCapacity : Nat := 256

end DeferredLog
