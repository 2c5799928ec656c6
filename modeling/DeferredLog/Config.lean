import DeferredLog.Config.Fault
import DeferredLog.Duration
import DeferredLog.Limits

/-!
# Configuration of a log

Six settings and three presets. Sizes are machine words, since that is what the written form of a
configuration admits. `fault?` looks for the first broken rule in a fixed order, so a configuration
with several faults is always refused for the same one.
-/

namespace DeferredLog

/-- How a log is sized, how often its trigger fires and what it says first. -/
structure Config where
  /-- Bytes of room at the start. -/
  initialCapacity : UInt64
  /-- The largest single entry. -/
  maxEntry : UInt64
  /-- The capacity that growth must not pass, if any. -/
  ceiling : Option UInt64
  /-- Bytes the cell between trigger and appender holds. -/
  scratchCapacity : UInt64
  /-- Time between two fires of the trigger. -/
  period : Duration
  /-- An entry appended once at the start. -/
  banner : Option String
  deriving DecidableEq

namespace Config

/-- A small log with a greeting, fired every five seconds. -/
protected def default : Config where
  initialCapacity := 32
  maxEntry := 32
  ceiling := none
  scratchCapacity := 64
  period := ⟨5, 0, by decide⟩
  banner := some "Hello, world!\n"

/-- A fast trigger, roomy entries and no greeting. -/
def testing : Config where
  initialCapacity := 16
  maxEntry := 64
  ceiling := none
  scratchCapacity := 64
  period := ⟨0, 10000000, by decide⟩
  banner := none

/-- A log of exactly `capacity` bytes that never grows. -/
def fixed (capacity : UInt64) : Config :=
  { Config.default with initialCapacity := capacity, ceiling := some capacity }

/-- The ceiling, if there is one, must leave the capacity of the start in place. -/
def ceilingFault? (c : Config) : Option ConfigFault :=
  match c.ceiling with
  | some limit =>
    if limit < c.initialCapacity then
      some (.ceilingBelowInitial limit.toNat c.initialCapacity.toNat)
    else none
  | none => none

/-- The greeting is an entry like any other and must not exceed the largest. -/
def bannerFault? (c : Config) : Option ConfigFault :=
  match c.banner with
  | some text =>
    if c.maxEntry.toNat < text.utf8ByteSize then
      some (.bannerTooLong text.utf8ByteSize c.maxEntry.toNat)
    else none
  | none => none

/-- The first rule the configuration breaks. -/
def fault? (c : Config) : Option ConfigFault :=
  if c.initialCapacity = 0 then some .zeroInitialCapacity
  else if c.maxEntry = 0 then some .zeroMaxEntry
  else if c.scratchCapacity = 0 ∨ maxScratchCapacity < c.scratchCapacity.toNat then
    some (.scratchOutOfRange maxScratchCapacity c.scratchCapacity.toNat)
  else if c.period.isZero then some .zeroPeriod
  else c.ceilingFault? <|> c.bannerFault?

/-- Refuses a configuration no log can run with. -/
def validate (c : Config) : Except Failure Unit :=
  match c.fault? with
  | some f => .error f.toFailure
  | none => .ok ()

/-- The diagnostic form. -/
def inspect (c : Config) : String :=
  Text.record "KlogConfig"
    [("initial_capacity", toString c.initialCapacity.toNat),
     ("max_entry_size", toString c.maxEntry.toNat),
     ("max_capacity", Text.optional (fun n ↦ toString n.toNat) c.ceiling),
     ("scratch_capacity", toString c.scratchCapacity.toNat),
     ("trigger_period", c.period.inspect),
     ("banner", Text.optional Text.quoted c.banner)]

theorem validate_eq_ok_iff (c : Config) : c.validate = .ok () ↔ c.fault? = none := by
  unfold validate
  split <;> simp_all

/-- The presets can be run, a fixed log as soon as it has any room. -/
theorem fault?_default : Config.default.fault? = none := by decide +kernel

theorem fault?_testing : testing.fault? = none := by decide +kernel

end Config

end DeferredLog
