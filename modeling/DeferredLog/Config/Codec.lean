import DeferredLog.Config
import DeferredLog.Json
import DeferredLog.Json.Shape

/-!
# The written form of a configuration

A configuration is written as a compact JSON object with its six settings in order. It is read from
any JSON object that has the settings among its members, once each, or from an array of the six
values. The ceiling and the greeting may be null, or missing from an object.

A span of time is an object of seconds and nanoseconds and nothing else, or an array of the two;
nanoseconds beyond a second are carried.
-/

namespace DeferredLog

/-! ### Writing -/

/-- A span as its seconds and nanoseconds. -/
def Duration.toJson (d : Duration) : Json :=
  .object [("secs", .number d.secs.toNat), ("nanos", .number d.nanos)]

namespace Config

def toJson (c : Config) : Json :=
  .object
    [("initial_capacity", .number c.initialCapacity.toNat),
     ("max_entry_size", .number c.maxEntry.toNat),
     ("max_capacity", .ofOption (fun n ↦ .number n.toNat) c.ceiling),
     ("scratch_capacity", .number c.scratchCapacity.toNat),
     ("trigger_period", c.period.toJson),
     ("banner", .ofOption .string c.banner)]

/-- The written form. -/
def text (c : Config) : String :=
  c.toJson.text

end Config

/-! ### Reading -/

namespace Duration

/-- The parts of a span that were read. -/
structure Parts where
  secs : Option UInt64 := none
  nanos : Option Nat := none

/-- Seconds and nanoseconds, the latter in half a word, and no other members. -/
def layout : Json.Layout Parts where
  names := ["secs", "nanos"]
  closed := true
  isSet name acc := if name = "secs" then acc.secs.isSome else acc.nanos.isSome
  setting name acc :=
    if name = "secs" then do return { acc with secs := some (← Json.Reader.uint64) }
    else do return { acc with nanos := some (← Json.Reader.natural (UInt32.size - 1)) }

/-- Reads a span. -/
def reader : Json.Reader Duration :=
  layout.record {} fun acc ↦ do
    Json.required (carry? (← Json.required acc.secs) (← Json.required acc.nanos))

end Duration

namespace Config

/-- The settings of a configuration that were read. A setting that may be absent is read as such. -/
structure Parts where
  initialCapacity : Option UInt64 := none
  maxEntry : Option UInt64 := none
  ceiling : Option (Option UInt64) := none
  scratchCapacity : Option UInt64 := none
  period : Option Duration := none
  banner : Option (Option String) := none

/-- The six settings; other members are passed over. -/
def layout : Json.Layout Parts where
  names :=
    ["initial_capacity", "max_entry_size", "max_capacity", "scratch_capacity", "trigger_period",
     "banner"]
  isSet name acc :=
    match name with
    | "initial_capacity" => acc.initialCapacity.isSome
    | "max_entry_size" => acc.maxEntry.isSome
    | "max_capacity" => acc.ceiling.isSome
    | "scratch_capacity" => acc.scratchCapacity.isSome
    | "trigger_period" => acc.period.isSome
    | _ => acc.banner.isSome
  setting name acc :=
    match name with
    | "initial_capacity" => do return { acc with initialCapacity := some (← Json.Reader.uint64) }
    | "max_entry_size" => do return { acc with maxEntry := some (← Json.Reader.uint64) }
    | "max_capacity" => do return { acc with ceiling := some (← Json.Reader.orNull Json.Reader.uint64) }
    | "scratch_capacity" => do return { acc with scratchCapacity := some (← Json.Reader.uint64) }
    | "trigger_period" => do return { acc with period := some (← Duration.reader) }
    | _ => do return { acc with banner := some (← Json.Reader.orNull Json.Reader.string) }

/-- The configuration of the settings that were read; ceiling and greeting may be missing. -/
def ofParts (acc : Parts) : Except Json.Fault Config := do
  return {
    initialCapacity := ← Json.required acc.initialCapacity
    maxEntry := ← Json.required acc.maxEntry
    ceiling := acc.ceiling.getD none
    scratchCapacity := ← Json.required acc.scratchCapacity
    period := ← Json.required acc.period
    banner := acc.banner.getD none }

/-- Reads a configuration. -/
def reader : Json.Reader Config :=
  layout.record {} ofParts

/-- Reads a whole text as a configuration. -/
def ofText (text : String) : Except Json.Fault Config :=
  Json.decode reader text

end Config

end DeferredLog
