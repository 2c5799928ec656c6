import DeferredLog.Failure

/-!
# What the log reports about itself

A notice is one thing worth telling a person who runs the log: memory was granted, an entry was
dropped, a task began or ended. A notice knows its urgency, the component that gives it, its words
and its values; how it is written to a line is not its concern.

A record adds the span the notice was given in. Only starting and stopping the whole are spans: the
tasks in between run on their own, outside of both.
-/

namespace DeferredLog

/-- How urgent a notice is, most urgent first. -/
inductive Level where
  | error
  | warn
  | info
  | debug
  | trace
  deriving DecidableEq, Repr

namespace Level

/-- The position on the scale: a level is let through by thresholds at or above it. -/
def verbosity : Level → Nat
  | error => 1
  | warn => 2
  | info => 3
  | debug => 4
  | trace => 5

/-- The level in capital letters. -/
def name : Level → String
  | error => "ERROR"
  | warn => "WARN"
  | info => "INFO"
  | debug => "DEBUG"
  | trace => "TRACE"

end Level

/-- The parts of the log that give notices. -/
inductive Component where
  | buffer
  | appender
  | trigger
  | subsystem
  deriving DecidableEq, Repr

/-- The path by which filters and readers know a component. -/
def Component.path : Component → String
  | buffer => "klog_core::buffer"
  | appender => "klog_core::appender"
  | trigger => "klog_core::trigger"
  | subsystem => "klog_core::subsystem"

/-- One thing worth telling. -/
inductive Notice where
  /-- Memory for a new log was granted. -/
  | allocated (initial maxEntry : Nat) (ceiling : Option Nat)
  /-- An entry would take the log past its ceiling. -/
  | full (required limit : Nat)
  /-- Memory for a larger log was not granted. -/
  | growthFailed (old new : Nat)
  /-- The log moved to a larger memory. -/
  | grew (old new : Nat)
  /-- A drain found nothing in the cell. -/
  | drainEmpty
  /-- A drain moved an entry into the log. -/
  | entryCommitted (written offset : Nat)
  /-- A drain lost an entry that the log refused. -/
  | entryDropped (size : Nat) (cause : Failure)
  | appenderStarted
  /-- Work was left when the appender was told to stop. -/
  | finalDrain
  | appenderStopped (drains committed dropped superseded : Nat)
  | triggerArmed (periodMillis : Nat)
  | triggerDisarmed (ticks : Nat)
  | started (committed scratchCapacity : Nat)
  /-- The trigger did not survive its producer. -/
  | triggerFailed
  | stopped (ticks committed capacity superseded dropped : Nat)
  deriving DecidableEq, Repr

namespace Notice

/-- A value told along with a notice. -/
inductive Value where
  | number (n : Nat)
  | text (s : String)
  /-- Words that only the running system has, such as a task's dying message. -/
  | ambient
  deriving DecidableEq, Repr

def level : Notice → Level
  | triggerFailed => .error
  | full .. | growthFailed .. | entryDropped .. => .warn
  | appenderStarted | appenderStopped .. | triggerArmed _ | started .. | stopped .. => .info
  | allocated .. | grew .. | finalDrain | triggerDisarmed _ => .debug
  | drainEmpty | entryCommitted .. => .trace

def component : Notice → Component
  | allocated .. | full .. | growthFailed .. | grew .. => .buffer
  | drainEmpty | entryCommitted .. | entryDropped .. | appenderStarted | finalDrain
  | appenderStopped .. => .appender
  | triggerArmed _ | triggerDisarmed _ => .trigger
  | started .. | triggerFailed | stopped .. => .subsystem

/-- The words of the notice, without its values. -/
def message : Notice → String
  | allocated .. => "Log buffer allocated"
  | full .. => "Log buffer full"
  | growthFailed .. => "Failed to grow log buffer"
  | grew .. => "Log buffer grown"
  | drainEmpty => "Drain found no new entry"
  | entryCommitted .. => "Entry committed"
  | entryDropped .. => "Dropped scratch entry"
  | appenderStarted => "Appender started"
  | finalDrain => "Final drain before shutdown"
  | appenderStopped .. => "Appender stopped"
  | triggerArmed _ => "Trigger armed"
  | triggerDisarmed _ => "Trigger disarmed"
  | started .. => "Log subsystem started"
  | triggerFailed => "Trigger task failed"
  | stopped .. => "Log subsystem stopped"

/-- The values of the notice under their names, in the order they are told. -/
def fields : Notice → List (String × Value)
  | allocated initial maxEntry ceiling =>
    [("initial_capacity", .number initial), ("max_entry_size", .number maxEntry),
     ("max_capacity", .text (Text.optional toString ceiling))]
  | full required limit => [("required", .number required), ("limit", .number limit)]
  | growthFailed old new | grew old new =>
    [("old_capacity", .number old), ("new_capacity", .number new)]
  | drainEmpty | appenderStarted | finalDrain => []
  | entryCommitted written offset => [("written", .number written), ("committed", .number offset)]
  | entryDropped size cause => [("len", .number size), ("error", .text cause.message)]
  | appenderStopped drains committed dropped superseded =>
    [("drains", .number drains), ("committed", .number committed), ("dropped", .number dropped),
     ("superseded", .number superseded)]
  | triggerArmed period => [("period_ms", .number period)]
  | triggerDisarmed ticks => [("ticks", .number ticks)]
  | started committed scratch =>
    [("committed", .number committed), ("scratch_capacity", .number scratch)]
  | triggerFailed => [("error", .ambient)]
  | stopped ticks committed capacity superseded dropped =>
    [("ticks", .number ticks), ("committed", .number committed), ("capacity", .number capacity),
     ("superseded", .number superseded), ("dropped", .number dropped)]

/-- The name under which the words are told. -/
def messageName : String := "message"

/-- The names of all that is told: the words come first. -/
def names (n : Notice) : List String :=
  messageName :: n.fields.map (·.1)

end Notice

/-- A stretch of work that notices are given in. -/
inductive Span where
  | starting (initialCapacity periodMillis : Nat)
  | stopping
  deriving DecidableEq, Repr

namespace Span

def name : Span → String
  | starting .. => "start_with_producer"
  | stopping => "stop"

def fields : Span → List (String × Notice.Value)
  | starting initial period => [("initial_capacity", .number initial), ("period_ms", .number period)]
  | stopping => []

/-- Spans are filtered like notices of this level from `component`. -/
def level : Span → Level := fun _ ↦ .info

def component : Span → Component := fun _ ↦ .subsystem

end Span

/-- A notice together with the span it was given in. -/
structure Record where
  notice : Notice
  span : Option Span := none
  deriving DecidableEq, Repr

/-- The record without its span unless that is open. -/
def Record.within (r : Record) (isOpen : Span → Bool) : Record :=
  { r with span := r.span.filter isOpen }

end DeferredLog
