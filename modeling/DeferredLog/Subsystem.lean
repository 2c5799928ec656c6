import DeferredLog.Pipeline.Tasks

/-!
# A log as a whole

Starting checks the configuration, makes the log, appends the greeting and hands both tasks over,
the appender first. Stopping ends the trigger before the appender, so that the appender's last drain
sees the last entry. What was told during either is told within its span; the tasks in between are
outside of both.

A stopped log keeps its bytes: cursors go on reading them.
-/

namespace DeferredLog

/-- A log that was started, with the configuration it was started from. -/
structure Subsystem where
  config : Config
  pipeline : Pipeline

namespace Subsystem

/-! ### Starting -/

/-- The log of a configuration before any task runs: new, and greeted if there is a greeting. -/
def greet (c : Config) : Except Failure Buffer := do
  c.validate
  let b ← Buffer.ofConfig c
  match c.banner with
  | none => .ok b
  | some text =>
    match b.append text.toUTF8 with
    | (.ok _, b) => .ok b
    | (.error cause, _) => .error cause

/-- The span of a start. -/
def startSpan (c : Config) : Span :=
  .starting c.initialCapacity.toNat (c.period.millis % UInt64.size)

/-- What a start tells about the log, whether or not it succeeds. -/
def greetNotices (c : Config) : List Notice :=
  match c.validate, Buffer.ofConfig c with
  | .ok _, .ok b => b.birth :: c.banner.toList.flatMap fun text ↦ b.appendNotices text.utf8ByteSize
  | _, _ => []

/-- What a start tells if it fails, latest first. -/
def startJournal (c : Config) : List Record :=
  (greetNotices c).reverse.map fun notice ↦ { notice, span := startSpan c }

/-- Starts a log: the greeted buffer, an empty cell, and both tasks handed over but not yet run. -/
def start (c : Config) (producer : Producer) (uptime : Nat → Duration := fun _ ↦ .ofMillis 0) :
    Except Failure Subsystem := do
  let b ← greet c
  let p : Pipeline :=
    { cell := .empty c.scratchCapacity.toNat, buffer := b, producer, uptime,
      journal := startJournal c }
  let p := (p.spawnAppender.spawnTrigger c.period).note
    (.started b.committed c.scratchCapacity.toNat) (startSpan c)
  .ok ⟨c, p⟩

/-! ### Running -/

/-- Applies a step of the pipeline. -/
def step (s : Subsystem) (f : Pipeline → Pipeline) : Subsystem :=
  { s with pipeline := f s.pipeline }

def settle (s : Subsystem) : Subsystem := s.step Pipeline.settle

def sleep (s : Subsystem) (ms : Nat) : Subsystem := s.step (·.sleep ms)

def jump (s : Subsystem) (ms : Nat) : Subsystem := s.step (·.jump ms)

/-- Appends an entry to the log directly. -/
def append (s : Subsystem) (entry : ByteArray) : Except Failure Nat × Subsystem :=
  let r := s.pipeline.append entry
  (r.1, { s with pipeline := r.2 })

/-- Every count. -/
def stats (s : Subsystem) : Stats :=
  s.pipeline.stats

/-- The diagnostic form. -/
def inspect (s : Subsystem) : String :=
  Text.record "LogSubsystem"
    [("config", s.config.inspect), ("buffer", s.pipeline.buffer.inspect)]

/-! ### Stopping -/

/-- Tells that the trigger's task did not survive, if so. -/
def reportTrigger (p : Pipeline) : Pipeline :=
  match p.trigger with
  | .finished true => p.note .triggerFailed (some .stopping)
  | _ => p

/-- Stops the log: the trigger ends, then the appender, and the final counts are told. A trigger
that has failed does not keep the log from stopping. -/
def stop (s : Subsystem) : Stats × Subsystem :=
  let p := (reportTrigger s.pipeline.stopTrigger.settle).stopAppender.settle
  let stats := p.stats
  let p := p.note
    (.stopped stats.ticks stats.buffer.committed stats.buffer.capacity stats.superseded
      stats.appender.dropped)
    (some .stopping)
  (stats, { s with pipeline := p })

/-- Lets go of the log without waiting: both tasks are hung up on and end in their own time. -/
def drop (s : Subsystem) : Subsystem :=
  s.step fun p ↦ ((p.stopTrigger .hangUp).stopAppender .hangUp).settle

end Subsystem

end DeferredLog
