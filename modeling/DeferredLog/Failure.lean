import DeferredLog.Text.Quoted

/-!
# Why an operation is refused

The five causes the log can give, their wording, and how they look to a caller that reads and seeks
through a byte stream. A refusal changes nothing but a count, so a caller may go on after any of
them; only a rejected configuration cannot be cured by trying again.
-/

namespace DeferredLog

/-- Why an operation of the log is refused. -/
inductive Failure where
  /-- An entry of `size` bytes where at most `limit` are taken. -/
  | entryTooLarge (size limit : Nat)
  /-- Memory for `requested` bytes was not granted. -/
  | outOfMemory (requested : Nat)
  /-- The log would need `requested` bytes and must not exceed `limit`. -/
  | capacityExceeded (requested limit : Nat)
  /-- A call that makes no sense, such as a seek before the start. -/
  | invalidArgument (reason : String)
  /-- A configuration that no log can run with. -/
  | badConfig (reason : String)
  deriving DecidableEq, Repr, Inhabited

namespace Failure

/-- What the user is told. -/
def message : Failure → String
  | entryTooLarge size limit => s!"Entry too large: {size} bytes exceeds limit of {limit}"
  | outOfMemory requested => s!"Out of memory: failed to allocate {requested} bytes"
  | capacityExceeded requested limit =>
    s!"Capacity exceeded: {requested} bytes needed, maximum is {limit}"
  | invalidArgument reason => s!"Invalid argument: {reason}"
  | badConfig reason => s!"Configuration error: {reason}"

/-- Whether a later call can succeed on the same log. -/
def isRecoverable : Failure → Bool
  | badConfig _ => false
  | _ => true

/-- The diagnostic form. -/
def inspect : Failure → String
  | entryTooLarge size limit =>
    Text.record "EntryTooLarge" [("size", toString size), ("limit", toString limit)]
  | outOfMemory requested => Text.record "OutOfMemory" [("requested", toString requested)]
  | capacityExceeded requested limit =>
    Text.record "CapacityExceeded" [("requested", toString requested), ("limit", toString limit)]
  | invalidArgument reason => "InvalidArgument(" ++ Text.quoted reason ++ ")"
  | badConfig reason => "Config(" ++ Text.quoted reason ++ ")"

end Failure

/-- The kinds of fault a byte stream reports. -/
inductive StreamFault.Kind where
  | invalidInput
  | outOfMemory
  | unexpectedEnd
  | invalidData
  | other
  deriving DecidableEq, Repr

/-- A fault of a byte stream: its kind and what the user is told. -/
structure StreamFault where
  kind : StreamFault.Kind
  message : String
  deriving DecidableEq, Repr

namespace StreamFault

/-- The stream ended before the bytes asked for. -/
def unexpectedEnd : StreamFault := ⟨.unexpectedEnd, "failed to fill whole buffer"⟩

/-- The bytes of the stream are no text. -/
def invalidText : StreamFault := ⟨.invalidData, "stream did not contain valid UTF-8"⟩

/-- A refusal of the log as a stream's fault: a caller's mistake is invalid input, a lack of room is
a lack of memory; the wording stays. -/
def ofFailure (f : Failure) : StreamFault where
  kind :=
    match f with
    | .invalidArgument _ | .entryTooLarge .. => .invalidInput
    | .outOfMemory _ | .capacityExceeded .. => .outOfMemory
    | .badConfig _ => .other
  message := f.message

end StreamFault

end DeferredLog
