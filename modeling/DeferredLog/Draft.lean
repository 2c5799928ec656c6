import DeferredLog.Bytes

/-!
# Formatting an entry in bounded room

An entry is formatted part by part into room that is fixed beforehand. What does not fit is cut,
and the draft remembers that something was; formatting goes on, so the parts need not know how much
room there is. Only the bytes of all parts together matter, not how they were split.
-/

namespace DeferredLog

/-- One step of formatting an entry. -/
inductive Part where
  | text (s : String)
  | char (c : Char)
  | bytes (b : ByteArray)
  /-- A natural number in decimal digits. -/
  | number (n : Nat)
  /-- Formatting gives up; what is written stays. -/
  | fail
  /-- The producer breaks down; nothing is published. -/
  | breakdown
  deriving DecidableEq

/-- The bytes a part adds, unless it ends the formatting. -/
def Part.bytes? : Part → Option ByteArray
  | text s => some s.toUTF8
  | char c => some (String.singleton c).toUTF8
  | bytes b => some b
  | number n => some (toString n).toUTF8
  | fail => none
  | breakdown => none

/-- An entry in the making. -/
structure Draft where
  /-- The room for the entry. -/
  capacity : Nat
  bytes : ByteArray := .empty
  /-- Whether something did not fit. -/
  truncated : Bool := false
  deriving DecidableEq

namespace Draft

/-- How a formatting ends. -/
inductive Ending where
  | complete
  | failed
  | broken
  deriving DecidableEq, Repr

/-- The room that is left. -/
def remaining (d : Draft) : Nat :=
  d.capacity - d.bytes.size

def isEmpty (d : Draft) : Bool :=
  d.bytes.size == 0

/-- Adds as many of the bytes as there is room for. -/
def put (d : Draft) (added : ByteArray) : Draft :=
  { d with
    bytes := d.bytes ++ added.extract 0 d.remaining
    truncated := d.truncated || decide (d.remaining < added.size) }

/-- Runs the parts up to the first that ends the formatting. -/
def run (d : Draft) : List Part → Ending × Draft
  | [] => (.complete, d)
  | .fail :: _ => (.failed, d)
  | .breakdown :: _ => (.broken, d)
  | .text s :: rest => (d.put s.toUTF8).run rest
  | .char c :: rest => (d.put (String.singleton c).toUTF8).run rest
  | .bytes b :: rest => (d.put b).run rest
  | .number n :: rest => (d.put (toString n).toUTF8).run rest

/-- The draft before the first part and after each part that was written. -/
def stages (d : Draft) : List Part → List Draft
  | [] => [d]
  | part :: rest =>
    match part.bytes? with
    | some added => d :: (d.put added).stages rest
    | none => [d]

@[simp] theorem capacity_put (d : Draft) (added : ByteArray) :
    (d.put added).capacity = d.capacity := rfl

/-- A part that adds bytes puts them and goes on. -/
theorem run_cons_of_bytes? {part : Part} {added : ByteArray} (h : part.bytes? = some added)
    (d : Draft) (rest : List Part) : d.run (part :: rest) = (d.put added).run rest := by
  cases part <;> simp_all [Part.bytes?, run]

end Draft

end DeferredLog
