/-!
# Spans of time

Whole seconds in a machine word and nanoseconds below one second, so every span has one form.
Timetables are kept in nanoseconds; `millis` is what texts tell of a span.
-/

namespace DeferredLog

/-- A span of time. -/
structure Duration where
  secs : UInt64
  nanos : Nat := 0
  nanos_lt : nanos < 1000000000 := by decide
  deriving DecidableEq

namespace Duration

/-- Nanoseconds in the whole span. -/
def totalNanos (d : Duration) : Nat :=
  -- the constant first: a checker of proofs unfolds a product along its second factor
  1000000000 * d.secs.toNat + d.nanos

/-- A span given in seconds and any number of nanoseconds, whole seconds of which are carried;
none if the seconds then exceed a machine word. -/
def carry? (secs : UInt64) (nanos : Nat) : Option Duration :=
  if secs.toNat + nanos / 1000000000 < UInt64.size then
    some ⟨UInt64.ofNat (secs.toNat + nanos / 1000000000), nanos % 1000000000,
      Nat.mod_lt _ (by decide)⟩
  else none

/-- A span of whole milliseconds. -/
def ofMillis (ms : Nat) : Duration :=
  ⟨UInt64.ofNat (ms / 1000), ms % 1000 * 1000000, by omega⟩

/-- Whole milliseconds in the span, the rest dropped. -/
def millis (d : Duration) : Nat :=
  d.secs.toNat * 1000 + d.nanos / 1000000

/-- Whether the span is empty. -/
def isZero (d : Duration) : Bool :=
  d.secs == 0 && d.nanos == 0

/-- `digits` written in `places` decimal places, without the zeros at their end and without the
point if nothing is left. -/
def fraction (places digits : Nat) : String :=
  let written := (Nat.toDigits 10 digits)
  let padded := List.replicate (places - written.length) '0' ++ written
  let kept := (padded.reverse.dropWhile (· = '0')).reverse
  if kept.isEmpty then "" else "." ++ String.ofList kept

/-- The diagnostic form: the largest of the units s, ms, µs, ns in which the span is not below one,
with as many decimal places as it needs. -/
def inspect (d : Duration) : String :=
  if d.secs ≠ 0 then toString d.secs.toNat ++ fraction 9 d.nanos ++ "s"
  else if 1000000 ≤ d.nanos then
    toString (d.nanos / 1000000) ++ fraction 6 (d.nanos % 1000000) ++ "ms"
  else if 1000 ≤ d.nanos then
    toString (d.nanos / 1000) ++ fraction 3 (d.nanos % 1000) ++ "µs"
  else toString d.nanos ++ "ns"

/-- Carrying keeps the length of the span. -/
theorem totalNanos_of_carry? {secs : UInt64} {nanos : Nat} {d : Duration}
    (h : carry? secs nanos = some d) :
    d.totalNanos = secs.toNat * 1000000000 + nanos := by
  unfold carry? at h
  split at h
  · next hlt =>
    cases h
    simp only [totalNanos, UInt64.toNat_ofNat_of_lt' hlt]
    omega
  · cases h

/-- A span whose nanoseconds are already below a second is carried as it is. -/
@[simp] theorem carry?_self (d : Duration) : carry? d.secs d.nanos = some d := by
  obtain ⟨secs, nanos, h⟩ := d
  have hdiv : nanos / 1000000000 = 0 := Nat.div_eq_of_lt h
  have hmod : nanos % 1000000000 = nanos := Nat.mod_eq_of_lt h
  have hlt : secs.toNat < 18446744073709551616 := secs.toNat_lt
  simp [carry?, hdiv, hmod, hlt]

theorem isZero_iff (d : Duration) : d.isZero = true ↔ d.totalNanos = 0 := by
  obtain ⟨secs, nanos, h⟩ := d
  simp only [isZero, totalNanos, Bool.and_eq_true, beq_iff_eq, ← UInt64.toNat_inj,
    UInt64.toNat_zero]
  omega

example : (⟨1, 5, by decide⟩ : Duration).inspect = "1.000000005s" := by decide +kernel
example : (⟨0, 250000000, by decide⟩ : Duration).inspect = "250ms" := by decide +kernel

end Duration

end DeferredLog
