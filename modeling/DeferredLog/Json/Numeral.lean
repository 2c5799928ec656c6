import DeferredLog.Json.Reader
import DeferredLog.Limits

/-!
# Numbers as JSON writes them

A numeral is taken apart before anyone asks for its value: sign, whole part, fraction, exponent. Only
a whole part alone, without a sign, is a natural number; everything else is a number of another kind,
which no setting of the library takes.

A numeral is also refused if it is beyond the range of double precision. That range is decided on
exact natural numbers: the first digits that fit a machine word and the power of ten each round to
the nearest double, and their product is out of range if it rounds past the largest double.
-/

namespace DeferredLog.Json

/-- A number as it is written. -/
structure Numeral where
  negative : Bool
  whole : List Char
  fraction : List Char := []
  /-- Whether the exponent is negative, and its digits. -/
  exponent : Option (Bool × List Char) := none
  deriving DecidableEq, Repr

/-- The digits at the front of a text, and the rest. -/
def digitsOf (cs : List Char) : List Char × List Char :=
  cs.span Char.isDigit

/-- The fault of a text that has `cs` where a digit must stand. -/
def digitFault (atEnd : Fault) (cs : List Char) : Fault :=
  if cs.isEmpty then atEnd else .malformed

namespace Numeral

/-- Reads the exponent of a numeral, if it has one. -/
def scanExponent (atEnd : Fault) (n : Numeral) (cs : List Char) :
    Except Fault (Numeral × List Char) :=
  match cs with
  | [] => .ok (n, [])
  | c :: rest =>
    if c = 'e' ∨ c = 'E' then
      let (negative, rest) :=
        match rest with
        | '+' :: rest => (false, rest)
        | '-' :: rest => (true, rest)
        | rest => (false, rest)
      match digitsOf rest with
      | ([], _) => .error (digitFault atEnd rest)
      | (digits, rest) => .ok ({ n with exponent := some (negative, digits) }, rest)
    else .ok (n, c :: rest)

/-- Reads the fraction of a numeral, if it has one, and then its exponent. -/
def scanFraction (atEnd : Fault) (n : Numeral) (cs : List Char) :
    Except Fault (Numeral × List Char) :=
  match cs with
  | '.' :: rest =>
    match digitsOf rest with
    | ([], _) => .error (digitFault atEnd rest)
    | (digits, rest) => scanExponent atEnd { n with fraction := digits } rest
  | _ => scanExponent atEnd n cs

/-- Reads a numeral. A whole part of several digits does not begin with zero. `atEnd` is the fault
of a text that ends where a digit must stand. -/
def scan (atEnd : Fault) (cs : List Char) : Except Fault (Numeral × List Char) :=
  let (negative, cs) :=
    match cs with
    | '-' :: rest => (true, rest)
    | _ => (false, cs)
  match digitsOf cs with
  | ([], _) => .error (digitFault atEnd cs)
  | ('0' :: _ :: _, _) => .error .malformed
  | (digits, rest) => scanFraction atEnd { negative, whole := digits } rest

/-- The natural number that a numeral without sign, fraction and exponent writes, if a machine word
holds it. -/
def natural? (n : Numeral) : Option Nat :=
  let value := Nat.ofDigitChars 10 n.whole 0
  if !n.negative && n.fraction.isEmpty && n.exponent.isNone && decide (value ≤ wordMax) then
    some value
  else none

/-! ### The range of double precision -/

/-- A natural number rounded to 53 binary digits, a tie to the even neighbour. -/
def nearestDouble (n : Nat) : Nat :=
  let shift := n.log2 - 52
  let kept := n >>> shift
  let lost := n % (1 <<< shift)
  let half := (1 <<< shift) / 2
  let up := 0 < shift ∧ (half < lost ∨ (lost = half ∧ kept % 2 = 1))
  (if up then kept + 1 else kept) <<< shift

/-- The least product that rounds past the largest double. -/
def doubleEnd : Nat := (1 <<< 1024) - (1 <<< 970)

/-- The number read from as many digits as a machine word takes, and the digits left. -/
def leading : Nat → List Char → Nat × List Char
  | value, [] => (value, [])
  | value, c :: rest =>
    let next := value * 10 + (c.toNat - '0'.toNat)
    if next ≤ wordMax then leading next rest else (value, c :: rest)

/-- The leading digits and the power of ten that stand for the numeral's magnitude. -/
def scaled (n : Numeral) : Nat × Int :=
  let (value, wholeLeft) := leading 0 n.whole
  let (value, fractionLeft) := leading value n.fraction
  let exponent : Int :=
    match n.exponent with
    | none => 0
    | some (true, digits) => -(Nat.ofDigitChars 10 digits 0 : Int)
    | some (false, digits) => Nat.ofDigitChars 10 digits 0
  (value, wholeLeft.length - (n.fraction.length - fractionLeft.length : Nat) + exponent)

/-- Whether the numeral is beyond the range of double precision. -/
def isOutOfRange (n : Numeral) : Bool :=
  n.natural?.isNone &&
    match n.scaled with
    | (0, _) => false
    | (value, .ofNat e) => 308 < e || doubleEnd ≤ nearestDouble value * nearestDouble (Nat.pow 10 e)
    | (_, .negSucc _) => false

example : nearestDouble (2 ^ 53 + 1) = 2 ^ 53 ∧ nearestDouble (2 ^ 53 + 3) = 2 ^ 53 + 4 := by
  decide +kernel

end Numeral

/-- Reads a numeral within the range of double precision. -/
def numeral : Reader Numeral := fun cs ↦
  match Numeral.scan .truncated cs with
  | .error fault => .error fault
  | .ok (n, rest) => if n.isOutOfRange then .error .malformed else .ok (n, rest)

end DeferredLog.Json
