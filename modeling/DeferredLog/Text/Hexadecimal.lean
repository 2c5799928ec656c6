/-!
# Hexadecimal digits

The sixteen digits, those above nine being letters of either case. A digit's value is below sixteen,
so digits in a row spell each number in one way, leading zeros and case aside.
-/

namespace DeferredLog.Text

/-- The value of a hexadecimal digit. -/
def hexDigit? (c : Char) : Option Nat :=
  if '0' ≤ c ∧ c ≤ '9' then some (c.toNat - '0'.toNat)
  else if 'a' ≤ c ∧ c ≤ 'f' then some (c.toNat - 'a'.toNat + 10)
  else if 'A' ≤ c ∧ c ≤ 'F' then some (c.toNat - 'A'.toNat + 10)
  else none

/-- The number that digits spell, none if one of them is no digit. -/
def hexNumber? (digits : List Char) : Option Nat :=
  digits.foldl (fun number c ↦ number.bind fun n ↦ (hexDigit? c).map (16 * n + ·)) (some 0)

end DeferredLog.Text
