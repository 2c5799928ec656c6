/-!
# Sets of code points given by where membership changes

A set of code points is kept as the ascending list of the points at which membership changes,
starting outside the set: `[a, b, c, d]` stands for the points from `a` up to but not including `b`
and those from `c` up to but not including `d`. Membership is the parity of the changes up to a
point, so a table needs no search structure.
-/

namespace DeferredLog.Text

/-- Whether `point` lies in the set whose membership changes at the points of `flips`. -/
def inFlips (flips : List Nat) (point : Nat) : Bool :=
  flips.countP (· ≤ point) % 2 == 1

end DeferredLog.Text
