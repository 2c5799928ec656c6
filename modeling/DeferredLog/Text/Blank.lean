import DeferredLog.Text.Flips

/-!
# Blank characters

The characters that stand for white space in some script: spaces of every width, tabs and the ends
of lines and paragraphs.
-/

namespace DeferredLog.Text

/-- Where the blank characters begin and end. -/
def blankFlips : List Nat :=
  [0x09, 0x0e, 0x20, 0x21, 0x85, 0x86, 0xa0, 0xa1, 0x1680, 0x1681, 0x2000, 0x200b, 0x2028, 0x202a,
   0x202f, 0x2030, 0x205f, 0x2060, 0x3000, 0x3001]

/-- Whether a character is white space of some script. -/
def isBlank (c : Char) : Bool :=
  inFlips blankFlips c.toNat

end DeferredLog.Text
