import DeferredLog.Text.Hexadecimal

/-!
# Reading JSON from left to right

A reader takes characters from the front of a text and gives a value and what is left. It never
looks further than it must, and the first fault it meets decides: a text that is cut short is told
from one that is no JSON, and both from JSON of the wrong shape.

This module holds the faults, blanks, words and the escapes of quoted texts; `skipQuoted` passes
over a quoted text without asking whether its escapes name characters.
-/

namespace DeferredLog.Json

/-- What is wrong with a text. -/
inductive Fault where
  /-- It is no JSON. -/
  | malformed
  /-- It is JSON of another shape. -/
  | mismatched
  /-- It ends before the value does. -/
  | truncated
  deriving DecidableEq, Repr

/-- Takes a value from the front of a text. -/
abbrev Reader (α : Type) := StateT (List Char) (Except Fault) α

/-- The blanks of JSON. -/
def isBlank (c : Char) : Bool :=
  c = ' ' || c = '\n' || c = '\t' || c = '\r'

/-- The text without the blanks at its front. -/
def dropBlanks (cs : List Char) : List Char :=
  cs.dropWhile isBlank

/-- Reads the rest of a word whose first letter has been seen. -/
def word : List Char → Reader Unit
  | [], cs => .ok ((), cs)
  | _ :: _, [] => .error .truncated
  | w :: ws, c :: cs => if c = w then word ws cs else .error .malformed

/-! ### Quoted texts -/

/-- The number of bytes in a text. -/
def byteCount (cs : List Char) : Nat :=
  cs.foldr (fun c n ↦ c.utf8Size + n) 0

/-- The number that the first four characters spell in hexadecimal. A text with less than four
bytes left is cut short, whatever they are. -/
def hexQuad : List Char → Except Fault Nat
  | a :: b :: c :: d :: _ =>
    match Text.hexNumber? [a, b, c, d] with
    | some n => .ok n
    | none => .error .malformed
  | cs => if byteCount cs < 4 then .error .truncated else .error .malformed

/-- The character that a letter behind a backslash stands for. -/
def unescape? (c : Char) : Option Char :=
  if c = '"' ∨ c = '\\' ∨ c = '/' then some c
  else if c = 'b' then some '\x08'
  else if c = 'f' then some '\x0c'
  else if c = 'n' then some '\n'
  else if c = 'r' then some '\r'
  else if c = 't' then some '\t'
  else none

/-- Whether a number is the first half of a pair. -/
def isHighSurrogate (n : Nat) : Bool :=
  0xd800 ≤ n && n ≤ 0xdbff

/-- Whether a number is the second half of a pair. -/
def isLowSurrogate (n : Nat) : Bool :=
  0xdc00 ≤ n && n ≤ 0xdfff

/-- The character named by number behind `\u`, and how many characters name it: four, or ten for
a pair. A half without the other names nothing. -/
def numberedChar (cs : List Char) : Except Fault (Char × Nat) :=
  match hexQuad cs with
  | .error fault => .error fault
  | .ok n =>
    if isLowSurrogate n then .error .malformed
    else if isHighSurrogate n then
      match cs.drop 4 with
      | '\\' :: 'u' :: more =>
        match hexQuad more with
        | .error fault => .error fault
        | .ok m =>
          if isLowSurrogate m then
            .ok (Char.ofNat (0x10000 + (n - 0xd800) * 0x400 + (m - 0xdc00)), 10)
          else .error .malformed
      | [] | ['\\'] => .error .truncated
      | _ => .error .malformed
    else .ok (Char.ofNat n, 4)

/-- The character named behind a backslash, and how many characters name it. -/
def escapedCharOf : List Char → Except Fault (Char × Nat)
  | [] => .error .truncated
  | 'u' :: rest => (numberedChar rest).map fun r ↦ (r.1, r.2 + 1)
  | c :: _ =>
    match unescape? c with
    | some named => .ok (named, 1)
    | none => .error .malformed

/-- Reads a quoted text up to and with its closing quote; the opening one has been read. Controls
must not stand in it as they are. -/
def quotedRest (cs : List Char) : Except Fault (List Char × List Char) :=
  match cs with
  | [] => .error .truncated
  | '"' :: rest => .ok ([], rest)
  | '\\' :: rest =>
    match escapedCharOf rest with
    | .error fault => .error fault
    | .ok (c, used) => (quotedRest (rest.drop used)).map fun r ↦ (c :: r.1, r.2)
  | c :: rest =>
    if c.toNat < 32 then .error .malformed
    else (quotedRest rest).map fun r ↦ (c :: r.1, r.2)
termination_by cs.length
decreasing_by all_goals simp only [List.length_cons, List.length_drop]; omega

/-- How many characters the escape behind a backslash takes, if it has the form of one. -/
def escapeLength : List Char → Except Fault Nat
  | [] => .error .truncated
  | 'u' :: rest => (hexQuad rest).map fun _ ↦ 5
  | c :: _ => if (unescape? c).isSome then .ok 1 else .error .malformed

/-- Passes over a quoted text whose opening quote has been read. -/
def skipQuoted (cs : List Char) : Except Fault (List Char) :=
  match cs with
  | [] => .error .truncated
  | '"' :: rest => .ok rest
  | '\\' :: rest =>
    match escapeLength rest with
    | .error fault => .error fault
    | .ok used => skipQuoted (rest.drop used)
  | c :: rest => if c.toNat < 32 then .error .malformed else skipQuoted rest
termination_by cs.length
decreasing_by all_goals simp only [List.length_cons, List.length_drop]; omega

end DeferredLog.Json
