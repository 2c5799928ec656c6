import DeferredLog.Json.Numeral

/-!
# Passing over a value

A value nobody asks for is passed over at any depth of nesting. It has to be JSON in form, but its
numbers may be beyond every range and its texts may hold halves of characters.

The arrays and objects that are open are kept in a list, innermost first. Every round takes at least
one character, so a text never needs more rounds than it has characters, and one more to end.
-/

namespace DeferredLog.Json

/-- What is open around the present position. -/
inductive Bracket where
  | array
  | object
  deriving DecidableEq, Repr

/-- Passes over the name of a member and the colon behind it. -/
def skipName (cs : List Char) : Except Fault (List Char) :=
  match dropBlanks cs with
  | [] => .error .truncated
  | '"' :: rest =>
    match skipQuoted rest with
    | .error fault => .error fault
    | .ok rest =>
      match dropBlanks rest with
      | [] => .error .truncated
      | ':' :: rest => .ok rest
      | _ => .error .malformed
  | _ => .error .malformed

/-- What comes after the first characters of a value: the value may have ended with them, or an
array or object may have been opened, and then the next value in it comes. -/
inductive Opened where
  | ended (rest : List Char)
  | opened (bracket : Bracket) (rest : List Char)
  deriving DecidableEq, Repr

/-- Passes over a value without parts, or into an array or object. -/
def skipOpen (cs : List Char) : Except Fault Opened :=
  match dropBlanks cs with
  | [] => .error .truncated
  | '[' :: rest =>
    match dropBlanks rest with
    | [] => .error .truncated
    | ']' :: rest => .ok (.ended rest)
    | rest => .ok (.opened .array rest)
  | '\x7b' :: rest =>
    match dropBlanks rest with
    | [] => .error .truncated
    | '\x7d' :: rest => .ok (.ended rest)
    | rest => (skipName rest).map (.opened .object)
  | '"' :: rest => (skipQuoted rest).map .ended
  | 'n' :: rest => (word ['u', 'l', 'l'] rest).map fun r ↦ .ended r.2
  | 't' :: rest => (word ['r', 'u', 'e'] rest).map fun r ↦ .ended r.2
  | 'f' :: rest => (word ['a', 'l', 's', 'e'] rest).map fun r ↦ .ended r.2
  | c :: rest =>
    if c = '-' ∨ c.isDigit then (Numeral.scan .malformed (c :: rest)).map fun r ↦ .ended r.2
    else .error .malformed

/-- Goes on after a value: to the next one behind a comma, or out of what it ends. -/
def skipNext : Bracket → List Char → Except Fault Opened
  | bracket, cs =>
    match bracket, dropBlanks cs with
    | _, [] => .error .truncated
    | .array, ',' :: rest => .ok (.opened .array rest)
    | .object, ',' :: rest => (skipName rest).map (.opened .object)
    | .array, ']' :: rest => .ok (.ended rest)
    | .object, '\x7d' :: rest => .ok (.ended rest)
    | _, _ => .error .malformed

/-- Passes over what is left of the open brackets, and first over a value if one is `due`. -/
def skipRounds : Nat → Bool → List Bracket → List Char → Except Fault (List Char)
  | _, false, [], cs => .ok cs
  | 0, _, _, _ => .error .malformed
  | rounds + 1, true, stack, cs =>
    match skipOpen cs with
    | .error fault => .error fault
    | .ok (.ended rest) => skipRounds rounds false stack rest
    | .ok (.opened bracket rest) => skipRounds rounds true (bracket :: stack) rest
  | rounds + 1, false, bracket :: stack, cs =>
    match skipNext bracket cs with
    | .error fault => .error fault
    | .ok (.ended rest) => skipRounds rounds false stack rest
    | .ok (.opened bracket rest) => skipRounds rounds true (bracket :: stack) rest

/-- Passes over a value of any shape. -/
def skip : Reader Unit := fun cs ↦
  (skipRounds (cs.length + 1) true [] cs).map fun rest ↦ ((), rest)

example : (skip "[1e999,\x7b\"\\ud800\":[]\x7d] x".toList).toOption = some ((), " x".toList) := by
  decide +kernel
example : (skip "[1,]".toList).toOption = none := by decide +kernel

end DeferredLog.Json
