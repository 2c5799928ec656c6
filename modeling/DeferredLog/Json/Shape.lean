import DeferredLog.Json.Skip

/-!
# Reading values of a given shape

Each reader expects a shape. A value of another shape is refused as `mismatched`; a word, numeral or
text is first read to its end, so that a fault in it is told instead, while an array or object is
refused at its bracket.

Records are read from objects in any order of members, or from arrays in the order of the settings.
A member is accepted or refused as soon as its name is read: refused if it was given before, or if
the record admits no members but its own. Members that are missing are found at the closing bracket.
-/

namespace DeferredLog.Json

/-- The fault of a value that has not the shape expected; the text begins with the value. -/
def mismatch (cs : List Char) : Fault :=
  let after {α : Type} (r : Except Fault α) : Fault :=
    match r with
    | .error fault => fault
    | .ok _ => .mismatched
  match cs with
  | 'n' :: rest => after (word ['u', 'l', 'l'] rest)
  | 't' :: rest => after (word ['r', 'u', 'e'] rest)
  | 'f' :: rest => after (word ['a', 'l', 's', 'e'] rest)
  | '"' :: rest => after (quotedRest rest)
  | '[' :: _ | '\x7b' :: _ => .mismatched
  | c :: _ => if c = '-' ∨ c.isDigit then after (numeral cs) else .malformed
  | [] => .truncated

namespace Reader

/-! ### Values without parts -/

/-- Reads a natural number up to `most`. -/
def natural (most : Nat) : Reader Nat := fun cs ↦
  match dropBlanks cs with
  | [] => .error .truncated
  | c :: rest =>
    if c = '-' ∨ c.isDigit then
      match numeral (c :: rest) with
      | .error fault => .error fault
      | .ok (n, rest) =>
        match n.natural? with
        | some value => if value ≤ most then .ok (value, rest) else .error .mismatched
        | none => .error .mismatched
    else .error (mismatch (c :: rest))

/-- Reads a machine word. -/
def uint64 : Reader UInt64 := do
  return UInt64.ofNat (← natural wordMax)

/-- Reads a text. -/
def string : Reader String := fun cs ↦
  match dropBlanks cs with
  | [] => .error .truncated
  | '"' :: rest => (quotedRest rest).map fun r ↦ (String.ofList r.1, r.2)
  | cs => .error (mismatch cs)

/-- Reads a truth value. -/
def bool : Reader Bool := fun cs ↦
  match dropBlanks cs with
  | [] => .error .truncated
  | 't' :: rest => (word ['r', 'u', 'e'] rest).map fun r ↦ (true, r.2)
  | 'f' :: rest => (word ['a', 'l', 's', 'e'] rest).map fun r ↦ (false, r.2)
  | cs => .error (mismatch cs)

/-- Reads null. -/
def null : Reader Unit := fun cs ↦
  match dropBlanks cs with
  | [] => .error .truncated
  | 'n' :: rest => word ['u', 'l', 'l'] rest
  | cs => .error (mismatch cs)

/-- Reads null or a value. -/
def orNull {α : Type} (value : Reader α) : Reader (Option α) := fun cs ↦
  match dropBlanks cs with
  | 'n' :: rest => (word ['u', 'l', 'l'] rest).map fun r ↦ (none, r.2)
  | cs => (value cs).map fun r ↦ (some r.1, r.2)

/-- Reads a name; what does not begin as one is no JSON at this place. -/
def name : Reader String := fun cs ↦
  match dropBlanks cs with
  | [] => .error .truncated
  | '"' :: rest => (quotedRest rest).map fun r ↦ (String.ofList r.1, r.2)
  | _ => .error .malformed

/-- Reads the colon between a name and its value. -/
def colon : Reader Unit := fun cs ↦
  match dropBlanks cs with
  | [] => .error .truncated
  | ':' :: rest => .ok ((), rest)
  | _ => .error .malformed

/-! ### Members of an object -/

/-- What to do with a member of this name, given what the members before it gave. -/
abbrev Accept (σ : Type) := String → σ → Except Fault (Reader σ)

variable {σ α : Type}

/-- Reads a member whose opening quote has been read. -/
def member (accept : Accept σ) (acc : σ) : Reader σ := fun cs ↦
  match quotedRest cs with
  | .error fault => .error fault
  | .ok (name, rest) =>
    match accept (String.ofList name) acc with
    | .error fault => .error fault
    | .ok value => (colon *> value) rest

/-- Reads members up to the closing brace; the opening one has been read. `first` tells whether
none has been read yet, and `rounds` bounds their number. -/
def members (accept : Accept σ) : (rounds : Nat) → (first : Bool) → σ → Reader σ
  | 0, _, _, _ => .error .malformed
  | rounds + 1, first, acc, cs =>
    match dropBlanks cs, first with
    | [], _ => .error .truncated
    | '\x7d' :: rest, _ => .ok (acc, rest)
    | '"' :: rest, true =>
      match member accept acc rest with
      | .error fault => .error fault
      | .ok (acc, rest) => members accept rounds false acc rest
    | ',' :: rest, false =>
      match dropBlanks rest with
      | [] => .error .truncated
      | '"' :: rest =>
        match member accept acc rest with
        | .error fault => .error fault
        | .ok (acc, rest) => members accept rounds false acc rest
      | _ => .error .malformed
    | _, _ => .error .malformed

/-- Reads an object member by member. -/
def object (accept : Accept σ) (start : σ) : Reader σ := fun cs ↦
  match dropBlanks cs with
  | [] => .error .truncated
  | '\x7b' :: rest => members accept (rest.length + 1) true start rest
  | cs => .error (mismatch cs)

end Reader

/-! ### Records -/

/-- A record of settings. `σ` holds the settings read so far. -/
structure Layout (σ : Type) where
  /-- The names of the settings, in the order of the array form. -/
  names : List String
  /-- Whether members of other names are refused rather than passed over. -/
  closed : Bool := false
  /-- Whether a setting was read already. -/
  isSet : String → σ → Bool
  /-- Reads a setting. -/
  setting : String → σ → Reader σ

namespace Layout

variable {σ α : Type}

/-- A setting once, other members as the record has it. -/
def accept (l : Layout σ) : Reader.Accept σ := fun name acc ↦
  if name ∈ l.names then
    if l.isSet name acc then .error .mismatched else .ok (l.setting name acc)
  else if l.closed then .error .mismatched
  else .ok (skip *> pure acc)

/-- Reads the settings of `names` in order from an array whose opening bracket has been read. -/
def elements (l : Layout σ) : (names : List String) → (first : Bool) → σ → Reader σ
  | [], _, acc, cs => .ok (acc, cs)
  | name :: names, first, acc, cs =>
    let value (rest : List Char) : Except Fault (σ × List Char) :=
      match l.setting name acc rest with
      | .error fault => .error fault
      | .ok (acc, rest) => l.elements names false acc rest
    match dropBlanks cs, first with
    | [], _ => .error .truncated
    | ']' :: _, _ => .error .mismatched
    | ',' :: rest, false =>
      match dropBlanks rest with
      | [] => .error .truncated
      | ']' :: _ => .error .malformed
      | rest => value rest
    | rest, true => value rest
    | _, false => .error .malformed

/-- Reads a record and makes a value of it: from an object, or from an array of all settings. -/
def record (l : Layout σ) (start : σ) (finish : σ → Except Fault α) : Reader α := fun cs ↦
  match dropBlanks cs with
  | [] => .error .truncated
  | '\x7b' :: rest =>
    match Reader.members l.accept (rest.length + 1) true start rest with
    | .error fault => .error fault
    | .ok (acc, rest) => (finish acc).map fun a ↦ (a, rest)
  | '[' :: rest =>
    match l.elements l.names true start rest with
    | .error fault => .error fault
    | .ok (acc, rest) =>
      match finish acc with
      | .error fault => .error fault
      | .ok a =>
        match dropBlanks rest with
        | [] => .error .truncated
        | ']' :: rest => .ok (a, rest)
        | _ => .error .malformed
  | cs => .error (mismatch cs)

end Layout

/-! ### Choices -/

/-- One of the values a choice admits: bare, or with a record of its own. -/
inductive Choice (α : Type) where
  | bare (value : α)
  | carrying (value : Reader α)

/-- Reads a choice: the name of a bare one, or an object whose single member has the name of the
choice and its record, which for a bare one is null. -/
def Reader.choice {α : Type} (choices : List (String × Choice α)) : Reader α := fun cs ↦
  match dropBlanks cs with
  | [] => .error .truncated
  | '"' :: rest =>
    match quotedRest rest with
    | .error fault => .error fault
    | .ok (name, rest) =>
      match choices.lookup (String.ofList name) with
      | some (.bare value) => .ok (value, rest)
      | _ => .error .mismatched
  | '\x7b' :: rest =>
    match Reader.name rest with
    | .error fault => .error fault
    | .ok (name, rest) =>
      match choices.lookup name with
      | none => .error .mismatched
      | some chosen =>
        let value : Reader α :=
          match chosen with
          | .bare value => Reader.null *> pure value
          | .carrying value => value
        match (Reader.colon *> value) rest with
        | .error fault => .error fault
        | .ok (value, rest) =>
          match dropBlanks rest with
          | [] => .error .truncated
          | '\x7d' :: rest => .ok (value, rest)
          | _ => .error .malformed
  | _ => .error .malformed

/-! ### Whole texts -/

/-- Reads a whole text: one value and nothing but blanks behind it. -/
def decode {α : Type} (value : Reader α) (text : String) : Except Fault α :=
  match value text.toList with
  | .error fault => .error fault
  | .ok (a, rest) =>
    match dropBlanks rest with
    | [] => .ok a
    | _ => .error .malformed

/-- The setting if it was read. -/
def required {α : Type} (setting : Option α) : Except Fault α :=
  match setting with
  | some a => .ok a
  | none => .error .mismatched

end DeferredLog.Json
