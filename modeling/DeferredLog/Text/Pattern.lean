import DeferredLog.Text.Alphanumeric
import DeferredLog.Text.Blank
import DeferredLog.Text.Hexadecimal

/-!
# What counts as a pattern of characters

A pattern describes texts: most characters stand for themselves, a point for any, brackets for one
of a set, a bar for a choice, and `?`, `*` and `+` repeat what stands before them. Parentheses group,
and may name what they group or set modes for the rest of it. Patterns are only told from other texts
here and not matched against any: `isPattern` is what a reader of conditions needs to refuse the rest.

Two kinds of pattern would need tables of every script and are refused: ignoring case, and the
classes and word ends that a letter after a backslash stands for. Both are accepted where the mode
keeps to bytes. There in turn nothing is accepted that could stand for half a character. Counted
repetition is refused, too: a pattern stands in braces itself, so its own could not be closed.

Every round of a reader takes at least one character, so a text never needs more rounds than it has
characters, and one more to end.
-/

namespace DeferredLog.Text.Pattern

/-- How the characters of a pattern are read. -/
structure Mode where
  ignoresCase : Bool := false
  /-- Keep to bytes instead of characters. -/
  bytes : Bool := false
  /-- Pass over blanks, and over comments from a number sign to the end of the line. -/
  spaced : Bool := false
  deriving DecidableEq, Repr

namespace Mode

/-- Sets what a letter stands for; the letters that change no verdict are known as well. -/
def set? (m : Mode) (letter : Char) (on : Bool) : Option Mode :=
  match letter with
  | 'i' => some { m with ignoresCase := on }
  | 'u' => some { m with bytes := !on }
  | 'x' => some { m with spaced := on }
  | 'm' | 's' | 'U' | 'R' => some m
  | _ => none

/-- Whether a character standing for itself would need a table of cases. -/
def foldsCase (m : Mode) : Bool :=
  m.ignoresCase && !m.bytes

/-- Passes over blanks and comments, from inside a comment or not. -/
def dropSpace (inComment : Bool) : List Char → List Char
  | [] => []
  | c :: rest =>
    if inComment then dropSpace (c ≠ '\n') rest
    else if c = '#' then dropSpace true rest
    else if isBlank c then dropSpace false rest
    else c :: rest

/-- Passes over what the mode does not look at. -/
def skip (m : Mode) (cs : List Char) : List Char :=
  if m.spaced then dropSpace false cs else cs

end Mode

/-! ### Behind a backslash -/

/-- What one element of a pattern stands for. -/
inductive Atom where
  | char (c : Char)
  /-- One of a set of characters. -/
  | set
  /-- A place between characters. -/
  | place
  deriving DecidableEq, Repr

/-- The character whose number is written in so many hexadecimal digits. -/
def numbered? (digits : Nat) (cs : List Char) : Option (Char × List Char) :=
  if cs.length < digits then none
  else
    match hexNumber? (cs.take digits) with
    | some n => if n.isValidChar then some (Char.ofNat n, cs.drop digits) else none
    | none => none

/-- The character that a letter behind a backslash stands for. -/
def control? : Char → Option Char
  | 'a' => some '\x07'
  | 't' => some '\t'
  | 'n' => some '\n'
  | 'v' => some '\x0b'
  | 'f' => some '\x0c'
  | 'r' => some '\r'
  | _ => none

/-- Reads what comes after a backslash. A sign other than a letter, digit or angle bracket stands for
itself there. -/
def escape? (m : Mode) : List Char → Option (Atom × List Char)
  | [] => none
  | 'x' :: rest =>
    match numbered? 2 rest with
    | some (c, rest) => if m.bytes && c.toNat > 0x7f then none else some (.char c, rest)
    | none => none
  | 'u' :: rest => (numbered? 4 rest).map fun r ↦ (.char r.1, r.2)
  | 'U' :: rest => (numbered? 8 rest).map fun r ↦ (.char r.1, r.2)
  | c :: rest =>
    match control? c with
    | some c => some (.char c, rest)
    | none =>
      if c ∈ ['A', 'z'] then some (.place, rest)
      else if c ∈ ['b', 'B', '<', '>'] then if m.bytes then some (.place, rest) else none
      else if c ∈ ['d', 's', 'w'] then if m.bytes then some (.set, rest) else none
      else if c.toNat < 0x80 && !c.isAlphanum then some (.char c, rest)
      else none

/-! ### Sets in brackets -/

/-- The sets that have a name. -/
def setNames : List String :=
  ["alnum", "alpha", "ascii", "blank", "cntrl", "digit", "graph", "lower", "print", "punct", "space",
   "upper", "word", "xdigit"]

/-- Reads a set by its name, between colons and up to the closing bracket; tells whether all but
that set is meant. -/
def namedSet? : List Char → Option (Bool × List Char)
  | ':' :: rest =>
    let (others, rest) :=
      match rest with
      | '^' :: rest => (true, rest)
      | rest => (false, rest)
    match rest.dropWhile (· ≠ ':') with
    | ':' :: ']' :: after =>
      if String.ofList (rest.takeWhile (· ≠ ':')) ∈ setNames then some (others, after) else none
    | _ => none
  | _ => none

/-- Reads on behind an opening bracket: hyphens there stand for themselves, and so does a closing
bracket that comes first. A set of all but some characters holds halves of characters, too. -/
def openSet? (m : Mode) (cs : List Char) : Option (List Char) :=
  let (others, cs) :=
    match m.skip cs with
    | '^' :: rest => (true, m.skip rest)
    | cs => (false, cs)
  let hyphens := cs.takeWhile fun c ↦ c = '-' || (m.spaced && isBlank c)
  if others && m.bytes then none
  else
    match m.skip (cs.drop hyphens.length) with
    | ']' :: rest => if '-' ∈ hyphens then some (']' :: rest) else some rest
    | cs => some cs

/-- Reads a character of a set, or a set in it. -/
def setAtom? (m : Mode) : List Char → Option (Atom × List Char)
  | [] => none
  | '\\' :: rest => escape? m rest
  | c :: rest => some (.char c, rest)

/-- Whether an element may stand in a set by itself. -/
def Atom.fitsSet (m : Mode) : Atom → Bool
  | .char c => !m.bytes || c.toNat < 0x80
  | .set => true
  | .place => false

/-- Whether two elements may be the ends of a range. -/
def Atom.spans (m : Mode) : Atom → Atom → Bool
  | .char a, .char b => a ≤ b && (!m.bytes || b.toNat < 0x80)
  | _, _ => false

/-- Reads an element of a set or a range of characters. A hyphen begins no range if the set ends
behind it or another follows it. -/
def setItem? (m : Mode) (cs : List Char) : Option (List Char) :=
  match setAtom? m cs with
  | none => none
  | some (first, rest) =>
    let alone := if first.fitsSet m then some (m.skip rest) else none
    match m.skip rest with
    | '-' :: behind =>
      match m.skip behind with
      | ']' :: _ | '-' :: _ => alone
      | behind =>
        match setAtom? m behind with
        | some (last, rest) => if first.spans m last then some rest else none
        | none => none
    | _ => alone

/-- Reads on inside brackets to the end of the outermost, so many being open around it. Doubled
signs combine the sets on both sides. -/
def setEnd? : Nat → Mode → Nat → List Char → Option (List Char)
  | 0, _, _, _ => none
  | rounds + 1, m, around, cs =>
    match m.skip cs with
    | [] => none
    | ']' :: rest =>
      match around with
      | 0 => some rest
      | around + 1 => setEnd? rounds m around rest
    | '[' :: rest =>
      match namedSet? rest with
      | some (others, rest) => if others && m.bytes then none else setEnd? rounds m around rest
      | none => (openSet? m rest).bind (setEnd? rounds m (around + 1))
    | '&' :: '&' :: rest | '-' :: '-' :: rest | '~' :: '~' :: rest => setEnd? rounds m around rest
    | cs => (setItem? m cs).bind (setEnd? rounds m around)

/-- Reads a set behind its opening bracket. -/
def set? (m : Mode) (cs : List Char) : Option (List Char) :=
  if m.foldsCase then none else (openSet? m cs).bind (setEnd? (cs.length + 1) m 0)

/-! ### Groups -/

/-- What an opening parenthesis begins. -/
inductive Opening where
  /-- A group, read in a mode of its own, with its name if it has one. -/
  | group (mode : Mode) (name : Option (List Char))
  /-- No group but a mode for what follows. -/
  | setting (mode : Mode)
  deriving DecidableEq, Repr

/-- Reads the letters of modes up to a colon or the closing parenthesis; those behind a hyphen are
unset. No letter comes twice, nor a hyphen last. -/
def modes? (m : Mode) (seen : List Char) : List Char → Option (Opening × List Char)
  | [] => none
  | c :: rest =>
    if c = ':' then if seen.head? = some '-' then none else some (.group m none, rest)
    else if c = ')' then
      if seen.isEmpty || seen.head? = some '-' then none else some (.setting m, rest)
    else if c ∈ seen then none
    else if c = '-' then modes? m (c :: seen) rest
    else
      match m.set? c ('-' ∉ seen) with
      | some m => modes? m (c :: seen) rest
      | none => none

/-- Whether a text may name a group. -/
def isName : List Char → Bool
  | [] => false
  | c :: rest =>
    (c = '_' || (isAlphanumeric c && !c.isDigit)) &&
      rest.all fun c ↦ c ∈ ['_', '.', '[', ']'] || isAlphanumeric c

/-- Reads the name of a group and the bracket behind it. -/
def named? (m : Mode) (cs : List Char) : Option (Opening × List Char) :=
  let name := cs.takeWhile (· ≠ '>')
  match cs.drop name.length with
  | _ :: rest => if isName name then some (.group m (some name), rest) else none
  | [] => none

/-- Reads on behind an opening parenthesis. -/
def opening? (m : Mode) (cs : List Char) : Option (Opening × List Char) :=
  match m.skip cs with
  | '?' :: 'P' :: '<' :: rest | '?' :: '<' :: rest => named? m rest
  | '?' :: rest => modes? m [] rest
  | cs => some (.group m none, cs)

/-! ### The whole -/

/-- What is known of a pattern at a place of it. -/
structure Reading where
  mode : Mode := {}
  /-- The modes around the open groups, innermost first. -/
  around : List Mode := []
  /-- The names of groups so far. -/
  names : List (List Char) := []
  /-- Whether there is something to repeat. -/
  repeatable : Bool := false

/-- Reads on behind an opening parenthesis; no two groups have one name. -/
def Reading.enter? (r : Reading) (cs : List Char) : Option (Reading × List Char) :=
  match opening? r.mode cs with
  | none => none
  | some (.setting mode, rest) => some ({ r with mode, repeatable := false }, rest)
  | some (.group mode name, rest) =>
    if name.any (· ∈ r.names) then none
    else
      some ({ mode, around := r.mode :: r.around, names := name.toList ++ r.names }, rest)

/-- Reads one element, behind which there is something to repeat. -/
def element? (m : Mode) : List Char → Option (List Char)
  | [] => none
  | '[' :: rest => set? m rest
  | '\\' :: rest =>
    match escape? m rest with
    | some (.char _, rest) => if m.foldsCase then none else some rest
    | some (_, rest) => some rest
    | none => none
  | '.' :: rest => if m.bytes then none else some rest
  | c :: rest =>
    if c ∈ ['^', '$'] then some rest
    else if c = '\x7b' || m.foldsCase then none
    else some rest

/-- Whether a pattern goes on like this. -/
def goesOn : Nat → Reading → List Char → Bool
  | 0, _, _ => false
  | rounds + 1, r, cs =>
    match r.mode.skip cs with
    | [] => r.around.isEmpty
    | '(' :: rest => (r.enter? rest).any fun next ↦ goesOn rounds next.1 next.2
    | ')' :: rest =>
      match r.around with
      | [] => false
      | mode :: around => goesOn rounds { r with mode, around, repeatable := true } rest
    | '|' :: rest => goesOn rounds { r with repeatable := false } rest
    | c :: rest =>
      if c ∈ ['?', '*', '+'] then
        let rest := if rest.head? = some '?' then rest.drop 1 else rest
        r.repeatable && goesOn rounds r rest
      else
        (element? r.mode (c :: rest)).any (goesOn rounds { r with repeatable := true })

/-- Whether a text is a pattern. -/
def isPattern (text : List Char) : Bool :=
  goesOn (text.length + 1) {} text

example : isPattern "a+|[^b-d[:digit:]--x]*?(?P<n>.)(?-u)\\w".toList ∧
    !isPattern "*".toList ∧ !isPattern "(a".toList ∧ !isPattern "[b-a]".toList ∧
    !isPattern "\\d".toList ∧ !isPattern "(?i)a".toList := by decide +kernel

end DeferredLog.Text.Pattern
