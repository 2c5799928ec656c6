import DeferredLog.Notice
import DeferredLog.Text.Alphanumeric
import DeferredLog.Text.Blank
import DeferredLog.Text.Pattern

/-!
# Directives

A directive is a threshold together with what it is for: the targets that begin with its own or every
target, the span of a name or every span, and a field, perhaps of a certain value.

One that names neither span nor value is *general*: it decides for notices by their target, and if it
names a field, for those that tell it. One that names a span or a field is *local*: in a span that it
is for it lets through what is urgent enough, whatever the target. Naming a field alone is both.

It is written `target[span]=level`, and each part may be left out; inside the brackets a field may
follow the span's name in braces, and a value the field's name behind an equals sign. A level alone
is for everything, and a directive without a level lets everything through. Levels are named in any
case, or by number from 0 for nothing to 5 for everything.
-/

namespace DeferredLog.Report

/-! ### Thresholds -/

/-- The least urgent level let through; none lets nothing through. -/
abbrev Threshold := Option Level

/-- The number that digits write, behind a plus sign or not. -/
def numeral? (text : List Char) : Option Nat :=
  let digits :=
    match text with
    | '+' :: rest => rest
    | _ => text
  if !digits.isEmpty && digits.all Char.isDigit then some (Nat.ofDigitChars 10 digits 0) else none

namespace Threshold

/-- Whether a notice of this level is let through. -/
def admits (t : Threshold) (level : Level) : Bool :=
  t.any fun most ↦ level.verbosity ≤ most.verbosity

/-- The threshold that lets through what either of two does. -/
def either : Threshold → Threshold → Threshold
  | none, t | t, none => t
  | some a, some b => if a.verbosity ≤ b.verbosity then some b else some a

/-- The threshold of a name or number. -/
def ofText? (text : List Char) : Option Threshold :=
  match numeral? text with
  | some n => [none, some .error, some .warn, some .info, some .debug, some .trace][n]?
  | none =>
    match String.ofList (text.map Char.toLower) with
    | "off" => some none
    | "error" => some (some .error)
    | "warn" => some (some .warn)
    | "info" => some (some .info)
    | "debug" => some (some .debug)
    | "trace" => some (some .trace)
    | _ => none

end Threshold

/-! ### Conditions on a field -/

/-- A value that a field may have to have. -/
inductive Sought where
  | number (n : Nat)
  /-- A value of a kind that no span tells: a negative number, a fraction, a truth value or a
  pattern of characters. -/
  | untold (text : List Char)
  deriving DecidableEq, Repr

namespace Sought

/-- Whether a text writes a number with or without fraction and exponent, or what is beyond all. -/
def isFraction (text : List Char) : Bool :=
  let body := unsigned text
  let whole := body.takeWhile Char.isDigit
  let (part, rest) :=
    match body.drop whole.length with
    | '.' :: rest => (rest.takeWhile Char.isDigit, rest.dropWhile Char.isDigit)
    | rest => ([], rest)
  String.ofList (body.map Char.toLower) ∈ ["inf", "infinity", "nan"] ||
    (!(whole.isEmpty && part.isEmpty) &&
      match rest with
      | [] => true
      | e :: power =>
        e.toLower = 'e' && !(unsigned power).isEmpty && (unsigned power).all Char.isDigit)
where
  /-- Passes over a sign. -/
  unsigned : List Char → List Char
    | '+' :: rest | '-' :: rest => rest
    | text => text

/-- The value that a text writes: a number of 64 bits if it can be one, and if it is nothing else, a
pattern. -/
def ofText? (text : List Char) : Option Sought :=
  match (numeral? text).filter (· < UInt64.size) with
  | some n => some (.number n)
  | none => if isFraction text || Text.Pattern.isPattern text then some (.untold text) else none

/-- Whether a value that is told is the one sought. -/
def isMet : Sought → Notice.Value → Bool
  | .number n, .number told => n = told
  | _, _ => false

end Sought

/-- A field that must be told, perhaps with a certain value. -/
structure Condition where
  field : String
  value : Option Sought := none
  deriving DecidableEq, Repr

namespace Condition

/-- The condition that a text writes. What comes after a second equals sign is disregarded. -/
def ofText? (text : List Char) : Option Condition :=
  let field := text.takeWhile (· ≠ '=')
  match text.drop field.length with
  | [] => if field.isEmpty then none else some ⟨String.ofList field, none⟩
  | _ :: value =>
    (Sought.ofText? (value.takeWhile (· ≠ '='))).map (⟨String.ofList field, some ·⟩)

/-- Whether the field is told at all. -/
def isTold (c : Condition) (fields : List (String × Notice.Value)) : Bool :=
  (fields.lookup c.field).isSome

/-- Whether the field is told with the value it must have. -/
def isMet (c : Condition) (fields : List (String × Notice.Value)) : Bool :=
  (fields.lookup c.field).any fun told ↦ c.value.all (·.isMet told)

end Condition

/-! ### Directives -/

/-- A threshold and what it is for; a part that is not named narrows nothing. -/
structure Directive where
  target : Option String := none
  span : Option String := none
  field : Option Condition := none
  threshold : Threshold := some .trace
  deriving DecidableEq, Repr

namespace Directive

/-- Whether it decides for notices by their target. -/
def isGeneral (d : Directive) : Bool :=
  d.span.isNone && d.field.all (·.value.isNone)

/-- Whether it lets through notices in the spans it is for. -/
def isLocal (d : Directive) : Bool :=
  d.span.isSome || d.field.isSome

/-- Whether it asks for a certain value. -/
def asksValue (d : Directive) : Bool :=
  d.field.any (·.value.isSome)

/-- Whether it is for this target. -/
def covers (d : Directive) (target : String) : Bool :=
  d.target.all fun start ↦ start.toList.isPrefixOf target.toList

/-- Whether it is for this span, whatever the values that the span tells. -/
def concerns (d : Directive) (s : Span) : Bool :=
  d.isLocal && d.covers s.component.path && d.span.all (· = s.name) &&
    d.field.all (·.isTold s.fields)

/-- Whether it lets through what is given in this span. -/
def holdsIn (d : Directive) (s : Span) : Bool :=
  d.concerns s && d.field.all (·.isMet s.fields)

/-- Whether two directives are for the same. -/
def isForSame (d e : Directive) : Bool :=
  d.target = e.target && d.span = e.span && d.field = e.field

/-- The length of the target, every target being shorter than any. -/
def reach (d : Directive) : Nat :=
  match d.target with
  | none => 0
  | some start => start.utf8ByteSize + 1

/-- Whether the directive goes before another that is for the same notice: the longer target does,
of equals the one that names a field, and of fields the later in the order of names. -/
def goesBefore (d e : Directive) : Bool :=
  let name (d : Directive) := d.field.elim "" (·.field)
  e.reach < d.reach || (e.reach = d.reach && name e ≤ name d)

/-! ### Reading -/

/-- The signs that may begin a directive besides letters and digits. -/
def beginsWith (c : Char) : Bool :=
  c = '-' || c = ':' || c = '_' || Text.isAlphanumeric c

/-- Everything is let through where no level is written. -/
def levelOfText? (text : List Char) : Option Threshold :=
  if text.isEmpty then some (some .trace) else Threshold.ofText? text

/-- A text between two places. -/
def between (text : List Char) (start stop : Nat) : List Char :=
  (text.drop start).take (stop - start)

/-- Reads on behind what the directive is for: the end, or an equals sign at this place and a level.
Places are counted from the first visible character, but the text is cut with the blanks in front. -/
def close? (text : List Char) (d : Directive) (place : Nat) : List Char → Option Directive
  | [] => some d
  | '=' :: _ => (levelOfText? (text.drop (place + 1))).map ({ d with threshold := · })
  | _ => none

/-- Reads on behind an opening bracket whose place is given. -/
def ofBracket? (text : List Char) (target : Option String) (place : Nat) (rest : List Char) :
    Option Directive :=
  let name := rest.takeWhile fun c ↦ c ≠ ']' && c ≠ '\x7b'
  let start := place + 1
  let stop := start + name.length
  let span := String.ofList (between text start stop)
  match rest.drop name.length with
  | ']' :: after => close? text { target, span := some span } (stop + 1) after
  | '\x7b' :: inner =>
    let condition := inner.takeWhile (· ≠ '\x7d')
    match inner.drop condition.length with
    | '\x7d' :: ']' :: after =>
      if condition.isEmpty then none
      else
        (Condition.ofText? (between text (stop + 1) (stop + 1 + condition.length))).bind fun c ↦
          close? text { target, span := if name.isEmpty then none else some span, field := some c }
            (stop + condition.length + 3) after
    | _ => none
  | _ => none

/-- The directive that a text without commas writes, if it is one. It must begin, blanks aside, with
a letter, a digit, one of three signs or the bracket. -/
def ofText? (text : List Char) : Option Directive :=
  let visible := ((text.dropWhile Text.isBlank).reverse.dropWhile Text.isBlank).reverse
  let head := visible.takeWhile fun c ↦ c ≠ '=' && c ≠ '['
  let target := String.ofList (text.take head.length)
  match head, visible.drop head.length with
  | [], '[' :: rest => ofBracket? text none 0 rest
  | [], _ => none
  | c :: _, rest =>
    if !beginsWith c then none
    else
      match rest with
      | [] =>
        match Threshold.ofText? text with
        | some threshold => some { threshold }
        | none => some { target := some (String.ofList text) }
      | '[' :: rest => ofBracket? text (some target) head.length rest
      | rest => close? text { target := some target } head.length rest

example : ofText? "a[b\x7bc=7\x7d]=warn".toList =
    some ⟨some "a", some "b", some ⟨"c", some (.number 7)⟩, some .warn⟩ := by decide +kernel

example : ofText? "[\x7bc\x7d]".toList = some { field := some ⟨"c", none⟩ } ∧
    ofText? "[]".toList = some { span := some "" } ∧ ofText? "[\x7b\x7d]".toList = none ∧
    ofText? "a[b]c".toList = none := by decide +kernel

end Directive

end DeferredLog.Report
