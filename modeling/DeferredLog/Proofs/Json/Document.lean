import DeferredLog.Json.Shape
import Mathlib.Data.Nat.Notation

/-!
# JSON texts of any layout

A JSON value can be written in many ways: with blanks between its parts, with a character as itself,
by letter or by number, with a number as a decimal or by a power of ten. A `Value` keeps all of these
choices, down to the digits and blanks, so the texts that are JSON are those that `Value.chars` gives.

What cannot be written is not a `Value`: a control or half a character between quotes, or a number
with a superfluous zero. What a value says apart from how it is written are the characters of a text
(`Stroke.value`), the parts of a number (`Figure.numeral`) and the members of an object in their order.
-/

namespace DeferredLog.Json

/-! ### Blanks -/

/-- Some blanks, or none. -/
structure Blanks where
  chars : List Char
  isBlank_of_mem : ∀ c ∈ chars, isBlank c = true

def Blanks.none : Blanks where
  chars := []
  isBlank_of_mem := List.forall_mem_nil _

@[simp] theorem Blanks.chars_none : none.chars = [] :=
  rfl

/-! ### Quoted texts -/

/-- Four hexadecimal digits and the number they spell. -/
structure Quad where
  (a b c d : Char)
  value : ℕ
  hexNumber?_eq : Text.hexNumber? [a, b, c, d] = some value

def Quad.chars (q : Quad) : List Char :=
  [q.a, q.b, q.c, q.d]

/-- How a character of a quoted text is written. -/
inductive Stroke where
  /-- As itself. -/
  | plain (c : Char) (hquote : c ≠ '"') (hbackslash : c ≠ '\\') (hcontrol : 32 ≤ c.toNat)
  /-- By a letter behind a backslash. -/
  | letter (l c : Char) (hletter : unescape? l = some c)
  /-- By its number, which is not that of a half. -/
  | unit (q : Quad) (hhigh : isHighSurrogate q.value = false) (hlow : isLowSurrogate q.value = false)
  /-- By the numbers of its two halves. -/
  | pair (high low : Quad) (hhigh : isHighSurrogate high.value = true)
      (hlow : isLowSurrogate low.value = true)

namespace Stroke

def chars : Stroke → List Char
  | plain c .. => [c]
  | letter l .. => ['\\', l]
  | unit q .. => '\\' :: 'u' :: q.chars
  | pair high low .. => '\\' :: 'u' :: high.chars ++ '\\' :: 'u' :: low.chars

/-- The character that is written. -/
def value : Stroke → Char
  | plain c .. => c
  | letter _ c _ => c
  | unit q .. => Char.ofNat q.value
  | pair high low .. => Char.ofNat (0x10000 + (high.value - 0xd800) * 0x400 + (low.value - 0xdc00))

end Stroke

/-- A text between quotes, with its closing quote. -/
def closedChars (strokes : List Stroke) : List Char :=
  strokes.flatMap Stroke.chars ++ ['"']

/-- The text that is written. -/
def written (strokes : List Stroke) : String :=
  String.ofList (strokes.map Stroke.value)

/-! ### Numbers -/

/-- Decimal digits, at least one. -/
structure Digits where
  chars : List Char
  isDigit_of_mem : ∀ c ∈ chars, c.isDigit = true
  ne_nil : chars ≠ []

/-- A power of ten: the letter before it, its sign and its digits. -/
structure Power where
  capital : Bool := false
  /-- Whether the sign is a minus, if there is a sign. -/
  sign : Option Bool := none
  digits : Digits

namespace Power

def signChars (e : Power) : List Char :=
  match e.sign with
  | none => []
  | some true => ['-']
  | some false => ['+']

def chars (e : Power) : List Char :=
  (if e.capital then 'E' else 'e') :: (e.signChars ++ e.digits.chars)

end Power

/-- A number as it is written. Only zero begins with a zero. -/
structure Figure where
  negative : Bool := false
  whole : Digits
  fraction : Option Digits := none
  power : Option Power := none
  eq_nil_of_whole_eq : ∀ rest, whole.chars = '0' :: rest → rest = [] := by simp

namespace Figure

def fractionChars (f : Figure) : List Char :=
  match f.fraction with
  | none => []
  | some digits => '.' :: digits.chars

def powerChars (f : Figure) : List Char :=
  match f.power with
  | none => []
  | some e => e.chars

def chars (f : Figure) : List Char :=
  (if f.negative then ['-'] else []) ++ (f.whole.chars ++ (f.fractionChars ++ f.powerChars))

/-- The parts of the number. -/
def numeral (f : Figure) : Numeral where
  negative := f.negative
  whole := f.whole.chars
  fraction := match f.fraction with
    | none => []
    | some digits => digits.chars
  exponent := f.power.map fun e ↦ (e.sign = some true, e.digits.chars)

theorem fractionChars_of_eq_none {f : Figure} (h : f.fraction = none) : f.fractionChars = [] := by
  rw [fractionChars, h]

theorem fractionChars_of_eq_some {f : Figure} {digits : Digits} (h : f.fraction = some digits) :
    f.fractionChars = '.' :: digits.chars := by
  rw [fractionChars, h]

theorem powerChars_of_eq_none {f : Figure} (h : f.power = none) : f.powerChars = [] := by
  rw [powerChars, h]

theorem powerChars_of_eq_some {f : Figure} {e : Power} (h : f.power = some e) :
    f.powerChars = e.chars := by
  rw [powerChars, h]

theorem fraction_numeral_of_eq_none {f : Figure} (h : f.fraction = none) :
    f.numeral.fraction = [] := by
  rw [numeral, h]

theorem fraction_numeral_of_eq_some {f : Figure} {digits : Digits} (h : f.fraction = some digits) :
    f.numeral.fraction = digits.chars := by
  rw [numeral, h]

/-- The natural number that is written, if it is a bare row of digits. -/
def plain? (f : Figure) : Option ℕ :=
  if f.negative = false ∧ f.fraction.isNone ∧ f.power.isNone then
    some (Nat.ofDigitChars 10 f.whole.chars 0)
  else none

end Figure

/-! ### Values -/

/-- The blanks around an item. -/
structure Pad where
  before : Blanks := .none
  after : Blanks := .none

/-- The name of a member and the blanks around it, the colon and the value. -/
structure Label where
  before : Blanks := .none
  strokes : List Stroke
  beforeColon : Blanks := .none
  beforeValue : Blanks := .none
  after : Blanks := .none

/-- The name without its escapes. -/
def Label.name (l : Label) : String :=
  written l.strokes

/-- A value as it is written. -/
inductive Value where
  | null
  | bool (b : Bool)
  | number (f : Figure)
  | string (strokes : List Stroke)
  | array (inner : Blanks) (items : List (Pad × Value))
  | object (inner : Blanks) (members : List (Label × Value))

/-- Texts with commas before each of them. -/
def behindCommas (texts : List (List Char)) : List Char :=
  texts.flatMap (',' :: ·)

/-- Texts with commas between them. -/
def betweenCommas : List (List Char) → List Char
  | [] => []
  | text :: rest => text ++ behindCommas rest

def Pad.around (pad : Pad) (text : List Char) : List Char :=
  pad.before.chars ++ text ++ pad.after.chars

/-- What comes after the opening quote of a member. -/
def Label.ahead (l : Label) (text : List Char) : List Char :=
  closedChars l.strokes ++ l.beforeColon.chars ++ ':' :: l.beforeValue.chars ++ text ++ l.after.chars

def Label.around (l : Label) (text : List Char) : List Char :=
  l.before.chars ++ '"' :: l.ahead text

mutual

/-- The text of a value. -/
def Value.chars : Value → List Char
  | .null => ['n', 'u', 'l', 'l']
  | .bool true => ['t', 'r', 'u', 'e']
  | .bool false => ['f', 'a', 'l', 's', 'e']
  | .number f => f.chars
  | .string strokes => '"' :: closedChars strokes
  | .array inner items => '[' :: inner.chars ++ betweenCommas (itemTexts items) ++ [']']
  | .object inner members =>
    '\x7b' :: inner.chars ++ betweenCommas (memberTexts members) ++ ['\x7d']

def itemTexts : List (Pad × Value) → List (List Char)
  | [] => []
  | (pad, v) :: rest => pad.around v.chars :: itemTexts rest

def memberTexts : List (Label × Value) → List (List Char)
  | [] => []
  | (l, v) :: rest => l.around v.chars :: memberTexts rest

end

theorem behindCommas_cons (text : List Char) (texts : List (List Char)) (rest : List Char) :
    behindCommas (text :: texts) ++ rest = ',' :: (text ++ (behindCommas texts ++ rest)) := by
  simp [behindCommas]

theorem Value.array_append (inner : Blanks) (items : List (Pad × Value)) (rest : List Char) :
    (Value.array inner items).chars ++ rest =
      '[' :: (inner.chars ++ (betweenCommas (itemTexts items) ++ ']' :: rest)) := by
  simp [Value.chars]

theorem Value.object_append (inner : Blanks) (members : List (Label × Value)) (rest : List Char) :
    (Value.object inner members).chars ++ rest =
      '\x7b' :: (inner.chars ++ (betweenCommas (memberTexts members) ++ '\x7d' :: rest)) := by
  simp [Value.chars]

theorem Pad.around_append (pad : Pad) (text rest : List Char) :
    pad.around text ++ rest = pad.before.chars ++ (text ++ (pad.after.chars ++ rest)) := by
  simp [Pad.around]

theorem Label.ahead_append (l : Label) (text rest : List Char) :
    l.ahead text ++ rest = closedChars l.strokes ++ (l.beforeColon.chars ++
      ':' :: (l.beforeValue.chars ++ (text ++ (l.after.chars ++ rest)))) := by
  simp [Label.ahead]

theorem Label.around_append (l : Label) (text rest : List Char) :
    l.around text ++ rest = l.before.chars ++ '"' :: (l.ahead text ++ rest) := by
  simp [Label.around]

/-- The values of all members of this name, in order. -/
def valuesOf (name : String) (members : List (Label × Value)) : List Value :=
  (members.filter (·.1.name = name)).map Prod.snd

theorem valuesOf_cons (name : String) (m : Label × Value) (members : List (Label × Value)) :
    valuesOf name (m :: members) =
      if m.1.name = name then m.2 :: valuesOf name members else valuesOf name members := by
  by_cases h : m.1.name = name <;> simp [valuesOf, h]

/-! ### Whole texts -/

/-- A text that is an object. -/
structure Document where
  before : Blanks := .none
  inner : Blanks := .none
  members : List (Label × Value)
  after : Blanks := .none

namespace Document

def value (d : Document) : Value :=
  .object d.inner d.members

def text (d : Document) : String :=
  String.ofList (d.before.chars ++ (d.value.chars ++ d.after.chars))

end Document

end DeferredLog.Json
