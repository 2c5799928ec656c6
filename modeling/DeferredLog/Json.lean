/-!
# JSON values and their compact text

The part of JSON that the library writes: its numbers are natural, and an object is the list of its
members in the order in which they are written. `chars` is the compact text, without blanks; a
text between quotes escapes the two characters that would end it and the controls, by letter where
there is one, and leaves every other character as it is.

`Json.Reader` and the modules after it read texts that others have written.
-/

namespace DeferredLog

/-- A JSON value whose numbers are natural. -/
inductive Json where
  | null
  | bool (b : Bool)
  | number (n : Nat)
  | string (s : String)
  | array (items : List Json)
  | object (members : List (String × Json))
  deriving Repr

namespace Json

/-- The letter that stands for a character behind a backslash, if there is one. -/
def escapeLetter? (c : Char) : Option Char :=
  if c = '"' then some '"'
  else if c = '\\' then some '\\'
  else if c = '\x08' then some 'b'
  else if c = '\x0c' then some 'f'
  else if c = '\n' then some 'n'
  else if c = '\r' then some 'r'
  else if c = '\t' then some 't'
  else none

/-- How a character stands between quotes. Every control is below 32, so two digits are enough. -/
def escapedChar (c : Char) : List Char :=
  match escapeLetter? c with
  | some letter => ['\\', letter]
  | none =>
    if c.toNat < 32 then
      ['\\', 'u', '0', '0', Nat.digitChar (c.toNat / 16), Nat.digitChar (c.toNat % 16)]
    else [c]

/-- A text between quotes. -/
def quotedChars (s : String) : List Char :=
  '"' :: s.toList.flatMap escapedChar ++ ['"']

mutual

/-- The compact text of a value. -/
def chars : Json → List Char
  | null => ['n', 'u', 'l', 'l']
  | bool true => ['t', 'r', 'u', 'e']
  | bool false => ['f', 'a', 'l', 's', 'e']
  | number n => Nat.toDigits 10 n
  | string s => quotedChars s
  | array items => '[' :: itemsChars items ++ [']']
  | object members => '\x7b' :: membersChars members ++ ['\x7d']

/-- Values with commas between them. -/
def itemsChars : List Json → List Char
  | [] => []
  | [item] => item.chars
  | item :: rest => item.chars ++ ',' :: itemsChars rest

/-- Members with commas between them. -/
def membersChars : List (String × Json) → List Char
  | [] => []
  | [(name, value)] => quotedChars name ++ ':' :: value.chars
  | (name, value) :: rest => quotedChars name ++ ':' :: value.chars ++ ',' :: membersChars rest

end

/-- The compact text of a value. -/
def text (j : Json) : String :=
  String.ofList j.chars

/-- An absent value is null. -/
def ofOption {α : Type} (form : α → Json) : Option α → Json
  | none => null
  | some a => form a

example : (object [("a", array [number 1, null]), ("b", string "q\"\n\x01")]).chars =
    "\x7b\"a\":[1,null],\"b\":\"q\\\"\\n\\u0001\"\x7d".toList := by decide +kernel

end Json

end DeferredLog
