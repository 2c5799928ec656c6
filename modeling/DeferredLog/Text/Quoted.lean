import DeferredLog.Text.Invisible

/-!
# Diagnostic forms of texts and records

What a person reads in a diagnostic: a text between double quotes with everything ambiguous or
invisible escaped, a record as its name and its fields in braces. The forms are for reading, not for
reading back.

* `quoted` writes a backslash and a double quote behind a backslash, the four common controls by
  letter, and every other invisible character by its number; a single quote stands for itself.
* `record` separates fields by commas and has the same outline for every type of the library.
-/

namespace DeferredLog.Text

/-- How one character stands inside a quoted text. -/
def quotedChar (c : Char) : List Char :=
  if c = '\x00' then ['\\', '0']
  else if c = '\t' then ['\\', 't']
  else if c = '\r' then ['\\', 'r']
  else if c = '\n' then ['\\', 'n']
  else if c = '\\' then ['\\', '\\']
  else if c = '"' then ['\\', '"']
  else if isInvisible c then "\\u\x7b".toList ++ Nat.toDigits 16 c.toNat ++ ['\x7d']
  else [c]

/-- A text between double quotes, with nothing in it left ambiguous. -/
def quoted (text : String) : String :=
  String.ofList ('"' :: text.toList.flatMap quotedChar ++ ['"'])

/-- A record: its name, then its fields with their values in order. -/
def record (name : String) (fields : List (String × String)) : String :=
  name ++ " \x7b " ++ ", ".intercalate (fields.map fun f ↦ f.1 ++ ": " ++ f.2) ++ " \x7d"

/-- A value that may be absent, given the form of its value. -/
def optional {α : Type} (form : α → String) : Option α → String
  | none => "None"
  | some a => "Some(" ++ form a ++ ")"

end DeferredLog.Text
