import Outbox.Binary64.Text
import Outbox.Text.Hex

/-!
# Writing JSON

Values are written without blanks. A string keeps every character but the quote, the backslash and
the control characters.
-/

namespace Outbox.Json

/-- One character inside the quotes. -/
def escaped (c : Char) : List Char :=
  if c = '"' then ['\\', '"']
  else if c = '\\' then ['\\', '\\']
  else if c = '\x08' then ['\\', 'b']
  else if c = '\x0c' then ['\\', 'f']
  else if c = '\n' then ['\\', 'n']
  else if c = '\r' then ['\\', 'r']
  else if c = '\t' then ['\\', 't']
  else if c.toNat < 0x20 then ['\\', 'u'] ++ Text.hexFixed 4 c.toNat
  else [c]

/-- A string. -/
def printText (s : String) : List Char := '"' :: (s.toList.flatMap escaped ++ ['"'])

/-- An integer. -/
def printInt (n : Int) : List Char := (toString n).toList

/-- A double; one that is not finite is written as `null`. -/
def printDouble (x : Binary64) : List Char :=
  if x.isFinite then x.text else ['n', 'u', 'l', 'l']

/-- A value, or `null` for none. -/
def printOption {α : Type} (print : α → List Char) : Option α → List Char
  | some a => print a
  | none => ['n', 'u', 'l', 'l']

/-- The parts with commas between them. -/
def commaSeparated : List (List Char) → List Char
  | [] => []
  | [part] => part
  | part :: parts => part ++ ',' :: commaSeparated parts

/-- A member of an object. -/
def printMember (name : String) (value : List Char) : List Char :=
  printText name ++ ':' :: value

/-- An object with members in the given order. -/
def printObject (members : List (String × List Char)) : List Char :=
  '{' :: (commaSeparated (members.map fun m => printMember m.1 m.2) ++ ['}'])

/-- A list. -/
def printList (items : List (List Char)) : List Char := '[' :: (commaSeparated items ++ [']'])

end Outbox.Json
