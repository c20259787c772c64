import Outbox.Text.Hex
import Outbox.Text.Showing

/-!
# Quoted texts

A text in double quotes, as messages show one: the quote, the backslash and five control
characters by an escape of two characters, other characters that do not show by their number.
-/

namespace Outbox.Text

/-- One character inside the quotes. -/
def quotedChar (c : Char) : List Char :=
  if c = '"' then ['\\', '"']
  else if c = '\\' then ['\\', '\\']
  else if c = '\n' then ['\\', 'n']
  else if c = '\r' then ['\\', 'r']
  else if c = '\t' then ['\\', 't']
  else if c = '\x00' then ['\\', '0']
  else if shows c then [c]
  else ['\\', 'u', '{'] ++ hexShort c.toNat ++ ['}']

/-- A text with its single quotes written twice. -/
def doubled (s : String) : String :=
  String.ofList (s.toList.flatMap fun c => if c = '\'' then ['\'', '\''] else [c])

/-- A text in double quotes. -/
def quoted (s : String) : String :=
  String.ofList ('"' :: (s.toList.flatMap quotedChar ++ ['"']))

end Outbox.Text
