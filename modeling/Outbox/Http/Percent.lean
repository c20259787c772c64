import Outbox.Text.Hex
import Outbox.Text.Utf8

/-!
# Percent encoding

The characters that the parts of an address keep, and how the others are written: as the numbers of
their bytes, each behind a percent sign.
-/

namespace Outbox.Http.Percent

/-- The characters that no part of an address keeps. -/
def isOutside (c : Char) : Bool := decide (c.toNat < 0x20) || decide (0x7E < c.toNat)

/-- The characters that a fragment does not keep. -/
def inFragment (c : Char) : Bool :=
  ! (isOutside c || c == ' ' || c == '"' || c == '<' || c == '>' || c == '`')

/-- The characters that a query keeps. -/
def inQuery (c : Char) : Bool :=
  ! (isOutside c || c == ' ' || c == '"' || c == '#' || c == '<' || c == '>' || c == '\'')

/-- The characters that a path keeps. -/
def inPath (c : Char) : Bool :=
  inFragment c && ! (c == '#' || c == '?' || c == '{' || c == '}')

/-- The characters that a name of a user keeps. -/
def inUser (c : Char) : Bool :=
  inPath c && ! (c == '/' || c == ':' || c == ';' || c == '=' || c == '@' || c == '[' || c == '\\'
    || c == ']' || c == '^' || c == '|')

/-- Bytes as percent signs with two digits each. -/
def byteTexts (bs : Text.Bytes) : List Char :=
  bs.flatMap fun b => '%' :: (Text.hexFixed 2 b.toNat).map Char.toUpper

/-- A text with the characters that are not kept written as the numbers of their bytes. -/
def encode (keeps : Char → Bool) (s : List Char) : List Char :=
  s.flatMap fun c => if keeps c then [c] else byteTexts (String.utf8EncodeChar c)

/-- The bytes of a text with percent signs. -/
def decode : List Char → Text.Bytes
  | [] => []
  | [c] => String.utf8EncodeChar c
  | [c, d] => String.utf8EncodeChar c ++ decode [d]
  | '%' :: a :: b :: s =>
    match Text.hexValue a, Text.hexValue b with
    | some hi, some lo => UInt8.ofNat (16 * hi + lo) :: decode s
    | _, _ => String.utf8EncodeChar '%' ++ decode (a :: b :: s)
  | c :: s => String.utf8EncodeChar c ++ decode s

end Outbox.Http.Percent
