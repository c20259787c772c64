import Outbox.Text.Hex
import Outbox.Text.Split

/-!
# Sets of characters

A set of characters is written as lines of text: the hexadecimal numbers of its characters, with
blanks between them and with a dash between the ends of a stretch.
-/

namespace Outbox.Text

/-- The character of a hexadecimal number. -/
def charOfHex? (s : List Char) : Option Char := (numberOfHex? s).map Char.ofNat

/-- A set of characters, as stretches of their numbers with both ends. -/
structure Ranges where
  stretches : List (Nat × Nat)
  deriving DecidableEq, Repr

namespace Ranges

/-- The stretch that a word spells. -/
def stretch? (word : List Char) : Option (Nat × Nat) :=
  match (splitOn '-' word).map numberOfHex? with
  | [some n] => some (n, n)
  | [some first, some last] => some (first, last)
  | _ => none

/-- The set that lines spell. -/
def ofLines (lines : List String) : Ranges :=
  ⟨lines.flatMap fun line => (splitOn ' ' line.toList).filterMap stretch?⟩

/-- Whether a character belongs to a set. -/
def contains (r : Ranges) (c : Char) : Bool :=
  r.stretches.any fun s => decide (s.1 ≤ c.toNat) && decide (c.toNat ≤ s.2)

end Ranges

end Outbox.Text
