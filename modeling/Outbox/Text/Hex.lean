/-!
# Hexadecimal digits

Bytes and numbers written with the digits `0` to `9` and `a` to `f`.
-/

namespace Outbox.Text

/-- The digit of a number below sixteen, in lower case. -/
def hexDigit (n : Nat) : Char :=
  if n < 10 then Char.ofNat (48 + n) else Char.ofNat (87 + n)

/-- The number of a digit in either case. -/
def hexValue (c : Char) : Option Nat :=
  let n := c.toNat
  if 48 ≤ n ∧ n ≤ 57 then some (n - 48)
  else if 97 ≤ n ∧ n ≤ 102 then some (n - 87)
  else if 65 ≤ n ∧ n ≤ 70 then some (n - 55)
  else none

/-- The last `width` digits of a number. -/
def hexFixed : Nat → Nat → List Char
  | 0, _ => []
  | width + 1, n => hexFixed width (n / 16) ++ [hexDigit (n % 16)]

/-- A number without leading zeros. -/
def hexShort (n : Nat) : List Char := Nat.toDigits 16 n

/-- Two digits for every byte. -/
def hexOfBytes (bs : List UInt8) : String :=
  String.ofList (bs.flatMap fun b => hexFixed 2 b.toNat)

/-- The bytes that pairs of digits spell. -/
def bytesOfHex? : List Char → Option (List UInt8)
  | [] => some []
  | a :: b :: rest => do
    let hi ← hexValue a
    let lo ← hexValue b
    let tail ← bytesOfHex? rest
    return UInt8.ofNat (16 * hi + lo) :: tail
  | _ => none

/-- The number that digits spell, read from the left. -/
def numberOfHex? (s : List Char) : Option Nat :=
  s.foldl (fun acc c => do return 16 * (← acc) + (← hexValue c)) (some 0)

end Outbox.Text
