import Outbox.Binary64.Shortest

/-!
# Doubles as text

A finite double is written with its shortest digits, positionally when its magnitude is neither
very small nor very large, and otherwise with one digit before the point and a power of ten.
-/

namespace Outbox.Binary64

/-- Where positional notation is used: the least and the greatest position of the point. -/
structure Positional where
  least : Int
  greatest : Int
  deriving Repr

/-- From `0.00001` up to below `10 ^ 16`. -/
def positional : Positional := ⟨-4, 16⟩

/-- The digits with a point at position `point`, and at least one digit on either side. -/
def pointed (digits : List Char) (point : Int) : List Char :=
  if point ≤ 0 then ['0', '.'] ++ List.replicate (-point).toNat '0' ++ digits
  else
    let p := point.toNat
    if digits.length ≤ p then digits ++ List.replicate (p - digits.length) '0' ++ ['.', '0']
    else digits.take p ++ ['.'] ++ digits.drop p

/-- One digit, the point and the other digits if there are any, and the power of ten with its
sign. -/
def scientific (digits : List Char) (point : Int) : List Char :=
  let power := point - 1
  digits.take 1 ++ (if digits.length ≤ 1 then [] else '.' :: digits.drop 1) ++
    ['e', if power < 0 then '-' else '+'] ++ Nat.toDigits 10 power.natAbs

/-- The text of a decimal. -/
def Decimal.text (d : Decimal) : List Char :=
  if d.coefficient = 0 ∨ (positional.least ≤ d.point ∧ d.point ≤ positional.greatest) then
    pointed d.digits d.point
  else scientific d.digits d.point

/-- The text of a finite double. -/
def text (x : Binary64) : List Char :=
  (if x.negative then ['-'] else []) ++ x.shortest.text

end Outbox.Binary64
