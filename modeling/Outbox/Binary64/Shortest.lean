import Outbox.Binary64.Basic

/-!
# The shortest decimal

The decimal with the fewest digits that is nearer to a double than to any other double, and of
those with as few digits the one nearest to it. For a given count of digits only the two decimals
on either side of the double have to be tried.
-/

namespace Outbox.Binary64

-- Powers are those of numbers, also where a monoid brings its own.
attribute [local instance (high)] instPowNat

/-- The number `coefficient * 10 ^ exponent`. -/
structure Decimal where
  coefficient : Nat
  exponent : Int
  deriving DecidableEq, Repr, Inhabited

/-- The digits of the coefficient. -/
def Decimal.digits (d : Decimal) : List Char := Nat.toDigits 10 d.coefficient

/-- The position of the point, counted from the first digit. -/
def Decimal.point (d : Decimal) : Int := d.digits.length + d.exponent

/-- Whether the double nearest to the decimal has the magnitude of `x`. -/
def Decimal.readsAs (d : Decimal) (x : Binary64) : Bool :=
  ofDecimal x.negative d.coefficient d.exponent = x

/-- The least `k` with `num / den < 10 ^ k`, for a positive quotient. -/
def pointOf (num den : Nat) : Int :=
  let k : Int := ((Nat.toDigits 10 num).length : Int) - (Nat.toDigits 10 den).length
  let below := if 0 ≤ k then decide (num < den * 10 ^ k.toNat)
    else decide (num * 10 ^ (-k).toNat < den)
  if below then k else k + 1

/-- The decimals with `count` digits next to the magnitude of `x`, the nearer one first; of two
equally near ones, the one whose last digit is even. -/
def neighbours (x : Binary64) (count : Nat) : List Decimal :=
  let num := x.magnitude.1
  let den := x.magnitude.2
  let exponent := pointOf num den - count
  let n := if 0 ≤ exponent then num else num * 10 ^ (-exponent).toNat
  let d := if 0 ≤ exponent then den * 10 ^ exponent.toNat else den
  let low := n / d
  let up := 2 * (n % d)
  if up < d || (up == d && low % 2 == 0) then [⟨low, exponent⟩, ⟨low + 1, exponent⟩]
  else [⟨low + 1, exponent⟩, ⟨low, exponent⟩]

/-- A decimal without zeros at the end of its coefficient. -/
def Decimal.normal (d : Decimal) : Decimal :=
  let kept := (Nat.toDigits 10 d.coefficient).reverse.takeWhile (· == '0')
  ⟨d.coefficient / 10 ^ kept.length, d.exponent + kept.length⟩

/-- The nearest decimal with `count` digits that reads back, if there is one. -/
def readBack? (x : Binary64) (count : Nat) : Option Decimal :=
  (neighbours x count).find? fun d => d.readsAs x

/-- The shortest decimal of a finite double; seventeen digits are always enough. -/
def shortest (x : Binary64) : Decimal :=
  if x.isZero then ⟨0, 0⟩
  else
    (((List.range 17).findSome? fun i => readBack? x (i + 1)).getD
      ((neighbours x 17).headD ⟨0, 0⟩)).normal

end Outbox.Binary64
