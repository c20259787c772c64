import Outbox.Binary64.Basic

/-!
# Numbers with a significand of 64 bits

A store turns decimals into doubles and back by way of numbers that have 64 significant bits, eleven
more than a double. Powers of ten are applied to such a number in steps, by the hundredth, the tenth
and the first power, and each step is rounded; so the result need not be the double nearest to the
decimal.
-/

namespace Outbox

-- Powers are those of numbers, also where a monoid brings its own.
attribute [local instance (high)] instPowNat

/-- The number `significand * 2 ^ exponent`. -/
structure Extended where
  significand : Nat
  exponent : Int
  deriving DecidableEq, Repr, Inhabited

namespace Extended

/-- The number as a quotient, with a positive second part. -/
def quotient (x : Extended) : Nat × Nat :=
  if 0 ≤ x.exponent then (x.significand * 2 ^ x.exponent.toNat, 1)
  else (x.significand, 2 ^ (-x.exponent).toNat)

/-- The power of two with which the quotient `num / den` is at least `2 ^ 63` and below `2 ^ 64`. -/
def unitOf (num den : Nat) : Int :=
  let e : Int := (num.log2 : Int) - den.log2 - 63
  let fits := if 0 ≤ e then den * 2 ^ e.toNat * 2 ^ (63 : Nat) ≤ num
    else den * 2 ^ (63 : Nat) ≤ num * 2 ^ (-e).toNat
  if fits then e else e - 1

/-- The number nearest to `num / den`; of two equally near ones, the one with an even
significand. -/
def nearest (num den : Nat) : Extended :=
  let e := unitOf num den
  { significand := if 0 ≤ e then Binary64.roundHalfEven num (den * 2 ^ e.toNat)
      else Binary64.roundHalfEven (num * 2 ^ (-e).toNat) den
    exponent := e }

/-- The number nearest to a power of ten. -/
def powerOfTen (k : Int) : Extended :=
  if 0 ≤ k then nearest (10 ^ k.toNat) 1 else nearest 1 (10 ^ (-k).toNat)

/-- The product, rounded. -/
def mul (x y : Extended) : Extended :=
  nearest (x.quotient.1 * y.quotient.1) (x.quotient.2 * y.quotient.2)

/-- Whether a number is below another one. -/
def below (x y : Extended) : Bool := x.quotient.1 * y.quotient.2 < y.quotient.1 * x.quotient.2

/-- The number times a power of ten. -/
def scaled (x : Extended) (power : Int) : Extended :=
  let n := power.natAbs
  let step (k : Int) (x : Extended) : Extended :=
    x.mul (powerOfTen (if power < 0 then -k else k))
  Nat.repeat (step 1) (n % 10) (Nat.repeat (step 10) (n % 100 / 10) (Nat.repeat (step 100) (n / 100) x))

/-- The double nearest to the number with a sign. -/
def toDouble (x : Extended) (negative : Bool) : Binary64 :=
  Binary64.nearest negative x.quotient.1 x.quotient.2

/-- The magnitude of a finite double that is not zero. -/
def ofDouble (x : Binary64) : Extended := nearest x.magnitude.1 x.magnitude.2

/-! ### Digits -/

/-- A number times a power of ten, on its way to a number whose digits are taken. -/
structure Scaling where
  value : Extended
  /-- The power of ten by which `value` is too small. -/
  power : Int
  deriving Repr

namespace Scaling

/-- The number times `10 ^ step` again and again, while it is at least `10 ^ limit`. -/
def lower (s : Scaling) (limit step : Int) : Scaling :=
  Nat.repeat (fun s => if s.value.below (powerOfTen limit) then s
    else ⟨s.value.mul (powerOfTen (-step)), s.power + step⟩) 12 s

/-- The number times `10 ^ step` again and again, while it is below `10 ^ limit`. -/
def raise (s : Scaling) (limit step : Int) : Scaling :=
  Nat.repeat (fun s => if s.value.below (powerOfTen limit) then
    ⟨s.value.mul (powerOfTen step), s.power - step⟩ else s) 12 s

end Scaling

/-- An integer of eighteen or nineteen digits and the power of ten by which it counts, for the
magnitude of a double. -/
def leading (x : Extended) : Nat × Int :=
  let s : Scaling := ⟨x, 0⟩
  let s := if x.below (powerOfTen 19) then ((s.raise (-97) 100).raise 7 10).raise 17 1
    else ((s.lower 119 100).lower 29 10).lower 19 1
  (s.value.quotient.1 / s.value.quotient.2, s.power)

end Extended

end Outbox
