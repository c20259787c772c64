/-!
# Numbers of 64 bits

A double is its 64 bits: a sign, an exponent field of 11 bits and a fraction of 52. A finite one
stands for `± significand * 2 ^ scale`. Everything is computed on natural numbers, so a result is
the exact one, rounded once.
-/

namespace Outbox

-- Powers are those of numbers, also where a monoid brings its own.
attribute [local instance (high)] instPowNat

/-- A binary floating point number of 64 bits. -/
structure Binary64 where
  bits : UInt64
  deriving DecidableEq, Repr, Inhabited

namespace Binary64

/-- Whether the sign bit is set; it is for the negative zero too. -/
def negative (x : Binary64) : Bool := x.bits.toNat / 2 ^ (63 : Nat) % 2 = 1

/-- The exponent field: 0 for zero and the smallest numbers, 2047 for infinities and NaNs. -/
def field (x : Binary64) : Nat := x.bits.toNat / 2 ^ (52 : Nat) % 2 ^ (11 : Nat)

/-- The lowest 52 bits. -/
def fraction (x : Binary64) : Nat := x.bits.toNat % 2 ^ (52 : Nat)

/-- Neither an infinity nor a NaN. -/
def isFinite (x : Binary64) : Bool := x.field ≠ 2047

/-- Not a number. -/
def isNaN (x : Binary64) : Bool := x.field = 2047 && x.fraction ≠ 0

/-- One of the two infinities. -/
def isInfinite (x : Binary64) : Bool := x.field = 2047 && x.fraction = 0

/-- One of the two zeros. -/
def isZero (x : Binary64) : Bool := x.field = 0 && x.fraction = 0

/-- The integer that `2 ^ scale` multiplies. -/
def significand (x : Binary64) : Nat :=
  if x.field = 0 then x.fraction else 2 ^ (52 : Nat) + x.fraction

/-- The power of two by which a finite number counts. -/
def scale (x : Binary64) : Int := (max x.field 1 : Nat) - 1075

/-- The magnitude of a finite number as a quotient, with a positive second part. -/
def magnitude (x : Binary64) : Nat × Nat :=
  if 0 ≤ x.scale then (x.significand * 2 ^ x.scale.toNat, 1)
  else (x.significand, 2 ^ (-x.scale).toNat)

/-- The number with a sign and with the other 63 bits. -/
def ofSign (negative : Bool) (rest : Nat) : Binary64 :=
  ⟨UInt64.ofNat ((if negative then 2 ^ (63 : Nat) else 0) + rest)⟩

/-- The 63 bits of infinity. -/
def infinityBits : Nat := 2047 * 2 ^ (52 : Nat)

/-- An infinity. -/
def infinity (negative : Bool) : Binary64 := ofSign negative infinityBits

/-- A zero. -/
def zero (negative : Bool) : Binary64 := ofSign negative 0

/-- The quiet NaN. -/
def nan : Binary64 := ofSign false (infinityBits + 2 ^ (51 : Nat))

/-- The integer nearest to `n / d`; of two equally near ones, the even one. -/
def roundHalfEven (n d : Nat) : Nat :=
  let q := n / d
  let r := n % d
  if 2 * r < d then q else if d < 2 * r then q + 1 else q + q % 2

/-- The power of two with which the quotient `num / den` is at least `2 ^ 52` and below `2 ^ 53`,
or the least power there is. -/
def unitOf (num den : Nat) : Int :=
  let e : Int := (num.log2 : Int) - den.log2 - 52
  let fits := if 0 ≤ e then den * 2 ^ e.toNat * 2 ^ (52 : Nat) ≤ num
    else den * 2 ^ (52 : Nat) ≤ num * 2 ^ (-e).toNat
  max (if fits then e else e - 1) (-1074)

/-- The double nearest to `± num / den`, for positive `den`; of two equally near ones, the one with
an even significand. Beyond the largest finite number this is an infinity. -/
def nearest (negative : Bool) (num den : Nat) : Binary64 :=
  if num = 0 then zero negative
  else
    let e := unitOf num den
    let m := if 0 ≤ e then roundHalfEven num (den * 2 ^ e.toNat)
      else roundHalfEven (num * 2 ^ (-e).toNat) den
    ofSign negative (min ((e + 1074).toNat * 2 ^ (52 : Nat) + m) infinityBits)

/-- The double nearest to an integer. -/
def ofInt (n : Int) : Binary64 := nearest (n < 0) n.natAbs 1

/-- The double nearest to `± coefficient * 10 ^ exponent`. -/
def ofDecimal (negative : Bool) (coefficient : Nat) (exponent : Int) : Binary64 :=
  if 0 ≤ exponent then nearest negative (coefficient * 10 ^ exponent.toNat) 1
  else nearest negative coefficient (10 ^ (-exponent).toNat)

/-- The double nearest to `± coefficient * 10 ^ exponent`, where a power of ten that is beyond all
doubles need not be written out. -/
def ofScientific (negative : Bool) (coefficient : Nat) (exponent : Int) : Binary64 :=
  let size : Int := (Nat.toDigits 10 coefficient).length + exponent
  if coefficient = 0 ∨ size < -400 then zero negative
  else if 400 < size then infinity negative
  else ofDecimal negative coefficient exponent

end Binary64

end Outbox
