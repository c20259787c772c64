import Outbox.Binary64.Extended
import Outbox.Binary64.Text

/-!
# Numbers in texts

How a store reads a number that a text spells, and how it spells a double itself: with fifteen digits
at most.
-/

namespace Outbox

-- Powers are those of numbers, also where a monoid brings its own.
attribute [local instance (high)] instPowNat

/-- A number as it is spelled in a text: sign, digits before and after the point, power of ten. -/
structure Numeral where
  negative : Bool
  whole : List Char
  fraction : List Char
  exponent : Int
  /-- It is written with a point or a power of ten. -/
  fractional : Bool
  deriving DecidableEq, Repr

namespace Numeral

/-- The value of a digit. -/
def digit (c : Char) : Nat := c.toNat - '0'.toNat

/-- The power of ten of a sequence of digits. A power of five digits is large enough for
everything, and takes up no more of them. -/
def power (ds : List Char) : Nat :=
  ds.foldl (fun n d => if n < 10000 then 10 * n + digit d else 10000) 0

/-- The power of ten after its mark, with a sign or without. -/
def exponentOf? (cs : List Char) : Option Int :=
  let (negative, ds) := match cs with
    | '-' :: ds => (true, ds)
    | '+' :: ds => (false, ds)
    | ds => (false, ds)
  if ds.isEmpty ∨ ! ds.all Char.isDigit then none
  else some (if negative then -(power ds : Int) else power ds)

/-- The blanks that may surround a number. -/
def isSpace (c : Char) : Bool := c == ' ' || (decide (9 ≤ c.toNat) && decide (c.toNat ≤ 13))

/-- The number that a text spells, blanks at its ends apart. -/
def ofText? (s : String) : Option Numeral :=
  let cs := ((s.toList.dropWhile isSpace).reverse.dropWhile isSpace).reverse
  let (negative, cs) := match cs with
    | '-' :: cs => (true, cs)
    | '+' :: cs => (false, cs)
    | cs => (false, cs)
  let whole := cs.takeWhile Char.isDigit
  let cs := cs.dropWhile Char.isDigit
  let (pointed, fraction, cs) := match cs with
    | '.' :: cs => (true, cs.takeWhile Char.isDigit, cs.dropWhile Char.isDigit)
    | cs => (false, [], cs)
  if whole.isEmpty ∧ fraction.isEmpty then none
  else
    match cs with
    | [] => some ⟨negative, whole, fraction, 0, pointed⟩
    | c :: cs =>
      if c = 'e' ∨ c = 'E' then
        (exponentOf? cs).map fun e => ⟨negative, whole, fraction, e, true⟩
      else none

/-- The numeral of an integer. -/
def ofInt (n : Int) : Numeral := ⟨n < 0, Nat.toDigits 10 n.natAbs, [], 0, false⟩

/-- The numeral of a finite double with its shortest digits. -/
def ofDouble (x : Binary64) : Numeral :=
  ⟨x.negative, x.shortest.digits, [], x.shortest.exponent, true⟩

/-- Once an integer has come to this size, no further digit is taken up into it, so that it stays
below `2 ^ 64`. -/
def fullSize : Nat := (2 ^ (64 : Nat) - 10) / 10

/-- The integer and the power of ten that a numeral stands for. Digits that are not taken up count
only by their number before the point, and not at all after it. -/
def coefficient (n : Numeral) : Nat × Int :=
  let before := n.whole.foldl (fun (m, e) d =>
    if m < fullSize then (10 * m + digit d, e) else (m, e + 1)) (0, n.exponent)
  n.fraction.foldl (fun (m, e) d =>
    if m < fullSize then (10 * m + digit d, e - 1) else (m, e)) before

/-- A positive coefficient with a power of ten that is nearer to zero: factors of ten are moved into
the coefficient while it stays below `2 ^ 64`, or out of it. -/
def balanced (coefficient : Nat × Int) : Nat × Int :=
  Nat.repeat (fun (m, e) =>
    if 0 < e ∧ m < (2 ^ (64 : Nat) - 1) / 10 then (10 * m, e - 1)
    else if e < 0 ∧ m % 10 = 0 then (m / 10, e + 1)
    else (m, e)) 20 coefficient

/-- The double that a numeral stands for. -/
def toDouble (n : Numeral) : Binary64 :=
  if n.coefficient.1 = 0 then Binary64.zero n.negative
  else
    let (m, e) := balanced n.coefficient
    if e = 0 then Binary64.nearest n.negative m 1
    else ((Extended.nearest m 1).scaled e).toDouble n.negative

/-- The integer of a numeral without point and power of ten. -/
def toInt (n : Numeral) : Int :=
  let m : Int := Nat.ofDigitChars 10 n.whole 0
  if n.negative then -m else m

end Numeral

namespace Binary64

/-- The number of digits with which a store spells a double. -/
def spelledDigits : Nat := 15

/-- The digits of a double that is not zero, of which a half is rounded up, and the position of its
point. -/
def roundedDigits (x : Binary64) : List Char × Int :=
  let (v, power) := (Extended.ofDouble x).leading
  let cut := (Nat.toDigits 10 v).length - spelledDigits
  let digits := Nat.toDigits 10 ((v / 10 ^ (cut - 1) + 5) / 10)
  (digits, digits.length + (cut + power))

/-- A double as a text with a point. -/
def spelled (x : Binary64) : String :=
  let sign := if x.negative then "-" else ""
  if x.isInfinite then sign ++ "Inf"
  else if x.isZero then "0.0"
  else
    let (digits, point) := x.roundedDigits
    let digits := (digits.reverse.dropWhile (· == '0')).reverse
    let power := point - 1
    sign ++ String.ofList
      (if power < -4 ∨ 14 < power then
        let shown := Nat.toDigits 10 power.natAbs
        digits.take 1 ++ '.' :: (if digits.length ≤ 1 then ['0'] else digits.drop 1) ++
          ['e', if power < 0 then '-' else '+'] ++
          (if shown.length < 2 then '0' :: shown else shown)
      else pointed digits point)

/-- The integer of 64 bits that a double equals, unless it is the least or the greatest one. -/
def toWord? (x : Binary64) : Option Int :=
  if x.isFinite ∧ x.magnitude.1 % x.magnitude.2 = 0 then
    let m : Int := x.magnitude.1 / x.magnitude.2
    let n := if x.negative then -m else m
    if -2 ^ (63 : Nat) < n ∧ n < 2 ^ (63 : Nat) - 1 then some n else none
  else none

end Binary64

/-- Whether an integer fits 64 bits. -/
def fitsWord (n : Int) : Bool := decide (-2 ^ (63 : Nat) ≤ n) && decide (n < 2 ^ (63 : Nat))

end Outbox
