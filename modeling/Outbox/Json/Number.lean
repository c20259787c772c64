import Outbox.Json.Scan
import Outbox.Binary64.Arithmetic

/-!
# Numbers of a JSON text

A number is first taken from the text as a literal, digit for digit, and then given a value: an
integer where it is written as one and fits 64 bits, a double otherwise. The double is the integer
of the leading digits, as many as fit 64 bits, multiplied or divided by a power of ten, each step
rounded.
-/

namespace Outbox.Json

-- Powers are those of numbers, also where a monoid brings its own.
attribute [local instance (high)] instPowNat

/-- A number as it is written. -/
structure Literal where
  negative : Bool
  /-- The digits before the point. -/
  whole : List Nat
  /-- The digits after the point. -/
  fraction : Option (List Nat)
  /-- The sign, negative or not, and the digits of the power of ten. -/
  exponent : Option (Bool × List Nat)
  deriving DecidableEq, Repr

/-- Why no literal stands at the front of a text: it ends too early, or goes on wrongly. -/
inductive Malformed where
  | unfinished
  | wrong
  deriving DecidableEq, Repr

/-- The number of a decimal digit. -/
def digitValue (c : Char) : Nat := c.toNat - 48

/-- The digits at the front of a text, and what follows. -/
def digits (s : Input) : List Nat × Input :=
  ((s.takeWhile Char.isDigit).map digitValue, s.dropWhile Char.isDigit)

/-- At least one digit. -/
def someDigits (s : Input) : Except Malformed (List Nat × Input) :=
  match digits s with
  | ([], []) => .error .unfinished
  | ([], _ :: _) => .error .wrong
  | found => .ok found

/-- The digits before the point: a zero stands alone. -/
def wholeDigits : Input → Except Malformed (List Nat × Input)
  | [] => .error .unfinished
  | '0' :: s =>
    match s with
    | [] => .ok ([0], [])
    | c :: s => if c.isDigit then .error .wrong else .ok ([0], c :: s)
  | c :: s => if c.isDigit then .ok (digits (c :: s)) else .error .wrong

/-- The point and the digits after it, if there is a point. -/
def fractionDigits : Input → Except Malformed (Option (List Nat) × Input)
  | '.' :: s => (someDigits s).map fun (ds, s) => (some ds, s)
  | s => .ok (none, s)

/-- The power of ten, if one is given. -/
def exponentDigits : Input → Except Malformed (Option (Bool × List Nat) × Input)
  | c :: s =>
    if c = 'e' ∨ c = 'E' then
      match s with
      | '-' :: s => (someDigits s).map fun (ds, s) => (some (true, ds), s)
      | '+' :: s => (someDigits s).map fun (ds, s) => (some (false, ds), s)
      | s => (someDigits s).map fun (ds, s) => (some (false, ds), s)
    else .ok (none, c :: s)
  | [] => .ok (none, [])

/-- The literal at the front of a text that begins with a sign or a digit. -/
def literal (s : Input) : Except Malformed (Literal × Input) := do
  let (negative, s) := match s with
    | '-' :: s => (true, s)
    | s => (false, s)
  let (whole, s) ← wholeDigits s
  let (fraction, s) ← fractionDigits s
  let (exponent, s) ← exponentDigits s
  return (⟨negative, whole, fraction, exponent⟩, s)

/-- The value of a literal. -/
inductive Number where
  | integer (value : Int)
  | floating (value : Binary64)
  deriving DecidableEq, Repr

/-- The largest integer of 64 bits. -/
def wordLimit : Nat := 2 ^ (64 : Nat) - 1

/-- The integer that the digits continue, and how many digits at the end did not fit 64 bits. -/
def takeWhole : Nat → List Nat → Nat × Nat
  | acc, [] => (acc, 0)
  | acc, d :: ds =>
    if 10 * acc + d ≤ wordLimit then takeWhole (10 * acc + d) ds else (acc, ds.length + 1)

/-- The integer that the digits continue, and how many of them were taken before one did not
fit. -/
def takeFraction : Nat → List Nat → Nat × Nat
  | acc, [] => (acc, 0)
  | acc, d :: ds =>
    if 10 * acc + d ≤ wordLimit then
      let (m, taken) := takeFraction (10 * acc + d) ds
      (m, taken + 1)
    else (acc, 0)

/-- The number that decimal digits spell. -/
def ofDigits (ds : List Nat) : Nat := ds.foldl (fun acc d => 10 * acc + d) 0

/-- The double of a power of ten. -/
def powerOfTen (k : Nat) : Binary64 := Binary64.ofDecimal false 1 k

/-- The largest power of ten that is a double. -/
def largestPower : Nat := 308

/-- A double divided by a power of ten, in steps of the largest one. -/
def scaleDown (x : Binary64) (k : Nat) : Binary64 :=
  if _h : k ≤ largestPower then x.div (powerOfTen k)
  else if x.isZero then x
  else scaleDown (x.div (powerOfTen largestPower)) (k - largestPower)
  termination_by k
  decreasing_by simp only [largestPower] at *; omega

/-- A double multiplied by a power of ten. -/
def scaleUp (x : Binary64) (k : Nat) : Except Fault Binary64 :=
  if k ≤ largestPower then
    let y := x.mul (powerOfTen k)
    if y.isInfinite then .error .numberTooLarge else .ok y
  else if x.isZero then .ok x
  else .error .numberTooLarge

/-- The double of `± m * 10 ^ exponent`. -/
def scaled (negative : Bool) (m : Nat) (exponent : Int) : Except Fault Binary64 := do
  let x := Binary64.ofInt m
  let y ← if 0 ≤ exponent then scaleUp x exponent.toNat
    else .ok (scaleDown x (-exponent).toNat)
  return if negative then Binary64.ofSign true (y.bits.toNat % 2 ^ (63 : Nat)) else y

/-- The value of a literal. The negative zero is a double, and so is an integer that is too large
for 64 bits. -/
def Literal.number (l : Literal) : Except Fault Number :=
  let (m, dropped) := takeWhole 0 l.whole
  match l.fraction, l.exponent with
  | none, none =>
    if dropped ≠ 0 then (scaled l.negative m dropped).map .floating
    else if ! l.negative then .ok (.integer m)
    else if m = 0 ∨ 2 ^ (63 : Nat) < m then (scaled true m 0).map .floating
    else .ok (.integer (-m))
  | fraction, exponent =>
    let (m, taken) := takeFraction m (fraction.getD [])
    let power : Int := match exponent with
      | none => 0
      | some (down, ds) => if down then -(ofDigits ds : Int) else ofDigits ds
    (scaled l.negative m (dropped - taken + power)).map .floating

/-- The number at the front of a text that begins with a sign or a digit. -/
def number (s : Input) : Except Fault (Number × Input) :=
  match literal s with
  | .error .unfinished => .error .endInValue
  | .error .wrong => .error .badNumber
  | .ok (l, s) => l.number.map fun n => (n, s)

/-- The text after a number, which need not have a value. -/
def skipNumber (s : Input) : Except Fault Input :=
  match literal s with
  | .error _ => .error .badNumber
  | .ok (_, s) => .ok s

end Outbox.Json
