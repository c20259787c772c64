import Outbox.Binary64.Basic

/-!
# Arithmetic of doubles

Products and quotients, each the exact result rounded once, and the rounding to an integer that
takes a half away from zero.
-/

namespace Outbox.Binary64

/-- The product. -/
def mul (x y : Binary64) : Binary64 :=
  let sign := x.negative != y.negative
  if x.isNaN || y.isNaN then nan
  else if x.isInfinite || y.isInfinite then
    if x.isZero || y.isZero then nan else infinity sign
  else nearest sign (x.magnitude.1 * y.magnitude.1) (x.magnitude.2 * y.magnitude.2)

/-- The quotient. -/
def div (x y : Binary64) : Binary64 :=
  let sign := x.negative != y.negative
  if x.isNaN || y.isNaN then nan
  else if x.isInfinite then if y.isInfinite then nan else infinity sign
  else if y.isInfinite then zero sign
  else if y.isZero then if x.isZero then nan else infinity sign
  else nearest sign (x.magnitude.1 * y.magnitude.2) (x.magnitude.2 * y.magnitude.1)

/-- The nearest integer; a half goes away from zero, and the sign stays, also on a zero. -/
def roundHalfAway (x : Binary64) : Binary64 :=
  if x.isFinite then
    nearest x.negative ((2 * x.magnitude.1 + x.magnitude.2) / (2 * x.magnitude.2)) 1
  else x

/-- One hundred. -/
def hundred : Binary64 := ofInt 100

end Outbox.Binary64
