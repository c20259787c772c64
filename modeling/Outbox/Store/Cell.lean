import Outbox.Store.Fault
import Outbox.Store.Numeral

/-!
# Cells

One value in a row of a table: nothing, an integer, a double or a text. A column prefers a kind,
and turns what is put into it into that kind where nothing is lost.
-/

namespace Outbox

/-- A value in a row. -/
inductive Cell where
  | null
  | integer (value : Int)
  | real (value : Binary64)
  | text (value : String)
  deriving DecidableEq, Repr, Inhabited

namespace Cell

/-- The kind of a cell. -/
def kind : Cell → CellKind
  | .null => .null
  | .integer _ => .integer
  | .real _ => .real
  | .text _ => .text

/-- A double as it is stored: a NaN as nothing, and zero without its sign. -/
def ofDouble (x : Binary64) : Cell :=
  if x.isNaN then .null else if x.isZero then .real (Binary64.zero false) else .real x

/-- A text or nothing. -/
def ofText? : Option String → Cell
  | some s => .text s
  | none => .null

/-- A port or nothing. -/
def ofPort? : Option UInt16 → Cell
  | some p => .integer p.toNat
  | none => .null

/-- A double or nothing. -/
def ofDouble? : Option Binary64 → Cell
  | some x => ofDouble x
  | none => .null

end Cell

/-- The kind that a column prefers. -/
inductive Affinity where
  | text
  | integer
  | real
  deriving DecidableEq, Repr

/-- A text in a column of numbers: the number it spells, if it spells one. -/
def Cell.ofNumeric (s : String) : Cell :=
  match Numeral.ofText? s with
  | none => .text s
  | some n =>
    if n.fractional ∨ ! fitsWord n.toInt then
      let x := n.toDouble
      match x.toWord? with
      | some i => .integer i
      | none => .real x
    else .integer n.toInt

/-- The cell that a column of the given preference makes of a cell. -/
def Affinity.apply : Affinity → Cell → Cell
  | _, .null => .null
  | .text, .integer n => .text (toString n)
  | .text, .real x => if x.isNaN then .null else .text x.spelled
  | .text, .text s => .text s
  | .integer, .integer n => .integer n
  | .integer, .real x =>
    match x.toWord? with
    | some n => .integer n
    | none => Cell.ofDouble x
  | .integer, .text s => Cell.ofNumeric s
  | .real, .integer n => Cell.ofDouble (Binary64.ofInt n)
  | .real, .real x => Cell.ofDouble x
  | .real, .text s =>
    match Numeral.ofText? s with
    | some n => Cell.ofDouble n.toDouble
    | none => .text s

end Outbox
