import Outbox.Json.Number

/-!
# Single values of a known kind

Readers for a string, a number or a value that may be `null`. A value of another kind is read as
far as its own syntax goes, so that a mistake in it is reported first.
-/

namespace Outbox.Json

-- Powers are those of numbers, also where a monoid brings its own.
attribute [local instance (high)] instPowNat

/-- The fault of a value that is not of the expected kind; the text begins with it. -/
def wrongType (expected : String) : Input → Fault
  | [] => .endInValue
  | c :: s =>
    let found (r : Except Fault Found) : Fault :=
      match r with
      | .error e => e
      | .ok f => .wrongType f expected
    if c = 'n' then found ((skipWord nullRest s).map fun _ => .null)
    else if c = 't' then found ((skipWord trueRest s).map fun _ => .boolean true)
    else if c = 'f' then found ((skipWord falseRest s).map fun _ => .boolean false)
    else if c = '"' then found ((textBody s).map fun r => .text r.1)
    else if c = '[' then .wrongType .sequence expected
    else if c = '{' then .wrongType .map expected
    else if c = '-' ∨ c.isDigit then
      found ((number (c :: s)).map fun r =>
        match r.1 with
        | .integer n => .integer n
        | .floating x => .floating x)
    else .noValue

/-- A string. -/
def text : Reader String := fun s =>
  match skipSpace s with
  | '"' :: s => textBody s
  | s => .error (wrongType "a string" s)

/-- A number that `accept` takes. -/
def numeric {α : Type} (expected : String) (accept : Number → Except Fault α) : Reader α := fun s =>
  match skipSpace s with
  | [] => .error .endInValue
  | c :: s =>
    if c = '-' ∨ c.isDigit then
      match number (c :: s) with
      | .error e => .error e
      | .ok (n, s) => (accept n).map (·, s)
    else .error (wrongType expected (c :: s))

/-- An integer between two bounds. -/
def integer (expected : String) (least greatest : Int) : Reader Int :=
  numeric expected fun
    | .integer n =>
      if least ≤ n ∧ n ≤ greatest then .ok n else .error (.outOfRange n expected)
    | .floating x => .error (.wrongType (.floating x) expected)

/-- An integer of 32 bits. -/
def int32 : Reader Int32 := fun s =>
  (integer "i32" (-2 ^ (31 : Nat)) (2 ^ (31 : Nat) - 1) s).map fun (n, s) => (Int32.ofInt n, s)

/-- An integer of 64 bits. -/
def int64 : Reader Int64 := fun s =>
  (integer "i64" (-2 ^ (63 : Nat)) (2 ^ (63 : Nat) - 1) s).map fun (n, s) => (Int64.ofInt n, s)

/-- A natural number of 16 bits. -/
def uint16 : Reader UInt16 := fun s =>
  (integer "u16" 0 (2 ^ (16 : Nat) - 1) s).map fun (n, s) => (UInt16.ofNat n.toNat, s)

/-- A double; an integer is taken for the nearest one. -/
def double : Reader Binary64 :=
  numeric "f64" fun
    | .integer n => .ok (Binary64.ofInt n)
    | .floating x => .ok x

/-- A value or `null`. -/
def optional {α : Type} (read : Reader α) : Reader (Option α) := fun s =>
  match skipSpace s with
  | 'n' :: s => (skipWord nullRest s).map (none, ·)
  | s => (read s).map fun (a, s) => (some a, s)

end Outbox.Json
