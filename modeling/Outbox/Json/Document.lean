import Outbox.Json.Layout
import Outbox.Json.Number

/-!
# Any JSON text

The check that a text is a JSON value, whatever it holds. Here, unlike for values that are passed
over, numbers must have a value, strings must spell characters, and the depth is limited.
-/

namespace Outbox.Json

/-- How many lists and objects may stand inside each other. -/
def depthLimit : Nat := 127

/-- A value that is neither a list nor an object. -/
def scalar : Reader Unit
  | [] => .error .endInValue
  | 'n' :: s => (skipWord nullRest s).map ((), ·)
  | 't' :: s => (skipWord trueRest s).map ((), ·)
  | 'f' :: s => (skipWord falseRest s).map ((), ·)
  | '"' :: s => (textBody s).map fun r => ((), r.2)
  | c :: s =>
    if c = '-' ∨ c.isDigit then (number (c :: s)).map fun r => ((), r.2) else .error .noValue

/-- A value with at most `depth` lists and objects inside each other. -/
def value (depth : Nat) : Reader Unit := fun s =>
  match skipSpace s with
  | '[' :: s =>
    match depth with
    | 0 => .error .tooDeep
    | depth + 1 => list (fun _ => value depth) () s
  | '{' :: s =>
    match depth with
    | 0 => .error .tooDeep
    | depth + 1 =>
      object (fun _ _ s => (skipColon s).bind (value depth)) () s
  | s => scalar s

/-- The fault of a text that is not one JSON value. -/
def fault? (text : String) : Option Fault :=
  match whole (value depthLimit) text.toList with
  | .ok _ => none
  | .error e => some e

end Outbox.Json
