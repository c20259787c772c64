import Outbox.Logging.Pattern
import Outbox.Text.Alphanumeric
import Outbox.Text.Blank
import Outbox.Text.Split
import Outbox.Text.Utf8

/-!
# Directives of the logging

The level of the logging is given by directives with commas between them. A directive is a level, or
the name of a part of the program, or the name of a span in brackets, perhaps with fields, and then
perhaps a level for it. What cannot be understood is ignored, with a complaint.
-/

namespace Outbox.Logging

/-- Why a directive cannot be understood. -/
inductive DirectiveFault where
  | malformed
  /-- What stands in the place of a level is none. -/
  | badLevel
  /-- The pattern for a field is none. -/
  | badPattern (fault : PatternFault)
  deriving DecidableEq, Repr

/-- The fault in words. -/
def DirectiveFault.message : DirectiveFault → String
  | .malformed => "invalid filter directive"
  | .badLevel =>
    "error parsing level filter: expected one of \"off\", \"error\", \"warn\", \"info\", " ++
      "\"debug\", \"trace\", or a number 0-5"
  | .badPattern fault => "invalid field filter: " ++ fault.message

/-! ### Numbers -/

/-- A number without its sign. -/
def unsigned (s : List Char) : List Char :=
  match s with
  | '+' :: s => s
  | '-' :: s => s
  | s => s

/-- Whether a text is digits. -/
def isDigits (s : List Char) : Bool := ! s.isEmpty && s.all Char.isDigit

/-- Whether a text is a number: digits with a point and a power of ten, or a word for what is no
finite one. -/
def isNumber (s : List Char) : Bool :=
  let s := (unsigned s).map Char.toLower
  let whole := s.takeWhile Char.isDigit
  let s' := s.dropWhile Char.isDigit
  let fraction := match s' with
    | '.' :: s => s.takeWhile Char.isDigit
    | _ => []
  let power := match s' with
    | '.' :: s => s.dropWhile Char.isDigit
    | s => s
  ["inf", "infinity", "nan"].contains (String.ofList s) ||
    (! (whole.isEmpty && fraction.isEmpty) &&
      (match power with
        | [] => true
        | 'e' :: digits => isDigits (unsigned digits)
        | _ => false))

/-! ### Levels and fields -/

/-- The words for the levels. -/
def levelWords : List String := ["off", "error", "warn", "info", "debug", "trace"]

/-- Whether a text is a level: a word in letters of either case, or a number from 0 to 5. -/
def isLevel (s : String) : Bool :=
  let digits := match s.toList with
    | '+' :: s => s
    | s => s
  levelWords.contains (String.ofList (s.toList.map Char.toLower)) ||
    (isDigits digits && decide (Nat.ofDigitChars 10 digits 0 ≤ 5))

/-- What is wrong with the value that a field is compared with. -/
def valueFault? (s : List Char) : Option PatternFault :=
  if s = "true".toList ∨ s = "false".toList ∨ isNumber s then none else Pattern.fault? s

/-- What is wrong with a field, if anything is. -/
def fieldFault? (s : String) : Option DirectiveFault :=
  if s.isEmpty then some .malformed
  else
    match Text.splitOn '=' s.toList with
    | _ :: value :: _ => (valueFault? value).map .badPattern
    | _ => none

/-! ### Reading -/

/-- What a reader of a directive is inside of. A part is told by where it begins, counted in bytes
from the first character that is no blank. -/
inductive Position where
  | beginning
  | name
  | span
  | field (start : Nat)
  /-- Behind the fields of a span. -/
  | fields
  /-- Behind a span. -/
  | target
  | level (start : Nat)
  deriving DecidableEq, Repr

/-- The part of a directive between two positions. Positions do not count the blanks in front, but
the text they are looked up in has them. -/
def cut (directive : String) (start stop : Nat) : String :=
  Text.decodeLossy (((Text.encode directive).take stop).drop start)

namespace Position

/-- The position behind a character that stands `at_` bytes behind the first one. -/
def next (directive : String) (p : Position) (at_ : Nat) (c : Char) :
    Except DirectiveFault Position :=
  match p with
  | .beginning =>
    if c = '[' then .ok .span
    else if Text.isAlphanumeric c ∨ c = '-' ∨ c = ':' ∨ c = '_' then .ok .name
    else .error .malformed
  | .name =>
    .ok (if c = '=' then .level (at_ + 1) else if c = '[' then .span else .name)
  | .span => .ok (if c = ']' then .target else if c = '\x7b' then .field (at_ + 1) else .span)
  | .field start =>
    if c = '\x7d' then
      match fieldFault? (cut directive start at_) with
      | some fault => .error fault
      | none => .ok .fields
    else .ok p
  | .fields => if c = ']' then .ok .target else .error .malformed
  | .target => if c = '=' then .ok (.level (at_ + 1)) else .error .malformed
  | .level _ => .ok p

/-- The position behind a text. -/
def read (directive : String) (p : Position) (at_ : Nat) :
    List Char → Except DirectiveFault Position
  | [] => .ok p
  | c :: s => do read directive (← p.next directive at_ c) (at_ + c.utf8Size) s

/-- What is wrong with a directive that ends at a position. -/
def endFault? (directive : String) : Position → Option DirectiveFault
  | .name | .target => none
  | .level start =>
    let level := cut directive start directive.utf8ByteSize
    if level.isEmpty ∨ isLevel level then none else some .badLevel
  | _ => some .malformed

end Position

/-- What is wrong with a directive, if anything is. -/
def directiveFault? (directive : String) : Option DirectiveFault :=
  match Position.beginning.read directive 0 (Text.trim directive).toList with
  | .error fault => some fault
  | .ok p => p.endFault? directive

/-- The complaints about directives with commas between them. -/
def complaints (directives : String) : String :=
  String.join (((Text.splitOn ',' directives.toList).map String.ofList).map fun directive =>
    if directive.isEmpty then ""
    else
      match directiveFault? directive with
      | some fault => "ignoring `" ++ directive ++ "`: " ++ fault.message ++ "\n"
      | none => "")

end Outbox.Logging
