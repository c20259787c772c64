import Outbox.Binary64.Basic
import Outbox.Text.Hex
import Outbox.Toml.Value

/-!
# Strings, numbers and times of a configuration text

What a reader takes from the front of the text. Strings come with escapes or without, and with line
breaks or without; integers in four bases; times as dates, as times of day, or as both.
-/

namespace Outbox.Toml

-- Powers are those of numbers, also where a monoid brings its own.
attribute [local instance (high)] instPowNat

/-- What is left of a text. -/
abbrev Input := List Char

/-- Takes a value from the front of a text, if it can. -/
abbrev Reader (α : Type) := Input → Option (α × Input)

/-- A blank inside a line. -/
def isSpace (c : Char) : Bool := c == ' ' || c == '\t'

/-- The text after the blanks at its front. -/
def skipSpace (s : Input) : Input := s.dropWhile isSpace

/-- The text after a line break, if it begins with one. -/
def lineBreak? : Input → Option Input
  | '\n' :: s => some s
  | '\r' :: '\n' :: s => some s
  | _ => none

/-- A character that may stand for itself in comments and strings. -/
def isPlain (c : Char) : Bool := c == '\t' || (decide (0x20 ≤ c.toNat) && c.toNat ≠ 0x7F)

/-! ### Strings -/

/-- The character of a number, if it has one. -/
def charOf? (n : Nat) : Option Char := if n.isValidChar then some (Char.ofNat n) else none

/-- The character with a number of `count` hexadecimal digits. -/
def numbered (count : Nat) (s : Input) : Option (Char × Input) := do
  let digits := s.take count
  if digits.length = count then
    let c ← charOf? (← Text.numberOfHex? digits)
    return (c, s.drop count)
  else none

/-- The character that an escape stands for, after its backslash. -/
def escape : Reader Char
  | 'b' :: s => some ('\x08', s)
  | 't' :: s => some ('\t', s)
  | 'n' :: s => some ('\n', s)
  | 'f' :: s => some ('\x0c', s)
  | 'r' :: s => some ('\r', s)
  | '"' :: s => some ('"', s)
  | '\\' :: s => some ('\\', s)
  | 'u' :: s => numbered 4 s
  | 'U' :: s => numbered 8 s
  | _ => none

/-- The text after the line break that ends a line with a backslash, and after all blanks and line
breaks that follow. -/
def continued? (s : Input) : Option Input :=
  (lineBreak? (skipSpace s)).map skipBlank
where
  /-- The text after blanks and line breaks. -/
  skipBlank : Input → Input
    | ' ' :: s => skipBlank s
    | '\t' :: s => skipBlank s
    | '\n' :: s => skipBlank s
    | '\r' :: '\n' :: s => skipBlank s
    | s => s

/-- The characters of a string on one line, after those of `acc` in reverse order. The first
argument bounds their number. -/
def lineText (quote : Char) (escapes : Bool) : Nat → List Char → Reader String
  | 0, _, _ => none
  | _ + 1, _, [] => none
  | n + 1, acc, c :: s =>
    if c = quote then some (String.ofList acc.reverse, s)
    else if escapes ∧ c = '\\' then do
      let (c, s) ← escape s
      lineText quote escapes n (c :: acc) s
    else if isPlain c then lineText quote escapes n (c :: acc) s
    else none

/-- The characters of a string over several lines, after those of `acc` in reverse order. Three
quotes end it; before them one or two more may stand. The first argument bounds the number of
steps. -/
def linesText (quote : Char) (escapes : Bool) : Nat → List Char → Reader String
  | 0, _, _ => none
  | n + 1, acc, s =>
    let quotes := (s.takeWhile (· == quote)).length
    if 3 ≤ quotes then
      let extra := min (quotes - 3) 2
      some (String.ofList (List.replicate extra quote ++ acc).reverse, s.drop (extra + 3))
    else
      match lineBreak? s with
      | some s => linesText quote escapes n ('\n' :: acc) s
      | none =>
        match s with
        | [] => none
        | c :: s =>
          if escapes ∧ c = '\\' then
            match continued? s with
            | some s => linesText quote escapes n acc s
            | none => do
              let (c, s) ← escape s
              linesText quote escapes n (c :: acc) s
          else if isPlain c then linesText quote escapes n (c :: acc) s
          else none

/-- A string on one line. -/
def lineString : Reader String
  | '"' :: s => lineText '"' true (s.length + 1) [] s
  | '\'' :: s => lineText '\'' false (s.length + 1) [] s
  | _ => none

/-- A string over several lines; a line break right at its start does not count. -/
def linesString (quote : Char) (s : Input) : Option (String × Input) :=
  let s := (lineBreak? s).getD s
  linesText quote (quote == '"') (s.length + 1) [] s

/-- A string. -/
def string : Reader String
  | '"' :: '"' :: '"' :: s => linesString '"' s
  | '\'' :: '\'' :: '\'' :: s => linesString '\'' s
  | s => lineString s

/-! ### Times -/

/-- A number of exactly `count` digits between two bounds. -/
def fixedDigits (count least greatest : Nat) (s : Input) : Option (Nat × Input) :=
  let digits := s.take count
  if digits.length = count ∧ digits.all Char.isDigit then
    let n := Nat.ofDigitChars 10 digits 0
    if least ≤ n ∧ n ≤ greatest then some (n, s.drop count) else none
  else none

/-- The text after a given character. -/
def after (c : Char) : Input → Option Input
  | d :: s => if c = d then some s else none
  | [] => none

/-- The number of days in a month. -/
def daysOf (year month : Nat) : Nat :=
  if month = 2 then
    if year % 4 = 0 ∧ (year % 100 ≠ 0 ∨ year % 400 = 0) then 29 else 28
  else if month = 4 ∨ month = 6 ∨ month = 9 ∨ month = 11 then 30
  else 31

/-- The text after a date. -/
def date (s : Input) : Option Input := do
  let (year, s) ← fixedDigits 4 0 9999 s
  let s ← after '-' s
  let (month, s) ← fixedDigits 2 1 12 s
  let s ← after '-' s
  let (_, s) ← fixedDigits 2 1 (daysOf year month) s
  return s

/-- The text after a time of day. -/
def clock (s : Input) : Option Input := do
  let (_, s) ← fixedDigits 2 0 23 s
  let s ← after ':' s
  let (_, s) ← fixedDigits 2 0 59 s
  let s ← after ':' s
  let (_, s) ← fixedDigits 2 0 60 s
  match s with
  | '.' :: s => if (s.takeWhile Char.isDigit).isEmpty then none else some (s.dropWhile Char.isDigit)
  | s => return s

/-- The text after the distance from universal time, if it is given. -/
def zone (s : Input) : Option Input :=
  match s with
  | c :: rest =>
    if c = 'Z' ∨ c = 'z' then some rest
    else if c = '+' ∨ c = '-' then do
      let (_, rest) ← fixedDigits 2 0 23 rest
      let rest ← after ':' rest
      let (_, rest) ← fixedDigits 2 0 59 rest
      return rest
    else some s
  | [] => some s

/-- The text after a date, a time of day, or both. -/
def time (s : Input) : Option Input :=
  match date s with
  | none => clock s
  | some s =>
    match s with
    | c :: rest =>
      if c = 'T' ∨ c = 't' ∨ c = ' ' then
        match clock rest with
        | some rest => zone rest
        | none => some s
      else some s
    | [] => some s

/-! ### Numbers -/

/-- Digits with single underscores between them. -/
def groupedLoop (isDigit : Char → Bool) : List Char → Reader (List Char)
  | acc, '_' :: c :: s =>
    if isDigit c then groupedLoop isDigit (c :: acc) s else none
  | acc, c :: s =>
    if isDigit c then groupedLoop isDigit (c :: acc) s
    else if c = '_' then none
    else some (acc.reverse, c :: s)
  | acc, [] => some (acc.reverse, [])

/-- At least one digit, with single underscores between digits. -/
def grouped (isDigit : Char → Bool) : Reader (List Char)
  | c :: s => if isDigit c then groupedLoop isDigit [c] s else none
  | [] => none

/-- A sign, and whether it is a minus. -/
def sign : Input → Bool × Input
  | '-' :: s => (true, s)
  | '+' :: s => (false, s)
  | s => (false, s)

/-- The digits of a decimal integer: a zero stands alone. -/
def decimalDigits : Reader (List Char)
  | '0' :: s => some (['0'], s)
  | s => grouped Char.isDigit s

/-- An integer of 64 bits. -/
def word? (n : Int) : Option Int :=
  if -2 ^ (63 : Nat) ≤ n ∧ n < 2 ^ (63 : Nat) then some n else none

/-- An integer in another base, after its mark. -/
def basedInteger (base : Nat) (s : Input) : Option (Value × Input) := do
  let isDigit (c : Char) : Bool := ((Text.hexValue c).map fun d => decide (d < base)).getD false
  let (digits, s) ← grouped isDigit s
  let n := digits.foldl (fun acc c => base * acc + (Text.hexValue c).getD 0) 0
  return (.integer (← word? n), s)

/-- An integer. -/
def integer : Reader Value
  | '0' :: 'x' :: s => basedInteger 16 s
  | '0' :: 'o' :: s => basedInteger 8 s
  | '0' :: 'b' :: s => basedInteger 2 s
  | s => do
    let (negative, s) := sign s
    let (digits, s) ← decimalDigits s
    let m : Int := Nat.ofDigitChars 10 digits 0
    return (.integer (← word? (if negative then -m else m)), s)

/-- The power of ten of a double. -/
def exponent (s : Input) : Option (Int × Input) := do
  let (negative, s) := sign s
  let (digits, s) ← grouped Char.isDigit s
  let n : Int := Nat.ofDigitChars 10 digits 0
  return (if negative then -n else n, s)

/-- The power of ten of a double, if it has one. -/
def exponent? (s : Input) : Option (Option Int × Input) :=
  match s with
  | c :: rest =>
    if c = 'e' ∨ c = 'E' then (exponent rest).map fun (n, s) => (some n, s) else some (none, s)
  | [] => some (none, s)

/-- A double with a point or a power of ten. It must not be beyond the largest one. -/
def pointedDouble (s : Input) : Option (Value × Input) := do
  let (negative, s) := sign s
  let (whole, s) ← decimalDigits s
  let (fraction, s) ← match s with
    | '.' :: s => (grouped Char.isDigit s).map fun (ds, s) => (some ds, s)
    | s => some (none, s)
  let (power, s) ← exponent? s
  if fraction.isNone ∧ power.isNone then none
  else
    let digits := whole ++ fraction.getD []
    let x := Binary64.ofScientific negative (Nat.ofDigitChars 10 digits 0)
      (power.getD 0 - (fraction.getD []).length)
    if x.isInfinite ∧ ! negative then none else some (.double, s)

/-- A double. -/
def double (s : Input) : Option (Value × Input) :=
  match (sign s).2 with
  | 'i' :: 'n' :: 'f' :: s => some (.double, s)
  | 'n' :: 'a' :: 'n' :: s => some (.double, s)
  | _ => pointedDouble s

/-- A time or a number. -/
def timeOrNumber (s : Input) : Option (Value × Input) :=
  match time s with
  | some s => some (.time, s)
  | none => (double s).orElse fun _ => integer s

end Outbox.Toml
