import Outbox.Json.Fault

/-!
# Words and strings of a JSON text

What a reader takes from the front of a text: blanks, the three words, and the characters of a
string. A string that is kept has to spell characters; one that is skipped may also hold single
halves of surrogate pairs.
-/

namespace Outbox.Json

/-- What is left of a text. -/
abbrev Input := List Char

/-- Takes a value from the front of a text. -/
abbrev Reader (α : Type) := Input → Except Fault (α × Input)

/-- The four blank characters of the format. -/
def isSpace (c : Char) : Bool := c == ' ' || c == '\t' || c == '\n' || c == '\r'

/-- The text after its blanks. -/
def skipSpace (s : Input) : Input := s.dropWhile isSpace

/-- The text after the given letters. -/
def skipWord : List Char → Input → Except Fault Input
  | [], s => .ok s
  | _ :: _, [] => .error .endInValue
  | c :: cs, d :: s => if c = d then skipWord cs s else .error .badWord

/-- The letters of `null` after its first. -/
def nullRest : List Char := ['u', 'l', 'l']

/-- The letters of `true` after its first. -/
def trueRest : List Char := ['r', 'u', 'e']

/-- The letters of `false` after its first. -/
def falseRest : List Char := ['a', 'l', 's', 'e']

/-- The four hexadecimal digits at the front of a text. They are looked for in its first four
bytes, so a text of fewer bytes ends too early. -/
def hexQuad : Reader Nat
  | a :: b :: c :: d :: s =>
    match Text.numberOfHex? [a, b, c, d] with
    | some n => .ok (n, s)
    | none => .error .badEscape
  | s => if (s.map Char.utf8Size).foldr (· + ·) 0 < 4 then .error .endInText else .error .badEscape

/-- The character that one letter after a backslash stands for. -/
def shortEscape : Char → Option Char
  | '"' => some '"'
  | '\\' => some '\\'
  | '/' => some '/'
  | 'b' => some '\x08'
  | 'f' => some '\x0c'
  | 'n' => some '\n'
  | 'r' => some '\r'
  | 't' => some '\t'
  | _ => none

/-- The second half of a surrogate pair, whose first half is `high`. -/
def secondHalf (high : Nat) : Reader Char
  | [] => .error .endInText
  | '\\' :: [] => .error .endInText
  | '\\' :: 'u' :: s =>
    match hexQuad s with
    | .error e => .error e
    | .ok (low, s) =>
      if 0xDC00 ≤ low ∧ low ≤ 0xDFFF then
        .ok (Char.ofNat (0x10000 + (high - 0xD800) * 0x400 + (low - 0xDC00)), s)
      else .error .loneSurrogate
  | _ => .error .endOfPair

/-- The character that an escape stands for; the text begins after the backslash. -/
def escape : Reader Char
  | [] => .error .endInText
  | 'u' :: s =>
    match hexQuad s with
    | .error e => .error e
    | .ok (n, s) =>
      if 0xDC00 ≤ n ∧ n ≤ 0xDFFF then .error .loneSurrogate
      else if 0xD800 ≤ n ∧ n ≤ 0xDBFF then secondHalf n s
      else .ok (Char.ofNat n, s)
  | c :: s =>
    match shortEscape c with
    | some d => .ok (d, s)
    | none => .error .badEscape

/-- The characters up to the closing quote, after those of `acc` in reverse order. The first
argument bounds the number of steps. -/
def textLoop : Nat → List Char → Reader String
  | 0, _, _ => .error .endInText
  | _ + 1, _, [] => .error .endInText
  | _ + 1, acc, '"' :: s => .ok (String.ofList acc.reverse, s)
  | n + 1, acc, '\\' :: s =>
    match escape s with
    | .error e => .error e
    | .ok (c, s) => textLoop n (c :: acc) s
  | n + 1, acc, c :: s =>
    if c.toNat < 0x20 then .error .controlCharacter else textLoop n (c :: acc) s

/-- The characters of a string; the text begins after the opening quote. Every step takes at least
one character. -/
def textBody (s : Input) : Except Fault (String × Input) := textLoop (s.length + 1) [] s

/-- The text after an escape, whatever it stands for. -/
def skipEscape : Input → Except Fault Input
  | [] => .error .endInText
  | 'u' :: s => (hexQuad s).map (·.2)
  | c :: s => if (shortEscape c).isSome then .ok s else .error .badEscape

/-- The text after the closing quote. The first argument bounds the number of steps. -/
def skipTextLoop : Nat → Input → Except Fault Input
  | 0, _ => .error .endInText
  | _ + 1, [] => .error .endInText
  | _ + 1, '"' :: s => .ok s
  | n + 1, '\\' :: s =>
    match skipEscape s with
    | .error e => .error e
    | .ok s => skipTextLoop n s
  | n + 1, c :: s => if c.toNat < 0x20 then .error .controlCharacter else skipTextLoop n s

/-- The text after the closing quote of a string whose opening quote has been taken. -/
def skipText (s : Input) : Except Fault Input := skipTextLoop (s.length + 1) s

end Outbox.Json
