/-!
# Texts as bytes

A text is written in UTF-8. Reading back is either strict, where one wrong byte refuses the whole,
or lossy, where every longest run of bytes that begins a character and does not finish one is read
as the replacement character.
-/

namespace Outbox.Text

-- Powers are those of numbers, also where a monoid brings its own.
attribute [local instance (high)] instPowNat

/-- A sequence of bytes. -/
abbrev Bytes := List UInt8

/-- The bytes of a text. -/
def encode (s : String) : Bytes := s.toList.flatMap String.utf8EncodeChar

/-- The character that stands for bytes which are no character. -/
def replacement : Char := '\uFFFD'

/-- A byte that continues a character. -/
def isTail (b : UInt8) : Bool := decide (0x80 ≤ b.toNat) && decide (b.toNat ≤ 0xBF)

/-- How many bytes the character takes that begins with this byte, and the range in which its
second byte has to lie. -/
def leading (b : UInt8) : Option (Nat × Nat × Nat) :=
  let n := b.toNat
  if 0xC2 ≤ n ∧ n ≤ 0xDF then some (2, 0x80, 0xBF)
  else if n = 0xE0 then some (3, 0xA0, 0xBF)
  else if n = 0xED then some (3, 0x80, 0x9F)
  else if 0xE1 ≤ n ∧ n ≤ 0xEF then some (3, 0x80, 0xBF)
  else if n = 0xF0 then some (4, 0x90, 0xBF)
  else if 0xF1 ≤ n ∧ n ≤ 0xF3 then some (4, 0x80, 0xBF)
  else if n = 0xF4 then some (4, 0x80, 0x8F)
  else none

/-- The number of bytes at the start of `bs` that continue a character: at most `need`, the first
of them between `lo` and `hi`. -/
def tailLength (need lo hi : Nat) : Bytes → Nat
  | [] => 0
  | b :: bs =>
    match need with
    | 0 => 0
    | need + 1 =>
      if lo ≤ b.toNat ∧ b.toNat ≤ hi then tailLength need 0x80 0xBF bs + 1 else 0

/-- The number that the low bits of a leading byte and of its continuation bytes spell. -/
def spelled (first : Nat) (tail : Bytes) : Nat :=
  tail.foldl (fun acc b => acc * 64 + b.toNat % 64) first

/-- The first character of a sequence that is not empty, or nothing if its bytes are wrong, and
the number of bytes after the first that were looked at and belong to it. -/
def nextChar (b : UInt8) (bs : Bytes) : Option Char × Nat :=
  if b.toNat < 0x80 then (some (Char.ofNat b.toNat), 0)
  else
    match leading b with
    | none => (none, 0)
    | some (size, lo, hi) =>
      let k := tailLength (size - 1) lo hi bs
      if k + 1 = size then
        (some (Char.ofNat (spelled (b.toNat % 2 ^ (7 - size)) (bs.take k))), k)
      else (none, k)

/-- The characters of a sequence of bytes, and nothing in the place of wrong ones. -/
def characters : Bytes → List (Option Char)
  | [] => []
  | b :: bs =>
    let next := nextChar b bs
    next.1 :: characters (bs.drop next.2)
  termination_by bs => bs.length
  decreasing_by simp only [List.length_drop, List.length_cons]; omega

/-- The text that the bytes spell, if they are well formed. -/
def decode? (bs : Bytes) : Option String :=
  ((characters bs).mapM id).map String.ofList

/-- The text that the bytes spell, with the replacement character for what is not well formed. -/
def decodeLossy (bs : Bytes) : String :=
  String.ofList ((characters bs).map fun c => c.getD replacement)

end Outbox.Text
