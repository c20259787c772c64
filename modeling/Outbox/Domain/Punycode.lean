/-!
# Punycode

Texts of any characters written with letters, digits and hyphens. The plain characters come first,
and a hyphen after them. The others follow in ascending order: each is told by the number of steps
from the one before, where a step goes to the next place in the text and, at its end, to the next
character. These numbers are written with digits in base 36 whose limits adapt to the sizes of the
numbers so far.
-/

namespace Outbox.Domain.Punycode

-- Powers are those of numbers, also where a monoid brings its own.
attribute [local instance (high)] instPowNat

/-- The digit of a number below 36. -/
def digit (n : Nat) : Char := if n < 26 then Char.ofNat (97 + n) else Char.ofNat (22 + n)

/-- The number of a digit in either case. -/
def digitValue? (c : Char) : Option Nat :=
  let n := c.toNat
  if 97 ≤ n ∧ n ≤ 122 then some (n - 97)
  else if 65 ≤ n ∧ n ≤ 90 then some (n - 65)
  else if 48 ≤ n ∧ n ≤ 57 then some (n - 22)
  else none

/-- The least digit at a place that is not the last one of its number. -/
def limit (bias place : Nat) : Nat := min (max (36 * (place + 1) - bias) 1) 26

theorem one_le_limit (bias place : Nat) : 1 ≤ limit bias place := by
  unfold limit
  omega

/-- A number brought below the bound that the bias is taken from, and the bias for the divisions
that this took. -/
def reduce (n bias : Nat) : Nat × Nat :=
  if 455 < n then reduce (n / 35) (bias + 36) else (n, bias)
termination_by n
decreasing_by omega

/-- The bias after a number, when there are `count` characters. -/
def adapt (n count : Nat) (isFirst : Bool) : Nat :=
  let n := if isFirst then n / 700 else n / 2
  let (n, bias) := reduce (n + n / count) 0
  bias + 36 * n / (n + 38)

/-- What limits the digits of the first number. -/
def firstBias : Nat := 72

/-! ### Writing -/

/-- The digits of a number from a place on. -/
def digits (bias place n : Nat) : List Char :=
  let l := limit bias place
  if n < l then [digit n]
  else digit (l + (n - l) % (36 - l)) :: digits bias (place + 1) ((n - l) / (36 - l))
termination_by n
decreasing_by
  have h := one_le_limit bias place
  have := Nat.div_le_self (n - limit bias place) (36 - limit bias place)
  omega

/-- What has been written. -/
structure Progress where
  written : List Char := []
  /-- The steps since the last character that was written. -/
  steps : Nat := 0
  bias : Nat := firstBias
  /-- How many characters are written. -/
  count : Nat

namespace Progress

/-- The progress after the character of number `n` has gone past one place of the text. -/
def pass (plain n : Nat) (p : Progress) (c : Char) : Progress :=
  if c.toNat < n then { p with steps := p.steps + 1 }
  else if c.toNat = n then
    { written := p.written ++ digits p.bias 0 p.steps
      steps := 0
      bias := adapt p.steps (p.count + 1) (p.count = plain)
      count := p.count + 1 }
  else p

/-- The progress after all characters of the given numbers were written. `next` is the number that
the steps have come to. -/
def writeAll (plain : Nat) (s : List Char) : List Nat → Nat → Progress → Progress
  | [], _, p => p
  | n :: ns, next, p =>
    let p := { p with steps := p.steps + (n - next) * (p.count + 1) }
    let p := s.foldl (pass plain n) p
    writeAll plain s ns (n + 1) { p with steps := p.steps + 1 }

end Progress

/-- The written form of a text. -/
def encode (s : List Char) : List Char :=
  let plain := s.filter fun c => decide (c.toNat < 0x80)
  let others := ((s.map Char.toNat).filter (0x80 ≤ ·)).mergeSort.eraseDups
  let p := Progress.writeAll plain.length s others 0x80 { count := plain.length }
  plain ++ (if plain.isEmpty then [] else ['-']) ++ p.written

/-! ### Reading -/

/-- The numbers that appear while reading fit this bound. -/
def bound : Nat := 2 ^ (32 : Nat)

/-- A number at the front of digits from a place on, added to `sum`, and the digits after it. -/
def number? (bias : Nat) (place weight sum : Nat) : List Char → Option (Nat × List Char)
  | [] => none
  | c :: s => do
    let d ← digitValue? c
    let sum := sum + d * weight
    let l := limit bias place
    if bound ≤ sum then none
    else if d < l then return (sum, s)
    else if bound ≤ weight * (36 - l) then none
    else number? bias (place + 1) (weight * (36 - l)) sum s

theorem number?_length {bias place weight sum n : Nat} {s rest : List Char}
    (h : number? bias place weight sum s = some (n, rest)) : rest.length < s.length := by
  induction s generalizing place weight sum with
  | nil => simp [number?] at h
  | cons c s ih =>
    rw [number?] at h
    cases hd : digitValue? c with
    | none => simp [hd] at h
    | some d =>
      simp only [hd, Option.bind_eq_bind, Option.bind_some] at h
      split at h
      · cases h
      · split at h
        · simp only [Option.pure_def, Option.some.injEq, Prod.mk.injEq] at h
          simp [← h.2]
        · split at h
          · cases h
          · have := ih h
            simp only [List.length_cons]
            omega

/-- The text after the characters that digits tell were put into it. `next` is the character and
`place` the place that the steps have come to. -/
def readAll (bias next place : Nat) (text digits : List Char) : Option (List Char) :=
  match digits with
  | [] => some text
  | c :: cs =>
    match _h : number? bias 0 1 place (c :: cs) with
    | none => none
    | some (n, rest) =>
      let count := text.length + 1
      let next := next + n / count
      let here := n % count
      if next.isValidChar then
        readAll (adapt (n - place) count (place = 0)) next (here + 1)
          (text.take here ++ Char.ofNat next :: text.drop here) rest
      else none
termination_by digits.length
decreasing_by simpa using number?_length _h

/-- The text that a written form spells. -/
def decode? (s : List Char) : Option (List Char) :=
  let tail := (s.reverse.takeWhile (· ≠ '-')).reverse
  match s.reverse.drop tail.length with
  | [] => readAll firstBias 0x80 0 [] tail
  | ['-'] => none
  | _ :: plain => readAll firstBias 0x80 0 plain.reverse tail

end Outbox.Domain.Punycode
