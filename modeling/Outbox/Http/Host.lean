import Outbox.Domain.Basic
import Outbox.Http.Percent

/-!
# Hosts

The host in an address is a domain name, or four numbers, or a long address in brackets. The normal
form of numbers is decimal, however they were written.
-/

namespace Outbox.Http.Host

-- Powers are those of numbers, also where a monoid brings its own.
attribute [local instance (high)] instPowNat

/-- The number of digits in a base, if all are digits of it. -/
def numberOf? (base : Nat) (s : List Char) : Option Nat :=
  s.foldl (fun acc c => do
    let n ← acc
    let d ← Text.hexValue c
    if d < base then return base * n + d else none) (some 0)

/-- One part of an address in numbers: decimal, octal after a zero, hexadecimal after `0x`. -/
def hostNumber? : List Char → Option Nat
  | [] => none
  | '0' :: 'x' :: s => numberOf? 16 s
  | '0' :: 'X' :: s => numberOf? 16 s
  | '0' :: c :: s => numberOf? 8 (c :: s)
  | s => numberOf? 10 s

/-- The labels of a host, without an empty one at the end. -/
def labels (host : List Char) : List (List Char) :=
  let parts := Text.splitOn '.' host
  if 1 < parts.length ∧ parts.getLast?.getD [] = [] then parts.dropLast else parts

/-- Whether a host has to be read as an address in numbers. -/
def endsInNumber (host : List Char) : Bool :=
  match (labels host).getLast? with
  | none => false
  | some last =>
    ! last.isEmpty && (last.all Char.isDigit ||
      ((last.take 2 == ['0', 'x'] || last.take 2 == ['0', 'X']) && (hostNumber? last).isSome))

/-- The four bytes of an address in numbers, whose last part fills all bytes that are left. -/
def ofNumbers? (parts : List Nat) : Option Nat :=
  let n := parts.length
  if n = 0 ∨ 4 < n then none
  else if parts.dropLast.any fun p => decide (255 < p) then none
  else
    let last := parts.getLast?.getD 0
    if 256 ^ (5 - n) ≤ last then none
    else
      let above := (parts.dropLast.zipIdx).map fun (p, i) => p * 256 ^ (3 - i)
      some (last + above.foldr (· + ·) 0)

/-- An address in numbers in its normal form. -/
def numericHost? (host : List Char) : Option String := do
  let parts ← (labels host).mapM hostNumber?
  let address ← ofNumbers? parts
  return ".".intercalate ((List.range 4).map fun i => toString (address / 256 ^ (3 - i) % 256))

/-- One of four numbers with points between them, in decimal digits and without zeros in front. -/
def dottedNumber? (s : List Char) : Option Nat := do
  let n ← if s.isEmpty ∨ 3 < s.length then none else numberOf? 10 s
  if 255 < n ∨ (1 < s.length ∧ s.head? = some '0') then none else return n

/-- The two groups that four numbers with points between them stand for. -/
def dottedGroups? (s : List Char) : Option (List Nat) :=
  match (Text.splitOn '.' s).mapM dottedNumber? with
  | some [a, b, c, d] => some [256 * a + b, 256 * c + d]
  | _ => none

/-- One group of a long address. -/
def group? (s : List Char) : Option Nat :=
  if s.isEmpty ∨ 4 < s.length then none else numberOf? 16 s

/-- The groups of a long address on one side of its gap. The last ones may be written as four
numbers with points between them if nothing follows. -/
def groups? (atEnd : Bool) (s : List Char) : Option (List Nat) :=
  if s.isEmpty then some []
  else
    let parts := Text.splitOn ':' s
    let last := parts.getLast?.getD []
    if atEnd ∧ '.' ∈ last then do
      return (← parts.dropLast.mapM group?) ++ (← dottedGroups? last)
    else parts.mapM group?

/-- The two sides of the gap in a long address. -/
def splitGap : List Char → List Char → List Char × Option (List Char)
  | acc, ':' :: ':' :: s => (acc.reverse, some s)
  | acc, c :: s => splitGap (c :: acc) s
  | acc, [] => (acc.reverse, none)

/-- The eight groups of a long address. -/
def longAddress? (s : List Char) : Option (List Nat) := do
  match splitGap [] s with
  | (all, none) =>
    let groups ← groups? true all
    if groups.length = 8 then return groups else none
  | (left, some right) =>
    let left ← groups? false left
    let right ← groups? true right
    if left.length + right.length ≤ 7 then
      return left ++ List.replicate (8 - left.length - right.length) 0 ++ right
    else none

/-- The first longest run of zeros, as its start and length, among runs of at least two. -/
def longestGap (groups : List Nat) : Option (Nat × Nat) :=
  let runs := (List.range groups.length).map fun i =>
    (i, ((groups.drop i).takeWhile (· == 0)).length)
  runs.foldl (fun best run =>
    if 2 ≤ run.2 ∧ (best.map (·.2)).getD 1 < run.2 then some run else best) none

/-- A long address in its normal form, in brackets. -/
def longHost (groups : List Nat) : String :=
  let shown (gs : List Nat) : List Char :=
    [':'].intercalate (gs.map fun g => Text.hexShort g)
  let body := match longestGap groups with
    | some (start, size) =>
      shown (groups.take start) ++ [':', ':'] ++ shown (groups.drop (start + size))
    | none => shown groups
  String.ofList ('[' :: (body ++ [']']))

/-- The characters that the name of a host cannot have. -/
def isForbidden (c : Char) : Bool :=
  Percent.isOutside c || c == ' ' || c == '#' || c == '/' || c == ':' || c == '<' || c == '>' || c == '?' ||
    c == '@' || c == '[' || c == '\\' || c == ']' || c == '^' || c == '|' || c == '%'

/-- A host in its normal form. -/
def ofText? (s : List Char) : Option String :=
  match s with
  | '[' :: rest =>
    match rest.reverse with
    | ']' :: inner => (longAddress? inner.reverse).map longHost
    | _ => none
  | _ => do
    let name ← Domain.written? (← Text.decode? (Percent.decode s)).toList
    if name.isEmpty ∨ name.any isForbidden then none
    else if endsInNumber name then numericHost? name
    else return String.ofList name

end Outbox.Http.Host
