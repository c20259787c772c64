import Outbox.Toml.Scalar

/-!
# Configuration texts

A text is a list of lines, each with a heading, with a key and its value, or with neither.
-/

namespace Outbox.Toml

/-! ### Keys -/

/-- A character of a key without quotes. -/
def isKeyChar (c : Char) : Bool :=
  c.isDigit || ('a'.toNat ≤ c.toNat && c.toNat ≤ 'z'.toNat) ||
    ('A'.toNat ≤ c.toNat && c.toNat ≤ 'Z'.toNat) || c == '-' || c == '_'

/-- One part of a key. -/
def keyPart : Reader String
  | '"' :: s => lineString ('"' :: s)
  | '\'' :: s => lineString ('\'' :: s)
  | s =>
    let part := s.takeWhile isKeyChar
    if part.isEmpty then none else some (String.ofList part, s.dropWhile isKeyChar)

/-- The parts of a key, with blanks around them. The first argument bounds their number. -/
def keyParts : Nat → Reader (List String)
  | 0, _ => none
  | n + 1, s => do
    let (part, s) ← keyPart (skipSpace s)
    match skipSpace s with
    | '.' :: s =>
      let (parts, s) ← keyParts n s
      return (part :: parts, s)
    | s => return ([part], s)

/-- How many parts a key may have, and one more than how deep values may be nested. -/
def depthLimit : Nat := 79

/-- A key: the parts before the last one, and the last one. -/
def key (s : Input) : Option ((List String × String) × Input) := do
  let (parts, s) ← keyParts depthLimit s
  let last ← parts.getLast?
  return ((parts.dropLast, last), s)

/-! ### Values -/

/-- The text after a comment, if one begins here. -/
def skipComment : Input → Input
  | '#' :: s => s.dropWhile isPlain
  | s => s

/-- The text after blanks, line breaks and comments. The first argument bounds the number of
steps. -/
def skipLines : Nat → Input → Input
  | 0, s => s
  | n + 1, s =>
    match skipSpace s with
    | '#' :: s =>
      match lineBreak? (skipComment ('#' :: s)) with
      | some s => skipLines n s
      | none => '#' :: s
    | s =>
      match lineBreak? s with
      | some s => skipLines n s
      | none => s

/-- The text after everything between two elements of an array. -/
def skipGap (s : Input) : Input := skipLines (s.length + 1) s

/-- The elements of an array up to its end. The first argument bounds their number. -/
def arrayItems (item : Reader Value) : Nat → List Value → Reader (List Value)
  | 0, _, _ => none
  | n + 1, acc, s =>
    match skipGap s with
    | ']' :: s => some (acc.reverse, s)
    | s => do
      let (v, s) ← item s
      match skipGap s with
      | ',' :: s => arrayItems item n (v :: acc) s
      | ']' :: s => return ((v :: acc).reverse, s)
      | _ => none

/-- A key with its value; both have blanks around them. -/
def member (item : Reader Value) (s : Input) :
    Option ((List String × String × Value) × Input) := do
  let ((path, name), s) ← key s
  let s ← after '=' s
  let (v, s) ← item (skipSpace s)
  return ((path, name, v), skipSpace s)

/-- The members of a table in braces up to its end. The first argument bounds their number. -/
def inlineMembers (item : Reader Value) : Nat → Entries → Reader Entries
  | 0, _, _ => none
  | n + 1, entries, s => do
    let ((path, name, v), s) ← member item s
    let entries ← entries.insert path name v
    match s with
    | ',' :: s => inlineMembers item n entries s
    | '}' :: s => return (entries, s)
    | _ => none

/-- A value with at most `depth` arrays and tables inside each other. -/
def value (depth : Nat) : Reader Value
  | '"' :: s => (string ('"' :: s)).map fun (t, s) => (.text t, s)
  | '\'' :: s => (string ('\'' :: s)).map fun (t, s) => (.text t, s)
  | 't' :: 'r' :: 'u' :: 'e' :: s => some (.boolean true, s)
  | 'f' :: 'a' :: 'l' :: 's' :: 'e' :: s => some (.boolean false, s)
  | '[' :: s =>
    match depth with
    | 0 => none
    | depth + 1 =>
      (arrayItems (value depth) (s.length + 1) [] s).map fun (items, s) => (.array items, s)
  | '{' :: s =>
    match depth with
    | 0 => none
    | depth + 1 =>
      match skipSpace s with
      | '}' :: s => some (.table .inline [], s)
      | s =>
        (inlineMembers (value depth) (s.length + 1) [] s).map fun (entries, s) =>
          (.table .inline entries, s)
  | s => timeOrNumber s

/-! ### Lines -/

/-- The text after the end of a line, which may have a comment. -/
def endLine (s : Input) : Option Input :=
  match skipComment (skipSpace s) with
  | [] => some []
  | s => lineBreak? s

/-- What has been read: all entries, and the heading that the next ones come under. -/
structure Progress where
  entries : Entries := []
  heading : List String := []

/-- One line. -/
def line (p : Progress) : Reader Progress
  | '[' :: '[' :: s => do
    let ((path, name), s) ← key s
    let s ← after ']' s
    let s ← after ']' s
    let entries ← p.entries.openNextTable path name
    return (⟨entries, path ++ [name]⟩, ← endLine s)
  | '[' :: s => do
    let ((path, name), s) ← key s
    let s ← after ']' s
    let entries ← p.entries.openTable path name
    return (⟨entries, path ++ [name]⟩, ← endLine s)
  | s => do
    let ((path, name, v), s) ← member (value depthLimit) s
    let entries ← p.entries.insertUnder p.heading path name v
    return (⟨entries, p.heading⟩, ← endLine s)

/-- All lines. The first argument bounds their number. -/
def lines : Nat → Progress → Input → Option Entries
  | 0, _, _ => none
  | n + 1, p, s =>
    match skipSpace s with
    | [] => some p.entries
    | c :: s =>
      if c = '#' ∨ c = '\n' ∨ c = '\r' then
        match endLine (c :: s) with
        | some s => lines n p s
        | none => none
      else
        match line p (c :: s) with
        | some (p, s) => lines n p s
        | none => none

/-- The entries of a text, if it is well formed. A byte order mark at its start does not count. -/
def parse? (text : String) : Option Entries :=
  let s := match text.toList with
    | '\uFEFF' :: s => s
    | s => s
  lines (s.length + 1) {} s

end Outbox.Toml
