import Outbox.Json.Scan

/-!
# Lists and objects of a JSON text

How the elements of a list and the members of an object follow each other.
-/

namespace Outbox.Json

/-- What follows in a list, before an element or its end. -/
inductive Next where
  | element (rest : Input)
  | closed (rest : Input)
  deriving DecidableEq, Repr

/-- What comes next in a list. Before the first element no comma stands. -/
def nextElement (first : Bool) (s : Input) : Except Fault Next :=
  match skipSpace s with
  | [] => .error .endInList
  | c :: s =>
    if c = ']' then .ok (.closed s)
    else if first then .ok (.element (c :: s))
    else if c = ',' then
      match skipSpace s with
      | [] => .error .endInValue
      | ']' :: _ => .error .trailingComma
      | s => .ok (.element s)
    else .error .noListSeparator

/-- What comes next in an object; a member begins after the opening quote of its key. -/
def nextMember (first : Bool) (s : Input) : Except Fault Next :=
  match skipSpace s with
  | [] => .error .endInObject
  | c :: s =>
    if c = '}' then .ok (.closed s)
    else if first then if c = '"' then .ok (.element s) else .error .badKey
    else if c = ',' then
      match skipSpace s with
      | [] => .error .endInValue
      | '"' :: s => .ok (.element s)
      | '}' :: _ => .error .trailingComma
      | _ => .error .badKey
    else .error .noObjectSeparator

/-- The text after the colon between a key and its value. -/
def skipColon (s : Input) : Except Fault Input :=
  match skipSpace s with
  | [] => .error .endInObject
  | ':' :: s => .ok s
  | _ => .error .noColon

/-- The end of a list of which no more elements are wanted. -/
def closeList (s : Input) : Except Fault Input :=
  match skipSpace s with
  | [] => .error .endInList
  | ']' :: s => .ok s
  | ',' :: s =>
    match skipSpace s with
    | ']' :: _ => .error .trailingComma
    | _ => .error .trailingCharacters
  | _ => .error .trailingCharacters

/-- Takes the members of an object one by one up to its end. `member` gets what has been collected
so far and the key, and goes on after the key. The first argument bounds the number of members. -/
def members {σ : Type} (member : σ → String → Reader σ) : Nat → Bool → σ → Reader σ
  | 0, _, _, _ => .error .endInObject
  | n + 1, first, state, s =>
    match nextMember first s with
    | .error e => .error e
    | .ok (.closed s) => .ok (state, s)
    | .ok (.element s) =>
      match textBody s with
      | .error e => .error e
      | .ok (key, s) =>
        match member state key s with
        | .error e => .error e
        | .ok (state, s) => members member n false state s

/-- The members of an object whose opening brace has been taken. Every member takes at least one
character. -/
def object {σ : Type} (member : σ → String → Reader σ) (state : σ) : Reader σ :=
  fun s => members member (s.length + 1) true state s

/-- Takes the elements of a list one by one up to its end. The first argument bounds their
number. -/
def elements {σ : Type} (element : σ → Reader σ) : Nat → Bool → σ → Reader σ
  | 0, _, _, _ => .error .endInList
  | n + 1, first, state, s =>
    match nextElement first s with
    | .error e => .error e
    | .ok (.closed s) => .ok (state, s)
    | .ok (.element s) =>
      match element state s with
      | .error e => .error e
      | .ok (state, s) => elements element n false state s

/-- The elements of a list whose opening bracket has been taken. -/
def list {σ : Type} (element : σ → Reader σ) (state : σ) : Reader σ :=
  fun s => elements element (s.length + 1) true state s

/-- Reads a whole text: after the value only blanks may follow. -/
def whole {α : Type} (read : Reader α) (s : Input) : Except Fault α :=
  match read s with
  | .error e => .error e
  | .ok (a, s) => if (skipSpace s).isEmpty then .ok a else .error .trailingCharacters

end Outbox.Json
