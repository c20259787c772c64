import Outbox.Text.Hex

/-!
# Patterns for values

A value in a directive of the logging is a pattern for texts. Here it is only checked whether it is
one. Patterns are matched without tables of characters, so that those that ask for letters of all
scripts cannot be had.
-/

namespace Outbox.Logging

/-- What is wrong with a pattern. -/
inductive PatternFault where
  /-- It is none, or it needs tables of characters. -/
  | malformed
  /-- It asks where words begin and end. -/
  | wordEdges
  deriving DecidableEq, Repr

/-- The fault in words. -/
def PatternFault.message : PatternFault → String
  | .malformed => "error building NFA"
  | .wordEdges =>
    "unsupported regex feature for DFAs: cannot build DFAs for regexes with Unicode word " ++
      "boundaries; switch to ASCII word boundaries, or heuristically enable Unicode word " ++
      "boundaries or use a different regex engine"

namespace Pattern

/-! ### Escapes -/

/-- What stands behind a backslash. -/
inductive Escape where
  | char (c : Char)
  /-- The beginning or the end of the text. -/
  | textEdge
  /-- A place where a word begins or ends, or where none does. -/
  | wordEdge
  /-- A set of characters: digits, blanks or characters of words, or all others. -/
  | set (others : Bool)
  deriving DecidableEq, Repr

/-- The character of a number with the given count of digits, and what follows it. -/
def numbered? (count : Nat) (s : List Char) : Option (Escape × List Char) := do
  let n ← Text.numberOfHex? (s.take count)
  if (s.take count).length = count ∧ n.isValidChar then return (.char (Char.ofNat n), s.drop count)
  else none

/-- What stands behind a backslash, and what follows it. -/
def escape? : List Char → Option (Escape × List Char)
  | [] => none
  | 'x' :: s => numbered? 2 s
  | 'u' :: s => numbered? 4 s
  | 'U' :: s => numbered? 8 s
  | c :: s =>
    if c ∈ ['d', 's', 'w'] then some (.set false, s)
    else if c ∈ ['D', 'S', 'W'] then some (.set true, s)
    else if c ∈ ['b', 'B', '<', '>'] then some (.wordEdge, s)
    else if c ∈ ['A', 'z'] then some (.textEdge, s)
    else if c ∈ ['a', 'f', 't', 'n', 'r', 'v'] then some (.char c, s)
    else if c.isAlphanum ∨ 0x80 ≤ c.toNat then none
    else some (.char c, s)

/-! ### Sets in brackets -/

/-- The names of sets inside of brackets. -/
def setNames : List String :=
  ["alnum", "alpha", "ascii", "blank", "cntrl", "digit", "graph", "lower", "print", "punct",
    "space", "upper", "word", "xdigit"]

/-- What follows a named set, behind its opening bracket. -/
def afterNamedSet? : List Char → Option (List Char)
  | ':' :: s =>
    let s := match s with
      | '^' :: s => s
      | s => s
    let name := s.takeWhile (· ≠ ':')
    match s.drop name.length with
    | ':' :: ']' :: s => if setNames.contains (String.ofList name) then some s else none
    | _ => none
  | _ => none

/-- What follows the opening bracket of a set and the characters that stand for themselves only
there. -/
def openSet (s : List Char) : List Char :=
  let s := match s with
    | '^' :: s => s
    | s => s
  match s with
  | ']' :: s => s
  | s => s.dropWhile (· = '-')

/-- One member of a set, and what follows it; the member is a character or a set of its own. -/
def member? (unicode : Bool) : List Char → Option (Option Char × List Char)
  | [] => none
  | '\\' :: s =>
    match escape? s with
    | some (.char c, s) => some (some c, s)
    | some (.set others, s) => if unicode ∨ others then none else some (none, s)
    | _ => none
  | c :: s => some (some c, s)

/-- Whether a hyphen begins the second half of a stretch, when `s` follows the hyphen. -/
def continuesStretch (s : List Char) : Bool :=
  match s with
  | ']' :: _ => false
  | '-' :: _ => false
  | _ => true

/-- What follows the members of a set, as far as its closing bracket. `depth` counts the sets around
it. The first argument bounds the number of steps. -/
def closeSet? (unicode : Bool) : Nat → Nat → List Char → Option (List Char)
  | 0, _, _ => none
  | _, _, [] => none
  | n + 1, depth, ']' :: s =>
    match depth with
    | 0 => some s
    | depth + 1 => closeSet? unicode n depth s
  | n + 1, depth, '[' :: s =>
    match afterNamedSet? s with
    | some s => closeSet? unicode n depth s
    | none => closeSet? unicode n (depth + 1) (openSet s)
  | n + 1, depth, '&' :: '&' :: s => closeSet? unicode n depth s
  | n + 1, depth, '-' :: '-' :: s => closeSet? unicode n depth s
  | n + 1, depth, '~' :: '~' :: s => closeSet? unicode n depth s
  | n + 1, depth, s =>
    match member? unicode s with
    | none => none
    | some (first, '-' :: s) =>
      if continuesStretch s then
        match first, member? unicode s with
        | some first, some (some last, s) => if first ≤ last then closeSet? unicode n depth s else none
        | _, _ => none
      else closeSet? unicode n depth ('-' :: s)
    | some (_, s) => closeSet? unicode n depth s

/-! ### Patterns -/

/-- How characters are understood. -/
structure Mode where
  /-- Letters stand for both of their cases. -/
  insensitive : Bool := false
  /-- Characters are meant, not bytes. -/
  unicode : Bool := true
  deriving DecidableEq, Repr

/-- Whether a character that stands for itself can be had. -/
def Mode.allowsLetters (m : Mode) : Bool := ! (m.insensitive && m.unicode)

/-- What has been read of a pattern. -/
structure Progress where
  mode : Mode := {}
  /-- The modes to go back to when the open groups end. -/
  outer : List Mode := []
  /-- What was read last can be repeated. -/
  repeatable : Bool := false
  /-- It was asked where words begin and end. -/
  asksWordEdges : Bool := false
  names : List (List Char) := []

namespace Progress

/-- After something that can be repeated. -/
def item (p : Progress) : Progress := { p with repeatable := true }

/-- After the beginning of a group. -/
def group (p : Progress) (mode : Mode) : Progress :=
  { p with mode, outer := p.mode :: p.outer, repeatable := false }

end Progress

/-- The mode after letters that change it; the ones behind a hyphen switch off. -/
def Mode.change? : Bool → List Char → List Char → Mode → Option Mode
  | _, _, [], m => some m
  | on, seen, c :: letters, m =>
    if seen.contains c then none
    else
      match c with
      | '-' => if on ∧ ! letters.isEmpty then change? false (c :: seen) letters m else none
      | 'i' => change? on (c :: seen) letters { m with insensitive := on }
      | 'u' => change? on (c :: seen) letters { m with unicode := on }
      | 'm' | 's' | 'U' | 'R' | 'x' => change? on (c :: seen) letters m
      | _ => none

/-- Whether a text can be the name of a group. -/
def isName (s : List Char) : Bool :=
  match s with
  | [] => false
  | c :: s =>
    (c.isAlpha || c == '_') &&
      s.all fun c => c.isAlphanum || c == '_' || c == '.' || c == '[' || c == ']'

/-- The progress after the name of a group, and what follows it. -/
def named? (s : List Char) (p : Progress) : Option (Progress × List Char) :=
  let name := s.takeWhile (· ≠ '>')
  match s.drop name.length with
  | '>' :: s =>
    if isName name ∧ ! p.names.contains name then
      some ({ p.group p.mode with names := name :: p.names }, s)
    else none
  | _ => none

/-- The progress after an opening parenthesis and what belongs to it, and what follows. -/
def openGroup? (s : List Char) (p : Progress) : Option (Progress × List Char) :=
  match s with
  | '?' :: 'P' :: '<' :: s => named? s p
  | '?' :: '<' :: s => named? s p
  | '?' :: s =>
    let letters := s.takeWhile fun c => c.isAlpha || c == '-'
    match Mode.change? true [] letters p.mode, s.drop letters.length with
    | some mode, ':' :: s => some (p.group mode, s)
    | some mode, ')' :: s =>
      if letters.isEmpty then none else some ({ p with mode, repeatable := false }, s)
    | _, _ => none
  | s => some (p.group p.mode, s)

/-- The progress after an escape. -/
def Progress.escape? (p : Progress) : Escape → Option Progress
  | .char _ => if p.mode.allowsLetters then some p.item else none
  | .textEdge => some p.item
  | .wordEdge => some { p.item with asksWordEdges := p.asksWordEdges || p.mode.unicode }
  | .set others => if p.mode.unicode ∨ others then none else some p.item

/-- The progress after a pattern, if it is one. The first argument bounds the number of steps. -/
def read? : Nat → Progress → List Char → Option Progress
  | 0, _, _ => none
  | _, p, [] => if p.outer.isEmpty then some p else none
  | n + 1, p, c :: s =>
    match c with
    | '(' =>
      match openGroup? s p with
      | some (p, s) => read? n p s
      | none => none
    | ')' =>
      match p.outer with
      | [] => none
      | mode :: outer => read? n { p with mode, outer, repeatable := true } s
    | '|' => read? n { p with repeatable := false } s
    | '*' | '+' | '?' =>
      if p.repeatable then
        match s with
        | '?' :: s => read? n p s
        | s => read? n p s
      else none
    | '\x7b' => none
    | '[' =>
      if ! p.mode.allowsLetters ∨ (! p.mode.unicode ∧ s.head? = some '^') then none
      else
        match closeSet? p.mode.unicode (s.length + 1) 0 (openSet s) with
        | some s => read? n p.item s
        | none => none
    | '\\' =>
      match escape? s with
      | some (e, s) =>
        match p.escape? e with
        | some p => read? n p s
        | none => none
      | none => none
    | '.' => if p.mode.unicode then read? n p.item s else none
    | '^' | '$' => read? n p.item s
    | _ => if p.mode.allowsLetters then read? n p.item s else none

/-- What is wrong with a pattern, if anything is. -/
def fault? (s : List Char) : Option PatternFault :=
  match read? (s.length + 1) {} s with
  | none => some .malformed
  | some p => if p.asksWordEdges then some .wordEdges else none

end Pattern

end Outbox.Logging
