import Outbox.Json.Number

/-!
# Values that are passed over

A value nobody asked for is only checked for its syntax. It may be nested to any depth, since the
lists and objects that are still open are kept on a stack.
-/

namespace Outbox.Json

/-- What a reader that passes over values is inside of. -/
inductive Frame where
  | list
  | object
  deriving DecidableEq, Repr

/-- The fault of a text that ends inside a frame. -/
def Frame.ended : Frame → Fault
  | .list => .endInList
  | .object => .endInObject

/-- The fault of a frame that does not go on as it should. -/
def Frame.noSeparator : Frame → Fault
  | .list => .noListSeparator
  | .object => .noObjectSeparator

/-- The character that closes a frame. -/
def Frame.closing : Frame → Char
  | .list => ']'
  | .object => '}'

/-- The text after a key and its colon. -/
def skipKey (s : Input) : Except Fault Input :=
  match skipSpace s with
  | [] => .error .endInObject
  | '"' :: s =>
    match skipText s with
    | .error e => .error e
    | .ok s =>
      match skipSpace s with
      | [] => .error .endInObject
      | ':' :: s => .ok s
      | _ => .error .noColon
  | _ => .error .badKey

/-- The text after what has to come before the next value of a frame. -/
def Frame.enter : Frame → Input → Except Fault Input
  | .list, s => .ok s
  | .object, s => skipKey s

/-- The text after a value that is neither a list nor an object. -/
def skipScalar : Input → Except Fault Input
  | [] => .error .endInValue
  | 'n' :: s => skipWord nullRest s
  | 't' :: s => skipWord trueRest s
  | 'f' :: s => skipWord falseRest s
  | '"' :: s => skipText s
  | c :: s => if c = '-' ∨ c.isDigit then skipNumber (c :: s) else .error .noValue

/-- The frame that a character opens. -/
def Frame.opened : Char → Option Frame
  | '[' => some .list
  | '{' => some .object
  | _ => none

/-- Whether a value comes next or one has just ended. -/
inductive Place where
  | before
  | after
  deriving DecidableEq, Repr

/-- The text after everything that is open. The first argument bounds the number of steps. -/
def skipLoop : Nat → Place → List Frame → Input → Except Fault Input
  | 0, _, _, _ => .error .noValue
  | n + 1, .before, stack, s =>
    match skipSpace s with
    | [] => .error .endInValue
    | c :: s =>
      match Frame.opened c with
      | none =>
        match skipScalar (c :: s) with
        | .error e => .error e
        | .ok s => skipLoop n .after stack s
      | some frame =>
        match skipSpace s with
        | [] => .error frame.ended
        | d :: s =>
          if d = frame.closing then skipLoop n .after stack s
          else
            match frame.enter (d :: s) with
            | .error e => .error e
            | .ok s => skipLoop n .before (frame :: stack) s
  | _ + 1, .after, [], s => .ok s
  | n + 1, .after, frame :: stack, s =>
    match skipSpace s with
    | [] => .error frame.ended
    | ',' :: s =>
      match frame.enter s with
      | .error e => .error e
      | .ok s => skipLoop n .before (frame :: stack) s
    | c :: s =>
      if c = frame.closing then skipLoop n .after stack s else .error frame.noSeparator

/-- The text after a value. Every step but the last takes at least one character. -/
def skipValue (s : Input) : Except Fault Input := skipLoop (s.length + 1) .before [] s

end Outbox.Json
