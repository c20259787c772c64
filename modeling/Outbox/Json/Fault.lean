import Outbox.Binary64.Text
import Outbox.Text.Quoted

/-!
# What can be wrong with a JSON text

The faults of the syntax and of the data, with their messages.
-/

namespace Outbox.Json

/-- A value of the wrong kind, as a message shows it. -/
inductive Found where
  | null
  | boolean (value : Bool)
  | integer (value : Int)
  | floating (value : Binary64)
  | text (value : String)
  | sequence
  | map
  deriving DecidableEq, Repr

/-- A value of the wrong kind in words. -/
def Found.describe : Found → String
  | .null => "null"
  | .boolean value => "boolean `" ++ (if value then "true" else "false") ++ "`"
  | .integer value => "integer `" ++ toString value ++ "`"
  | .floating value => "floating point `" ++ String.ofList value.text ++ "`"
  | .text value => "string " ++ Text.quoted value
  | .sequence => "sequence"
  | .map => "map"

/-- The reason why a text cannot be read. -/
inductive Fault where
  /-- The text ends where a value should stand. -/
  | endInValue
  /-- The text ends inside an object. -/
  | endInObject
  /-- The text ends inside a list. -/
  | endInList
  /-- The text ends inside a string. -/
  | endInText
  /-- No value begins here. -/
  | noValue
  /-- A misspelled `null`, `true` or `false`. -/
  | badWord
  /-- No colon after a key. -/
  | noColon
  /-- Neither a comma nor the end after a member of an object. -/
  | noObjectSeparator
  /-- Neither a comma nor the end after an element of a list. -/
  | noListSeparator
  /-- A key that is not a string. -/
  | badKey
  /-- A comma before the end. -/
  | trailingComma
  /-- Something stands after the value. -/
  | trailingCharacters
  /-- A number outside the grammar. -/
  | badNumber
  /-- A number beyond the largest double. -/
  | numberTooLarge
  /-- A backslash before the wrong character. -/
  | badEscape
  /-- No second half after the first half of a surrogate pair. -/
  | endOfPair
  /-- A surrogate without its other half. -/
  | loneSurrogate
  /-- A control character inside a string. -/
  | controlCharacter
  /-- Values inside values beyond the limit. -/
  | tooDeep
  /-- An object without a member it needs. -/
  | missing (name : String)
  /-- A member given twice. -/
  | duplicate (name : String)
  /-- A word that is none of the two allowed ones. -/
  | unknownWord (word first second : String)
  /-- A value of the wrong kind. -/
  | wrongType (found : Found) (expected : String)
  /-- An integer outside the range. -/
  | outOfRange (value : Int) (expected : String)
  /-- A list with too few elements. -/
  | wrongLength (length : Nat) (expected : String)
  deriving DecidableEq, Repr

/-- The message of a fault. -/
def Fault.message : Fault → String
  | .endInValue => "EOF while parsing a value"
  | .endInObject => "EOF while parsing an object"
  | .endInList => "EOF while parsing a list"
  | .endInText => "EOF while parsing a string"
  | .noValue => "expected value"
  | .badWord => "expected ident"
  | .noColon => "expected `:`"
  | .noObjectSeparator => "expected `,` or `\x7d`"
  | .noListSeparator => "expected `,` or `]`"
  | .badKey => "key must be a string"
  | .trailingComma => "trailing comma"
  | .trailingCharacters => "trailing characters"
  | .badNumber => "invalid number"
  | .numberTooLarge => "number out of range"
  | .badEscape => "invalid escape"
  | .endOfPair => "unexpected end of hex escape"
  | .loneSurrogate => "lone leading surrogate in hex escape"
  | .controlCharacter => "control character (\\u0000-\\u001F) found while parsing a string"
  | .tooDeep => "recursion limit exceeded"
  | .missing name => "missing field `" ++ name ++ "`"
  | .duplicate name => "duplicate field `" ++ name ++ "`"
  | .unknownWord word first second =>
    "unknown variant `" ++ word ++ "`, expected `" ++ first ++ "` or `" ++ second ++ "`"
  | .wrongType found expected =>
    "invalid type: " ++ found.describe ++ ", expected " ++ expected
  | .outOfRange value expected =>
    "invalid value: " ++ (Found.integer value).describe ++ ", expected " ++ expected
  | .wrongLength length expected =>
    "invalid length " ++ toString length ++ ", expected " ++ expected

end Outbox.Json
