import Outbox.Domain.Joining
import Outbox.Domain.Punycode
import Outbox.Text.Composed

/-!
# Domain names

The name of a host in the form in which it is asked for: without capital letters, and with labels of
plain characters only. A label with other characters is written with `xn--` before its Punycode.
-/

namespace Outbox.Domain

/-- What stands before the Punycode of a label. -/
def mark : List Char := "xn--".toList

/-- The largest number of characters that are written in Punycode. -/
def longestText : Nat := 1000

/-- The largest number of characters that are read as Punycode. -/
def longestCode : Nat := 2000

/-- Whether a text has plain characters only. -/
def isPlain (s : List Char) : Bool := s.all fun c => decide (c.toNat < 0x80)

/-- A label as it is read and as it is written. -/
structure Label where
  text : List Char
  written : List Char
  deriving DecidableEq, Repr

namespace Label

/-- Whether a text with characters other than the plain ones can be a label, its direction apart. -/
def isText (s : List Char) : Bool :=
  ! ((s.head?.map Text.isMark).getD false) && joinersFit [] s

/-- The label that is written as Punycode. -/
def ofCode? (code : List Char) : Option Label :=
  if code.isEmpty ∨ code.getLast? = some '-' ∨ longestCode < code.length ∨ ! isPlain code then none
  else do
    let text ← Punycode.decode? code
    if text.all isFolded ∧ Text.composedForm text = text ∧ isText text then
      return ⟨text, mark ++ code⟩
    else none

/-- The label of a folded and composed text. -/
def ofText? (s : List Char) : Option Label :=
  if mark.isPrefixOf s then ofCode? (s.drop mark.length)
  else if isPlain s then some ⟨s, s⟩
  else if isText s ∧ s.length ≤ longestText then some ⟨s, mark ++ Punycode.encode s⟩
  else none

end Label

/-- A folded and composed name, or `none` if some character can be in no name. -/
def folded? (s : List Char) : Option (List Char) := do
  return Text.composedForm (← s.mapM fold?).flatten

/-- A name as it is asked for. A name with characters that are written from right to left has
labels of one direction only. -/
def written? (s : List Char) : Option (List Char) := do
  let labels ← (Text.splitOn '.' (← folded? s)).mapM Label.ofText?
  if labels.any (fun l => hasLeftward l.text) ∧ ! labels.all (fun l => hasOneDirection l.text) then
    none
  else return ['.'].intercalate (labels.map (·.written))

end Outbox.Domain
