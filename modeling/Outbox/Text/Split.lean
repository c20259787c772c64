/-!
# Splitting a text

The parts of a text between the places where one character stands.
-/

namespace Outbox.Text

/-- The parts between separators; there is one part more than there are separators. -/
def splitOn (separator : Char) : List Char → List (List Char)
  | [] => [[]]
  | c :: s =>
    if c = separator then [] :: splitOn separator s
    else
      match splitOn separator s with
      | [] => [[c]]
      | part :: parts => (c :: part) :: parts

end Outbox.Text
