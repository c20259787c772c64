import Outbox.Text.Hex

/-!
# Names of installations

An installation gets a name of sixteen random bytes, of which six bits are not random: they say
that the name is of this kind.
-/

namespace Outbox

/-- A byte of a name, at its place: the seventh and the ninth byte say of which kind the name is. -/
def markedByte (i : Nat) (b : UInt8) : UInt8 :=
  if i = 6 then 0x40 + b % 16 else if i = 8 then 0x80 + b % 64 else b

/-- The name that random bytes give: digits in five groups. -/
def installationName (bytes : List UInt8) : String :=
  let digits := (Text.hexOfBytes (bytes.zipIdx.map fun (b, i) => markedByte i b)).toList
  let group (start size : Nat) : String := String.ofList ((digits.drop start).take size)
  "-".intercalate [group 0 8, group 8 4, group 12 4, group 16 4, group 20 12]

end Outbox
