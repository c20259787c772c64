import Outbox.Credential.Basic
import Outbox.Files.Basic
import Outbox.Text.Blank

/-!
# The token file

A gate that keeps its credential in a file of one line. The file is read anew every time, so it
may be changed by others.
-/

namespace Outbox

/-- A gate on a file among others. -/
structure FileGate where
  path : Path
  files : Files

namespace FileGate

/-- The credential in a text: what is left without the blanks at its ends. -/
def credentialOf? (content : String) : Option Credential :=
  let token := Text.trim content
  if token.isEmpty then none else some ⟨token⟩

/-- The credential in the file, if there is a file with one. -/
def current? (g : FileGate) : Option Credential :=
  match g.files.readText g.path with
  | .ok content => credentialOf? content
  | .error _ => none

/-- Writes a token into the file. The directories on the way to it are made. -/
def store (g : FileGate) (token : String) : Except FileFault Unit × FileGate :=
  match g.files.makeParents g.path with
  | (.error e, files) => (.error e, { g with files })
  | (.ok (), files) =>
    let (r, files) := files.writeFile g.path (Text.encode (Text.trim token ++ "\n"))
    (r, { g with files })

/-- Removes the file, if there is one. -/
def clear (g : FileGate) : Except FileFault Unit × FileGate :=
  match g.files.removeFile g.path with
  | (.error .notFound, files) => (.ok (), { g with files })
  | (r, files) => (r, { g with files })

instance : CredentialGate FileGate where
  current := current?
  invalidate g := g.clear.2

end FileGate

end Outbox
