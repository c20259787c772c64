import Outbox.Proofs.Credential.Gates
import Outbox.Proofs.Files.Ancestry
import Outbox.Proofs.Text.Trimming

/-!
# The token file as a cell

A gate on a file reads its credential anew every time, and yet it is a cell for one credential: what
was stored is there without the blanks at its ends, what could not be stored changes nothing, and
what was cleared is gone, whether the file could be removed or not (`Does.current`). So the
credential after a run is told by what was done alone, whoever has done it (`current_acts`). A
credential that is held can be replaced at any time (`store_of_held`).
-/

namespace Outbox.FileGate

open CredentialGate

variable {g g' : FileGate} {content : Text.Bytes}

/-! ### Reading a token -/

/-- The credential in the bytes of a file. -/
def credentialIn? (content : Text.Bytes) : Option Credential :=
  (Text.decode? content).bind credentialOf?

theorem current?_of_ok (h : g.files.readBytes g.path = .ok content) :
    g.current? = credentialIn? content := by
  simp only [current?, credentialIn?, Files.readText, h]
  cases Text.decode? content with
  | none => rfl
  | some text => exact (Option.bind_some text credentialOf?).symm

theorem current?_of_error (h : ∃ e, g.files.readBytes g.path = .error e) : g.current? = none := by
  obtain ⟨e, he⟩ := h
  simp only [current?, Files.readText, he]

/-- The line of a token. -/
def line (token : String) : Text.Bytes := Text.encode (Text.trim token ++ "\n")

/-- The line of a token is read as the token. -/
theorem credentialIn?_line (token : String) : credentialIn? (line token) = credentialOf? token := by
  have blank : ∀ c ∈ "\n".toList, Text.isBlank c = true := by
    intro c hc
    obtain rfl : c = '\n' := by simpa using hc
    rfl
  have trimmed : Text.trim (Text.trim token ++ "\n") = Text.trim token := by
    unfold Text.trim
    rw [String.toList_append, String.toList_ofList, Text.trimChars_append blank]
  have decoded : Text.decode? (line token) = some (Text.trim token ++ "\n") :=
    Text.decode?_eq_some_iff.mpr rfl
  rw [credentialIn?, decoded, Option.bind_some, credentialOf?, trimmed]
  rfl

/-! ### What is done to the file -/

/-- What is done to a token file, through its gate or by others, and how it went. -/
inductive Act where
  | store (token : String) (result : Except FileFault Unit)
  | clear (result : Except FileFault Unit)
  | invalidate
  /-- Others write to the file. -/
  | write (content : Text.Bytes) (result : Except FileFault Unit)
  /-- Others have made a directory in its place. -/
  | makeDirectory

/-- The credential after something was done. -/
def Act.credential (before : Option Credential) : Act → Option Credential
  | .store token (.ok ()) => credentialOf? token
  | .write content (.ok ()) => credentialIn? content
  | .store _ (.error _) | .write _ (.error _) => before
  | .clear _ | .invalidate | .makeDirectory => none

/-- One thing is done to the file of a gate. Others may make the directories on the way to it or may
expect them. -/
inductive Does (g : FileGate) : Act → FileGate → Prop where
  | store (token : String) : Does g (.store token (g.store token).1) (g.store token).2
  | clear : Does g (.clear g.clear.1) g.clear.2
  | invalidate : Does g .invalidate (CredentialGate.invalidate g)
  | write (content : Text.Bytes) : Does g (.write content (g.files.writeFile g.path content).1)
      { g with files := (g.files.writeFile g.path content).2 }
  | writeWithParents (content : Text.Bytes) :
      Does g (.write content (g.files.writeWithParents g.path content).1)
        { g with files := (g.files.writeWithParents g.path content).2 }
  | makeDirectory {files : Files} (made : g.files.makeDirectory g.path = (.ok (), files)) :
      Does g .makeDirectory { g with files }
  | makeDirectories {files : Files} (made : g.files.makeDirectories g.path = (.ok (), files)) :
      Does g .makeDirectory { g with files }

/-- One thing after another is done to the file of a gate. -/
inductive Acts : FileGate → List Act → FileGate → Prop where
  | nil (g : FileGate) : Acts g [] g
  | cons {g g' g'' : FileGate} {act : Act} {acts : List Act} (first : Does g act g')
      (rest : Acts g' acts g'') : Acts g (act :: acts) g''

/-- To store a token is to write its line. -/
theorem store_eq (g : FileGate) (token : String) : g.store token =
    ((g.files.writeWithParents g.path (line token)).1,
      { g with files := (g.files.writeWithParents g.path (line token)).2 }) := by
  simp only [store, Files.writeWithParents]
  cases g.files.makeParents g.path with
  | mk result files =>
    cases result with
    | ok done => rfl
    | error e => rfl

theorem current?_writeFile (g : FileGate) (content : Text.Bytes) :
    ({ g with files := (g.files.writeFile g.path content).2 } : FileGate).current? =
      (Act.write content (g.files.writeFile g.path content).1).credential g.current? := by
  cases h : g.files.writeFile g.path content with
  | mk result files =>
    cases result with
    | ok done => exact current?_of_ok (Files.readBytes_writeFile h)
    | error e =>
      obtain rfl := Files.writeFile_error h
      rfl

theorem current?_writeWithParents (g : FileGate) (content : Text.Bytes) :
    ({ g with files := (g.files.writeWithParents g.path content).2 } : FileGate).current? =
      (Act.write content (g.files.writeWithParents g.path content).1).credential g.current? := by
  cases h : g.files.writeWithParents g.path content with
  | mk result files =>
    cases result with
    | ok done => exact current?_of_ok (Files.readBytes_writeWithParents h)
    | error e =>
      obtain ⟨before, after⟩ := Files.writeWithParents_error h
      exact (current?_of_error after).trans (current?_of_error before).symm

theorem current?_store (g : FileGate) (token : String) :
    (g.store token).2.current? = (Act.store token (g.store token).1).credential g.current? := by
  rw [store_eq, current?_writeWithParents]
  cases (g.files.writeWithParents g.path (line token)).1 with
  | ok done => exact credentialIn?_line token
  | error e => rfl

/-- Where a credential is held another one can be stored. -/
theorem store_of_held {held : Credential} (h : g.current? = some held) (token : String) :
    (g.store token).1 = .ok () := by
  cases hc : g.files.readBytes g.path with
  | error e => cases h.symm.trans (current?_of_error ⟨e, hc⟩)
  | ok old =>
    obtain ⟨_, written⟩ := Files.writeFile_readable hc (line token)
    rw [store_eq, Files.writeWithParents, Files.makeParents_readable hc]
    exact congrArg Prod.fst written

/-- What was done tells the credential. -/
theorem Does.current {act : Act} (h : Does g act g') :
    current g' = act.credential (current g) := by
  cases h with
  | store token => exact current?_store g token
  | clear => exact LawfulGate.current_invalidate g
  | invalidate => exact LawfulGate.current_invalidate g
  | write content => exact current?_writeFile g content
  | writeWithParents content => exact current?_writeWithParents g content
  | makeDirectory made => exact current?_of_error (Files.readBytes_makeDirectory made)
  | makeDirectories made => exact current?_of_error (Files.readBytes_makeDirectories made)

/-- After any run the credential is the one that the acts have left, one after the other, and there
is a session if there is one. -/
theorem current_acts {acts : List Act} (h : Acts g acts g') :
    current g' = acts.foldl Act.credential (current g) ∧
      isAuthenticated g' = (current g').isSome := by
  refine ⟨?_, rfl⟩
  induction h with
  | nil g => rfl
  | cons first rest ih => rw [ih, first.current, List.foldl_cons]

/-- A gate on a file in a directory with the given entries. -/
def within (entries : List (String × Node)) : FileGate :=
  ⟨{ text := "token" }, ⟨.directory entries⟩⟩

theorem path_within (entries : List (String × Node)) :
    (within entries).path = { text := "token" } := rfl

theorem target_within (entries : List (String × Node)) :
    (within entries).files.target (within entries).path = .ok ([], some "token") := by
  have fault : (within entries).path.fault? = none :=
    Path.fault?_eq_none_iff.mpr (by rw [path_within]; decide)
  have names : (within entries).path.names = ["token"] := by rw [path_within]; decide +kernel
  have start : (within entries).path.start = [] := by rw [path_within]; decide +kernel
  have walked : (within entries).files.walk (within entries).path.start
      (within entries).path.names.dropLast = .ok [] := by
    rw [names, start]
    rfl
  rw [Files.target_eq fault walked rfl, names]
  rfl

theorem writeFile_within (entries : List (String × Node)) (content : Text.Bytes) :
    (within entries).files.writeFile (within entries).path content =
      (within entries).files.writeAt ["token"] content := by
  have slash : (within entries).path.endsInSlash = false := by rw [path_within]; decide +kernel
  have short : ¬ Path.longestName < "token".utf8ByteSize := by decide
  simp only [Files.writeFile, target_within, slash, short, Bool.false_eq_true, if_false,
    List.nil_append]

theorem store_within (entries : List (String × Node)) (token : String) :
    (within entries).store token =
      (((within entries).files.writeAt ["token"] (line token)).1,
        { within entries with
          files := ((within entries).files.writeAt ["token"] (line token)).2 }) := by
  have parents : (within entries).files.makeParents (within entries).path =
      (.ok (), (within entries).files) := by
    have ancestors : (within entries).path.ancestors = [{ text := "" }] := by
      rw [path_within]
      decide +kernel
    unfold Files.makeParents
    rw [ancestors]
    rfl
  rw [store_eq, Files.writeWithParents, parents]
  simp only [writeFile_within]

/-- A token is stored over what is no text. -/
theorem current_acts_stored :
    Acts (within []) [.write [0xFF] (.ok ()), .store "  token-123 \n" (.ok ())]
        (within [("token", .file (line "  token-123 \n"))]) ∧
      current (within [("token", .file (line "  token-123 \n"))]) = some ⟨"token-123"⟩ ∧
      isAuthenticated (within [("token", .file (line "  token-123 \n"))]) = true := by
  have written := Does.write (g := within []) [0xFF]
  rw [writeFile_within] at written
  have stored := Does.store (g := within [("token", .file [0xFF])]) "  token-123 \n"
  rw [store_within] at stored
  have run := Acts.cons written (Acts.cons stored (Acts.nil _))
  have token : credentialOf? "  token-123 \n" = some ⟨"token-123"⟩ :=
    credentialOf?_of_trimmed (by decide) rfl
  obtain ⟨current, session⟩ := current_acts run
  have held := current.trans token
  exact ⟨run, held, session.trans (by rw [held]; rfl)⟩

end Outbox.FileGate
