/-!
# Arguments

The command line: commands with their options and operands. An option has a long name, and perhaps
a letter; options of letters may stand together, and a value may follow its option at once or as the
next argument. After two dashes only operands follow.
-/

namespace Outbox

-- Powers are those of numbers, also where a monoid brings its own.
attribute [local instance (high)] instPowNat

/-- What can be done with the token. -/
inductive TokenCommand where
  | set (token : String)
  | clear
  | status
  deriving DecidableEq, Repr

/-- A command of the program. -/
inductive Command where
  | status
  | ingest (file : Option String) (noAutoSync : Bool)
  | sync (all watch : Bool) (interval : Nat)
  | recent (limit : Nat)
  | exportData (output : String)
  | erase (confirmed : Bool)
  | token (command : TokenCommand)
  deriving DecidableEq, Repr

namespace Command

/-- A command that is asked about. -/
inductive Topic where
  | program
  /-- The command that explains others, of the program or of the commands on the token. -/
  | explanation (ofToken : Bool)
  | status
  | ingest
  | sync
  | recent
  | exportData
  | erase
  | token
  | tokenSet
  | tokenClear
  | tokenStatus
  deriving DecidableEq, Repr

/-- Why the arguments are no command: they are wrong, or ask for an explanation. -/
inductive Stop where
  | usage
  | help (topic : Topic)
  | version
  deriving DecidableEq, Repr

/-- An option. -/
structure Opt where
  long : String
  letter : Option Char := none
  /-- Which values it takes, if it takes any. -/
  accepts : Option (String → Bool) := none

/-- What the arguments after a command may be. -/
structure Grammar where
  topic : Topic
  options : List Opt := []
  /-- Which operands there may be. -/
  operands : List (String → Bool) := []

/-- What has been found: options with their values, and operands. -/
structure Found where
  options : List (String × String) := []
  operands : List String := []
  deriving Repr

namespace Found

/-- Whether an option is there. -/
def has (f : Found) (long : String) : Bool := f.options.any fun o => o.1 == long

/-- The value of an option. -/
def value? (f : Found) (long : String) : Option String :=
  (f.options.find? fun o => o.1 == long).map (·.2)

end Found

/-- The number that a text spells, if it is below `2 ^ 64`. -/
def number? (s : String) : Option Nat :=
  let digits := match s.toList with
    | '+' :: ds => ds
    | ds => ds
  if digits.isEmpty ∨ ! digits.all Char.isDigit then none
  else
    let n := Nat.ofDigitChars 10 digits 0
    if n < 2 ^ (64 : Nat) then some n else none

/-- A text that is a number. -/
def isNumber (s : String) : Bool := (number? s).isSome

/-- A text that is a path. -/
def isPath (s : String) : Bool := ! s.isEmpty

/-- An argument that begins like an option. -/
def isDashed (s : String) : Bool := s.startsWith "-" && s ≠ "-"

namespace Grammar

/-- What has been found with one more option, which may come only once. -/
def add (f : Found) (o : Opt) (value : String) : Except Stop Found :=
  let accepted := match o.accepts with
    | none => true
    | some accepts => accepts value
  if f.has o.long ∨ ! accepted then .error .usage
  else .ok { f with options := f.options ++ [(o.long, value)] }

/-- What has been found with one more operand. -/
def addOperand (g : Grammar) (f : Found) (value : String) : Except Stop Found :=
  match g.operands[f.operands.length]? with
  | some accepts =>
    if accepts value then .ok { f with operands := f.operands ++ [value] } else .error .usage
  | none => .error .usage

/-- What options of letters give, and the option that still needs a value. -/
def letters (g : Grammar) (f : Found) : List Char → Except Stop (Found × Option Opt)
  | [] => .ok (f, none)
  | c :: cs =>
    if c = 'h' then .error (.help g.topic)
    else
      match g.options.find? fun o => o.letter == some c with
      | none => .error .usage
      | some o =>
        if o.accepts.isNone then do
          let f ← add f o ""
          letters g f cs
        else
          match cs with
          | [] => .ok (f, some o)
          | '=' :: cs => (add f o (String.ofList cs)).map (·, none)
          | cs => (add f o (String.ofList cs)).map (·, none)

/-- What one option with a long name gives, and the option that still needs a value. -/
def longOption (g : Grammar) (f : Found) (s : List Char) : Except Stop (Found × Option Opt) :=
  let name := String.ofList (s.takeWhile (· != '='))
  let value := s.dropWhile (· != '=')
  if name = "help" ∧ value = [] then .error (.help g.topic)
  else
    match g.options.find? fun o => o.long == name with
    | none => .error .usage
    | some o =>
      match o.accepts.isSome, value with
      | false, [] => (add f o "").map (·, none)
      | false, _ :: _ => .error .usage
      | true, [] => .ok (f, some o)
      | true, _ :: value => (add f o (String.ofList value)).map (·, none)

/-- What arguments give. `waiting` is the option before them that needs a value. -/
def scan (g : Grammar) : Found → Option Opt → List String → Except Stop Found
  | f, none, [] => .ok f
  | _, some _, [] => .error .usage
  | f, some o, arg :: args =>
    if isDashed arg then .error .usage
    else do
      let f ← add f o arg
      scan g f none args
  | f, none, arg :: args =>
    if arg = "--" then args.foldlM (addOperand g) f
    else if isDashed arg then do
      let (f, waiting) ← match arg.toList with
        | '-' :: '-' :: s => longOption g f s
        | s => letters g f (s.drop 1)
      scan g f waiting args
    else do
      let f ← addOperand g f arg
      scan g f none args

/-- What arguments give. -/
def find (g : Grammar) (args : List String) : Except Stop Found := g.scan {} none args

end Grammar

/-- The option for the file that is written. -/
def outputOption : Opt := ⟨"output", some 'o', some isPath⟩

/-- The option for the number of records. -/
def limitOption : Opt := ⟨"limit", some 'n', some isNumber⟩

/-- The option for the seconds between attempts. -/
def intervalOption : Opt := ⟨"interval", none, some isNumber⟩

/-- An explanation of the command at the end of a list of names. -/
def explain : List String → Except Stop Command
  | [] => .error (.help .program)
  | ["status"] => .error (.help .status)
  | ["ingest"] => .error (.help .ingest)
  | ["sync"] => .error (.help .sync)
  | ["recent"] => .error (.help .recent)
  | ["export"] => .error (.help .exportData)
  | ["erase"] => .error (.help .erase)
  | ["help"] => .error (.help (.explanation false))
  | ["auth"] => .error (.help .token)
  | ["auth", "help"] => .error (.help (.explanation true))
  | ["auth", "set-token"] => .error (.help .tokenSet)
  | ["auth", "clear"] => .error (.help .tokenClear)
  | ["auth", "status"] => .error (.help .tokenStatus)
  | _ => .error .usage

/-- What to do about arguments in the place of a command. -/
def withoutCommand (topic : Topic) (versioned : Bool) (arg : String) : Stop :=
  if arg = "--help" then .help topic
  else if arg = "--version" then if versioned then .version else .usage
  else
    match arg.toList with
    | '-' :: 'h' :: _ => .help topic
    | '-' :: 'V' :: _ => if versioned then .version else .usage
    | _ => .usage

/-- The command on the token that arguments spell. -/
def parseToken : List String → Except Stop Command
  | [] => .error .usage
  | "set-token" :: args => do
    let f ← Grammar.find { topic := .tokenSet, operands := [fun _ => true] } args
    match f.operands with
    | text :: _ => return .token (.set text)
    | [] => throw .usage
  | "clear" :: args => do
    let _ ← Grammar.find { topic := .tokenClear } args
    return .token .clear
  | "status" :: args => do
    let _ ← Grammar.find { topic := .tokenStatus } args
    return .token .status
  | "help" :: args => explain ("auth" :: args)
  | arg :: _ => .error (withoutCommand .token false arg)

/-- The command that arguments spell. -/
def parse : List String → Except Stop Command
  | [] => .error .usage
  | "status" :: args => do
    let _ ← Grammar.find { topic := .status } args
    return .status
  | "ingest" :: args => do
    let f ← Grammar.find
      { topic := .ingest, options := [{ long := "no-auto-sync" }], operands := [isPath] } args
    return .ingest f.operands.head? (f.has "no-auto-sync")
  | "sync" :: args => do
    let f ← Grammar.find {
      topic := .sync
      options := [{ long := "all" }, { long := "watch", letter := some 'w' }, intervalOption] } args
    return .sync (f.has "all") (f.has "watch")
      (((f.value? intervalOption.long).bind number?).getD 60)
  | "recent" :: args => do
    let f ← Grammar.find { topic := .recent, options := [limitOption] } args
    return .recent (((f.value? limitOption.long).bind number?).getD 20)
  | "export" :: args => do
    let f ← Grammar.find { topic := .exportData, options := [outputOption] } args
    match f.value? outputOption.long with
    | some output => return .exportData output
    | none => throw .usage
  | "erase" :: args => do
    let f ← Grammar.find { topic := .erase, options := [{ long := "yes" }] } args
    return .erase (f.has "yes")
  | "auth" :: args => parseToken args
  | "help" :: args => explain args
  | arg :: _ => .error (withoutCommand .program true arg)

end Command

end Outbox
