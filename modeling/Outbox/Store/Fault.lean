import Outbox.Text.Quoted

/-!
# What can go wrong in a store

The faults of the database behind a store and of the store itself, with their messages.
-/

namespace Outbox

/-- The kinds of cells, as a message names them. -/
inductive CellKind where
  | null
  | integer
  | real
  | text
  deriving DecidableEq, Repr

/-- The name of a kind. -/
def CellKind.name : CellKind → String
  | .null => "Null"
  | .integer => "Integer"
  | .real => "Real"
  | .text => "Text"

/-- The reason why the database refuses a statement or a row cannot be read. -/
inductive DatabaseFault where
  | noTable (table : String)
  | noColumn (column : String)
  | noColumnIn (table column : String)
  /-- All numbers for records are used up. -/
  | full
  | nestedTransaction
  | nothingToCommit
  | nothingToRollBack
  | viewNotWritable (view : String)
  | viewNotDroppable (view : String)
  | guardExists (name : String)
  | guardOnView (view : String)
  /-- A guard has refused the change, with its own message. -/
  | refused (message : String)
  | nullRefused (table column : String)
  /-- A row cannot get the number of another one. -/
  | taken (table column : String)
  /-- What is no integer cannot be the number of a row. -/
  | noInteger
  /-- A text in a statement that has no end. -/
  | endless (text : String)
  | wrongKind (kind : CellKind) (index : Nat) (column : String)
  | outOfRange (value : Int) (index : Nat)
  | unknownState (word : String) (index : Nat)
  | notADatabase
  | cannotOpen (path : String)
  /-- There is no room for the name of the journal beside the file. -/
  | noJournal
  | unreadable
  /-- The medium can only be read. -/
  | readOnly
  /-- An address names a machine. -/
  | badAuthority (authority : String)
  /-- An option of an address has a value that it cannot have. -/
  | unknownMode (option value : String)
  /-- An option of an address asks for more than an earlier one has allowed. -/
  | modeRefused (option value : String)
  | unknownSystem (name : String)
  /-- A path holds a NUL, after the given number of bytes. -/
  | nulInPath (position : Nat)
  | badParameterName (name : String)
  deriving DecidableEq, Repr

/-- The message of a fault. -/
def DatabaseFault.message : DatabaseFault → String
  | .noTable table => "no such table: " ++ table
  | .noColumn column => "no such column: " ++ column
  | .noColumnIn table column => "table " ++ table ++ " has no column named " ++ column
  | .full => "database or disk is full"
  | .nestedTransaction => "cannot start a transaction within a transaction"
  | .nothingToCommit => "cannot commit - no transaction is active"
  | .nothingToRollBack => "cannot rollback - no transaction is active"
  | .viewNotWritable view => "cannot modify " ++ view ++ " because it is a view"
  | .viewNotDroppable view => "use DROP VIEW to delete view " ++ view
  | .guardOnView view => "cannot create BEFORE trigger on view: " ++ view
  | .guardExists name => "trigger " ++ name ++ " already exists"
  | .refused message => message
  | .nullRefused table column => "NOT NULL constraint failed: " ++ table ++ "." ++ column
  | .taken table column => "UNIQUE constraint failed: " ++ table ++ "." ++ column
  | .noInteger => "datatype mismatch"
  | .endless text => "unrecognized token: \"'" ++ Text.doubled text ++ "\""
  | .wrongKind kind index column =>
    "Invalid column type " ++ kind.name ++ " at index: " ++ toString index ++ ", name: " ++ column
  | .outOfRange value index =>
    "Integer " ++ toString value ++ " out of range at index " ++ toString index
  | .unknownState word index =>
    "Conversion error from type Text at index: " ++ toString index ++
      ", unknown delivery state " ++ Text.quoted word
  | .notADatabase => "file is not a database"
  | .cannotOpen path => "unable to open database file: " ++ path
  | .noJournal => "unable to open database file"
  | .unreadable => "disk I/O error"
  | .readOnly => "attempt to write a readonly database"
  | .badAuthority authority => "invalid uri authority: " ++ authority
  | .unknownMode option value => "no such " ++ option ++ " mode: " ++ value
  | .modeRefused option value => option ++ " mode not allowed: " ++ value
  | .unknownSystem name => "no such vfs: " ++ name
  | .nulInPath position =>
    "nul byte found in provided data at position: " ++ toString position
  | .badParameterName name => "Invalid parameter name: " ++ name

/-- The fault in the words of the database library, where it has a number of its own. -/
def DatabaseFault.detail? : DatabaseFault → Option String
  | .notADatabase => some "Error code 26: File opened that is not a database file"
  | .unreadable => some "Error code 10: Some kind of disk I/O error occurred"
  | .cannotOpen _ | .noJournal => some "Error code 14: Unable to open the database file"
  | .readOnly => some "Error code 8: Attempt to write a readonly database"
  | .badAuthority _ | .unknownMode .. | .unknownSystem _ =>
    some "Error code 1: SQL error or missing database"
  | .modeRefused .. => some "Error code 3: Access permission denied"
  | .nulInPath position => some (DatabaseFault.nulInPath position).message
  | _ => none

/-- The reason why a store cannot be used at all. -/
inductive Unavailability where
  /-- An earlier user of the store failed while holding it. -/
  | poisoned
  /-- The database was made by a newer program. -/
  | newerSchema (version supported : Int)
  | other (reason : String)
  deriving DecidableEq, Repr

/-- The reason in words. -/
def Unavailability.message : Unavailability → String
  | .poisoned => "store lock poisoned"
  | .newerSchema version supported =>
    "database schema version " ++ toString version ++ " is newer than supported version " ++
      toString supported
  | .other reason => reason

/-- The failure of an operation on a store. -/
inductive StoreFault where
  | database (fault : DatabaseFault)
  | unavailable (reason : Unavailability)
  deriving DecidableEq, Repr

/-- The message of a failure. -/
def StoreFault.message : StoreFault → String
  | .database fault => "database error: " ++ fault.message
  | .unavailable reason => "storage unavailable: " ++ reason.message

end Outbox
