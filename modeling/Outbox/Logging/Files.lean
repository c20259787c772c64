import Outbox.Files.Basic

/-!
# Log files

Each day has a log file of its own. Before today's file is opened, so many of the oldest ones are
removed that no more than a given number of them are left together with it.
-/

namespace Outbox.Logging

/-- The name of the log file of a date. -/
def fileName (date : String) : String := "netcache." ++ date ++ ".log"

/-- Whether a file of this name counts as a log file. -/
def isFileName (name : String) : Bool := name.startsWith "netcache" && name.endsWith "log"

/-- The names of the log files among entries, the oldest first. -/
def fileNames (entries : List (String × Node)) : List String :=
  entries.filterMap fun (name, node) =>
    match node with
    | .directory _ => none
    | _ => if isFileName name then some name else none

/-- The files that are removed to make room for one more, of which there is always at least one. -/
def surplus (limit : Nat) (names : List String) : List String :=
  names.take (names.length - (max limit 1 - 1))

/-- The files after the log file of a date was opened in a directory. -/
def openFile (fs : Files) (directory : Place) (limit : Nat) (date : String) : Files :=
  match fs.get directory with
  | .ok (.directory entries) =>
    let fs := (surplus limit (fileNames entries)).foldl
      (fun fs name => (fs.removeAt (directory ++ [name])).2) fs
    let place := directory ++ [fileName date]
    if (fs.get place).isOk then fs else (fs.writeAt place []).2
  | _ => fs

end Outbox.Logging
