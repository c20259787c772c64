import Outbox.Files.Basic

/-!
# Where things are

The usual places of the configuration, the data and the state of the program. They lie in the home
directory unless the environment names other directories.
-/

namespace Outbox

/-- The directories that the environment names. -/
structure Environment where
  home : String
  configHome : Option String := none
  dataHome : Option String := none
  stateHome : Option String := none
  deriving DecidableEq, Repr, Inhabited

namespace Environment

/-- The name of the program's directories. -/
def directoryName : String := "netcache"

/-- The directory of the configuration. -/
def configDirectory (e : Environment) : String :=
  joinPath (e.configHome.getD (joinPath e.home ".config")) directoryName

/-- The directory of the data. -/
def dataDirectory (e : Environment) : String :=
  joinPath (e.dataHome.getD (joinPath e.home ".local/share")) directoryName

/-- The directory of the state. -/
def stateDirectory (e : Environment) : String :=
  joinPath (e.stateHome.getD (joinPath e.home ".local/state")) directoryName

/-- The file of the configuration. -/
def configPath (e : Environment) : String := joinPath e.configDirectory "config.toml"

/-- The usual file of the store. -/
def databasePath (e : Environment) : String := joinPath e.dataDirectory "events.db"

/-- The file of the token. -/
def tokenPath (e : Environment) : String := joinPath e.stateDirectory "session.token"

end Environment

end Outbox
