import Outbox.Collector.Settings
import Outbox.Config.Section
import Outbox.Error
import Outbox.Files.Basic
import Outbox.Toml.Document
import Outbox.Upload.Anonymizer

/-!
# The configuration

What can be set: how much is logged, where the store is, how the collector is used, and the salt of
the digests. Everything has a default.
-/

namespace Outbox

/-- How much is logged. -/
structure LoggingSettings where
  level : String := "info"
  /-- How many log files are kept. -/
  maxFiles : Nat := 5
  deriving DecidableEq, Repr, Inhabited

/-- The configuration. -/
structure Config where
  logging : LoggingSettings := {}
  /-- Where the store is, if not in its usual place. -/
  storePath : Option String := none
  collector : CollectorSettings := {}
  salt : Option String := none
  deriving DecidableEq, Repr, Inhabited

/-- The settings of the logging. -/
def LoggingSettings.settings : List (Setting LoggingSettings) := [
  .defaulted "level" Toml.Value.text? fun x s => { s with level := x },
  .defaulted "max_files" Toml.Value.natural? fun x s => { s with maxFiles := x }]

/-- The settings of the collector. -/
def CollectorSettings.settings : List (Setting CollectorSettings) := [
  .defaulted "enabled" Toml.Value.boolean? fun x s => { s with enabled := x },
  .optional "server_url" Toml.Value.text? fun x s => { s with serverUrl := some x },
  .defaulted "batch_size" Toml.Value.natural? fun x s => { s with batchSize := x },
  .defaulted "timeout_secs" Toml.Value.natural? fun x s => { s with timeout := x },
  .defaulted "auto_sync" Toml.Value.boolean? fun x s => { s with autoSync := x }]

namespace Config

/-- A section with one text. -/
def textSetting (name : String) : List (Setting (Option String)) :=
  [.optional name Toml.Value.text? fun x _ => some x]

/-- The sections of a configuration. -/
def sections : List (Setting Config) := [
  .defaulted "logging" (Section.ofValue LoggingSettings.settings {})
    fun x c => { c with logging := x },
  .defaulted "store" (Section.ofValue (textSetting "path") none)
    fun x c => { c with storePath := x },
  .defaulted "collector" (Section.ofValue CollectorSettings.settings {})
    fun x c => { c with collector := x },
  .defaulted "privacy" (Section.ofValue (textSetting "salt") none)
    fun x c => { c with salt := x }]

/-- The configuration that a text spells. -/
def ofText? (text : String) : Option Config :=
  (Toml.parse? text).bind fun entries => Section.ofTable entries sections {}

/-- The configuration that a text spells, if it can be used. -/
def ofText (text : String) : Except ConfigFault Config :=
  match ofText? text with
  | none => .error .malformed
  | some config =>
    match config.collector.validate with
    | .error e => .error e
    | .ok () => .ok config

/-- The configuration in a file. -/
def loadFrom (files : Files) (path : Path) : Except ConfigFault Config :=
  match files.readText path with
  | .error e => .error (.unreadable path.text e)
  | .ok text => ofText text

/-- The configuration in a file, or the default if there is none. -/
def load (files : Files) (path : Path) : Except ConfigFault Config :=
  if files.exists? path then loadFrom files path else .ok {}

/-- The anonymizer with the configured salt. -/
def anonymizer (c : Config) : Anonymizer := .ofSetting c.salt

end Config

end Outbox
