import Outbox.Proofs.Command.Uploading
import Outbox.Proofs.Files.Finding

/-!
# A machine with everything in one directory

The configuration, the store, the token and the log of the day are all there. On such a machine every
configuration that can be used, every token and every database of the current schema let a command
begin (`furnished_begins`), and its beginning leaves the files as they were.
-/

namespace Outbox.Command

/-- The files of a configuration, a token and a database. -/
def furnishedFiles (text token : String) (d : Database) : Files where
  root := .directory [("netcache", .directory [
    ("config.toml", .file (Text.encode text)),
    ("events.db", .database d),
    ("session.token", .file (Text.encode token)),
    ("netcache..log", .file [])])]

namespace Furnished

/-- The environment that names one directory for everything. -/
def environment : Environment where
  home := "/"
  configHome := some "/"
  dataHome := some "/"
  stateHome := some "/"

end Furnished

/-- A machine with these files, on a day without a name. -/
def furnished (text token : String) (d : Database) : Machine where
  environment := Furnished.environment
  files := furnishedFiles text token d

namespace Furnished

theorem configPath : environment.configPath = "/netcache/config.toml" := by decide +kernel

theorem stateDirectory : environment.stateDirectory = "/netcache" := by decide +kernel

theorem databasePath : environment.databasePath = "/netcache/events.db" := by decide +kernel

theorem tokenPath : environment.tokenPath = "/netcache/session.token" := by decide +kernel

/-- The directory of all the files. -/
def home : Path := ⟨[], "/netcache"⟩

/-- The file of the configuration. -/
def settings : Path := ⟨[], "/netcache/config.toml"⟩

/-- The file of the store. -/
def database : Path := ⟨[], "/netcache/events.db"⟩

/-- The file of the token. -/
def session : Path := ⟨[], "/netcache/session.token"⟩

theorem home_plain : home.Plain := by decide

theorem settings_plain : settings.Plain := by decide

theorem session_plain : session.Plain := by decide

theorem database_plain : database.Plain := by decide

theorem home_names : home.names = ["netcache"] := by decide

theorem settings_names : settings.names = ["netcache", "config.toml"] := by decide

theorem session_names : session.names = ["netcache", "session.token"] := by decide

theorem database_names : database.names = ["netcache", "events.db"] := by decide

variable (text token : String) (d : Database)

/-! ### What is there -/

/-- The entries of the directory. -/
def entries : List (String × Node) := [
  ("config.toml", .file (Text.encode text)),
  ("events.db", .database d),
  ("session.token", .file (Text.encode token)),
  ("netcache..log", .file [])]

theorem get_home : (furnishedFiles text token d).get ["netcache"] =
    .ok (.directory (entries text token d)) := rfl

theorem get_entry {text token : String} {d : Database} {name : String} {node : Node}
    (found : Node.find? (entries text token d) name = some node) :
    (furnishedFiles text token d).get ["netcache", name] = .ok node := by
  have inside : (furnishedFiles text token d).get ["netcache", name] =
      (Node.directory (entries text token d)).get [name] := rfl
  rw [inside]
  simp only [Node.get, found]

theorem get_config : (furnishedFiles text token d).get ["netcache", "config.toml"] =
    .ok (.file (Text.encode text)) := get_entry rfl

theorem get_database : (furnishedFiles text token d).get ["netcache", "events.db"] =
    .ok (.database d) := get_entry rfl

theorem get_token : (furnishedFiles text token d).get ["netcache", "session.token"] =
    .ok (.file (Text.encode token)) := get_entry rfl

theorem get_log : ((furnishedFiles text token d).get
    (["netcache"] ++ [Logging.fileName ""])).isOk = true := by
  have name : Logging.fileName "" = "netcache..log" := by decide
  have there : (furnishedFiles text token d).get ["netcache", "netcache..log"] = .ok (.file []) :=
    get_entry rfl
  rw [name, List.singleton_append, there]
  rfl

/-! ### Where it is found -/

theorem locate_home : (furnishedFiles text token d).locate home = .ok ["netcache"] := by
  refine Files.locate_plain home_plain ?_ (get_home text token d)
  rw [home_names]
  rfl

theorem walk_entry {name : String} (found : (Node.find? (entries text token d) name).isSome)
    (other : name ≠ Path.here ∧ name ≠ Path.above) (short : name.utf8ByteSize ≤ Path.longestName) :
    (furnishedFiles text token d).walk [] ["netcache", name] = .ok ["netcache", name] := by
  have inside : (furnishedFiles text token d).step ["netcache"] name = .ok ["netcache", name] := by
    simp [Files.step, get_home, other, Nat.not_lt.mpr short, found]
  have outside : (furnishedFiles text token d).step [] "netcache" = .ok ["netcache"] := by rfl
  simp only [Files.walk, List.foldlM_cons, List.foldlM_nil, outside, inside, bind, Except.bind]
  rfl

theorem walk_settings : (furnishedFiles text token d).walk [] settings.names =
    .ok ["netcache", "config.toml"] := by
  rw [settings_names]
  exact walk_entry text token d rfl (by decide) (by decide)

theorem walk_session : (furnishedFiles text token d).walk [] session.names =
    .ok ["netcache", "session.token"] := by
  rw [session_names]
  exact walk_entry text token d rfl (by decide) (by decide)

theorem makeChain_home (parents : List Path) :
    (furnishedFiles text token d).makeChain home parents = (.ok (), furnishedFiles text token d) := by
  have target : (furnishedFiles text token d).target home = .ok ([], some "netcache") := by
    have walked : (furnishedFiles text token d).walk home.start home.names.dropLast = .ok [] := by
      rw [home_plain.start, home_names]
      rfl
    rw [Files.target_eq home_plain.fault? walked rfl, home_names]
    rfl
  refine Files.makeChain_there (e := .alreadyExists) ?_ ?_ parents
  · simp only [Files.makeDirectory, target]
    rfl
  · simp only [Files.isDirectory, locate_home, bind, Except.bind, get_home]

/-! ### What a command makes of it -/

theorem openFile_home {limit : Nat} (few : 4 < limit) :
    Logging.openFile (furnishedFiles text token d) ["netcache"] limit "" =
      furnishedFiles text token d := by
  exact Logging.openFile_there (get_home text token d) few (get_log text token d)

theorem makeParents_database : (furnishedFiles text token d).makeParents database =
    (.ok (), furnishedFiles text token d) := by
  have ancestors : database.ancestors = [home, ⟨[], "/"⟩] := by
    unfold Path.ancestors
    simp only [database_plain.isAbsolute, database_names]
    decide
  unfold Files.makeParents
  rw [ancestors]
  exact makeChain_home text token d _

theorem placeOf?_database : Store.placeOf? (furnishedFiles text token d) database =
    some ["netcache", "events.db"] := by
  have short : "netcache".utf8ByteSize = 8 := by decide
  have brief : "events.db".utf8ByteSize = 9 := by decide
  unfold Store.placeOf?
  rw [database_names, database_plain.start]
  simp [Path.follow, Path.isEntryName, Path.here, Path.above, Path.longestName, Store.longestPath,
    get_home, get_database, short, brief]

theorem withoutLeftovers_database :
    Store.withoutLeftovers (furnishedFiles text token d) ["netcache", "events.db"] false =
      furnishedFiles text token d := by
  simp [Store.withoutLeftovers, Store.beside, Store.journalEnding, Files.removeAt, Files.readAt,
    Files.change, Files.get, furnishedFiles, Node.remove, Node.get, Node.find?, Except.map]

theorem openAt_database : Store.openAt (furnishedFiles text token d) database =
    (.ok { store := .ofDatabase d, place := some ["netcache", "events.db"] },
      furnishedFiles text token d) := by
  have address : Store.Address.ofPath database = .ok { path := database } := by
    have begins : database.text.toList = '/' :: "netcache/events.db".toList := by decide
    unfold Store.Address.ofPath
    rw [begins]
    rfl
  have kept : ({ path := database } : Store.Address).isPassing = false := by decide
  have written : ({ path := database } : Store.Address).isReadOnly = false := by decide
  unfold Store.openAt Store.openIn
  rw [makeParents_database, String.contains_char_eq, address]
  simp only [database_plain.clean, decide_false, Bool.false_eq_true, if_false, kept, written,
    placeOf?_database, Store.openPlace, get_database, withoutLeftovers_database]
  rfl

theorem close_database :
    ({ store := .ofDatabase d, place := some ["netcache", "events.db"] } : Store.Opened).close
      (furnishedFiles text token d) = furnishedFiles text token d := by
  simp [Store.Opened.close, Store.ofDatabase, Store.close, Files.writeDatabase, Files.change,
    furnishedFiles, Node.write, Node.find?, Node.put, Except.map]

/-- The configuration is found. -/
theorem load_config {config : Config} (spelled : Config.ofText text = .ok config) :
    Config.load (furnished text token d).files
      ⟨(furnished text token d).workingDirectory, environment.configPath⟩ = .ok config := by
  rw [configPath]
  have there : (furnishedFiles text token d).exists? settings = true := by
    rw [Files.exists?, Files.locate_plain settings_plain (walk_settings ..) (get_config ..)]
    rfl
  have read : (furnishedFiles text token d).readText settings = .ok text :=
    Files.readText_plain settings_plain (walk_settings ..) (get_config ..)
  show Config.load (furnishedFiles text token d) settings = _
  simp only [Config.load, there, if_true, Config.loadFrom, read, spelled]

end Furnished

open Furnished

variable {text token : String} {d : Database} {config : Config} {client : Client}

/-- The store of a machine with this database. -/
def furnishedStore (d : Database) : OpenStore where
  opened := { store := .ofDatabase d, place := some ["netcache", "events.db"] }

/-- A command begins with whatever the files hold, and leaves them alone. -/
theorem furnished_begins (spelled : Config.ofText text = .ok config)
    (usual : config.storePath = none) (few : 4 < config.logging.maxFiles)
    (current : d.version = Database.currentVersion)
    (ready : config.collector.isReady = true)
    (made : Client.ofSettings config.collector = .ok client) :
    Begins (furnished text token d) config (furnishedStore d) client
      { furnished text token d with complaints := Logging.complaints config.logging.level } := by
  have state : (furnished text token d).files.makeDirectories
      ⟨(furnished text token d).workingDirectory, environment.stateDirectory⟩ =
        (.ok (), furnishedFiles text token d) := by
    rw [stateDirectory]
    exact makeChain_home text token d _
  have located : (furnishedFiles text token d).locate
      ⟨(furnished text token d).workingDirectory, environment.stateDirectory⟩ =
        .ok ["netcache"] := by
    rw [stateDirectory]
    exact locate_home text token d
  have prepared := prepare_run (load_config text token d spelled) state located
  rw [show (furnished text token d).today = "" from rfl, openFile_home text token d few] at prepared
  refine ⟨_, _, prepared, ?_, clientFor_run ready made _⟩
  have opened : Store.openAt (furnishedFiles text token d)
      ⟨(furnished text token d).workingDirectory,
        (furnished text token d).environment.databasePath⟩ =
        (.ok { store := .ofDatabase d, place := some ["netcache", "events.db"] },
          furnishedFiles text token d) := by
    show Store.openAt _ ⟨_, environment.databasePath⟩ = _
    rw [databasePath]
    exact openAt_database text token d
  have migrated : (Store.ofDatabase d).migrate = (.ok (), .ofDatabase d) := by
    simp [Store.migrate, Store.ofDatabase, current]
  have same : ¬ (Store.ofDatabase d).live.version ≠ Database.currentVersion := not_not.mpr current
  rw [ofConfig_run, usual]
  simp only [Option.getD_none, opened, migrated, close_database, same, decide_false]
  congr

/-- A command finds the token. -/
theorem furnished_usable (text token : String) (d : Database) (complaints : String) :
    CredentialGate.usable { furnished text token d with complaints }.gate =
      FileGate.credentialOf? token := by
  have read : (furnishedFiles text token d).readText session = .ok token :=
    Files.readText_plain session_plain (walk_session ..) (get_token ..)
  have gate : { furnished text token d with complaints }.gate =
      ⟨session, furnishedFiles text token d⟩ := by
    show FileGate.mk ⟨_, environment.tokenPath⟩ _ = _
    rw [tokenPath]
    rfl
  have current : CredentialGate.current (⟨session, furnishedFiles text token d⟩ : FileGate) =
      FileGate.credentialOf? token := by
    show FileGate.current? _ = _
    simp only [FileGate.current?, read]
  rw [gate, CredentialGate.usable]
  show (if (CredentialGate.current (⟨session, furnishedFiles text token d⟩ : FileGate)).isSome then
    CredentialGate.current (⟨session, furnishedFiles text token d⟩ : FileGate) else none) = _
  rw [current]
  cases FileGate.credentialOf? token <;> rfl

end Outbox.Command
