import Outbox.Proofs.Store.Reopening
import Outbox.Proofs.Sync.Uploading

/-!
# Commands that upload

A command is run stage by stage: one that asks nothing hands its result and the machine on
(`Run.bind_ok`), and one that asks the collector goes on with the answers (`Run.bind_ask`). The
command `sync` opens the store, makes its attempts, and tells what has come of them
(`uploadPending_run`).
-/

namespace Outbox.Command

open Http (Conversation)

namespace Run

variable {α β : Type} {m m' : Machine}

theorem bind_ok {x : Run α} {a : α} (h : x.run.run m = pure (.ok a, m')) (f : α → Run β) :
    (x >>= f).run.run m = (f a).run.run m' := by
  rw [ExceptT.run_bind, StateT.run_bind, h, pure_bind]

theorem bind_ask (c : Conversation α) (f : α → Run β) :
    (ask c >>= f).run.run m = c >>= fun a => (f a).run.run m := by
  have asked : (ask c).run.run m = c >>= fun a => pure (.ok a, m) := by
    unfold ask
    rw [ExceptT.run_lift, StateT.run_map, StateT.run_lift, map_bind]
    simp only [map_pure]
  rw [ExceptT.run_bind, StateT.run_bind, asked, bind_assoc]
  simp only [pure_bind]

theorem change_run (f : Files → α × Files) (m : Machine) :
    (change f).run.run m = pure (.ok (f m.files).1, { m with files := (f m.files).2 }) := rfl

end Run

/-! ### The store of a command -/

/-- Opening the configured store: the file is opened, and the store is migrated and kept. -/
theorem ofConfig_run (config : Config) (m : Machine) :
    (OpenStore.ofConfig config).run.run m =
      match Store.openAt m.files
        ⟨m.workingDirectory, config.storePath.getD m.environment.databasePath⟩ with
      | (.error e, files) => pure (.error (.ofError "failed to open event store" e), { m with files })
      | (.ok opened, files) =>
        match opened.store.migrate with
        | (.error fault, _) =>
          pure (.error (.ofError "failed to run database migrations" (.store fault)),
            { m with files })
        | (.ok (), store) =>
          pure (.ok {
              opened := { opened with store }
              migrated := opened.store.live.version ≠ Database.currentVersion },
            { m with files := ({ opened with store } : Store.Opened).close files }) := by
  have got : (get : Run Machine).run.run m = pure (.ok m, m) := rfl
  have located : ∀ text, (Run.path text).run.run m = pure (.ok ⟨m.workingDirectory, text⟩, m) :=
    fun _ => rfl
  unfold OpenStore.ofConfig
  rw [Run.bind_ok got, Run.bind_ok (located _), Run.bind_ok (Run.change_run _ _)]
  rcases Store.openAt m.files
    ⟨m.workingDirectory, config.storePath.getD m.environment.databasePath⟩ with ⟨_ | opened, files⟩
  · rfl
  · have expected : ∀ m, (Run.expect "failed to open event store" (.ok opened)).run.run m =
        pure (.ok opened, m) := fun _ => rfl
    rw [Run.bind_ok (expected _)]
    dsimp only
    rcases opened.store.migrate with ⟨_ | _, store⟩ <;> rfl

/-- A command that has opened its store has brought it to the current schema. -/
theorem ofConfig_settled {config : Config} {o : OpenStore} {m m' : Machine}
    (done : (OpenStore.ofConfig config).run.run m = pure (.ok o, m')) :
    o.store.saved = none ∧ o.store.poisoned = false := by
  rw [ofConfig_run] at done
  split at done
  · cases done
  · next opened files ho =>
    split at done
    · cases done
    · next store hm =>
      cases done
      exact Store.migrate_settled hm (Store.openAt_settled ho)

/-! ### The end of an upload -/

/-- The line that tells how many records are pending. -/
def pendingText (s : Store) : String :=
  match s.countPending with
  | .ok n => "Pending:   " ++ toString n ++ "\n"
  | .error _ => ""

/-- Whether an upload has failed, and with what. -/
def uploadResult (drained : DrainReport) (s : Store) : Except Failure Unit :=
  match s.countPending with
  | .error fault => .error (.ofError "failed to count pending events" (.store fault))
  | .ok _ =>
    match drained.last.failure? with
    | some failure => .error { headline := "sync failed: " ++ failure.message }
    | none => .ok ()

theorem uploadResult_ok {drained : DrainReport} {s : Store} :
    uploadResult drained s = .ok () ↔
      (∃ n, s.countPending = .ok n) ∧ ∀ failure, drained.last ≠ .failed failure := by
  unfold uploadResult
  cases s.countPending with
  | error fault => simp
  | ok n =>
    cases drained.last with
    | failed failure => simp [SyncReport.failure?]
    | _ => simp [SyncReport.failure?]

/-- What comes of a command after a series of attempts, which have left the site. -/
def Machine.synced (m : Machine) (o : OpenStore) (drained : DrainReport) (site : Site FileGate) :
    Except Failure Unit × Machine :=
  (uploadResult drained site.store,
    { m with
      files := ({ o.opened with store := site.store } : Store.Opened).close site.gate.files
      output := m.output ++ drainText drained ++ pendingText site.store })

/-- The gate on the token of a machine. -/
def Machine.gate (m : Machine) : FileGate :=
  ⟨⟨m.workingDirectory, m.environment.tokenPath⟩, m.files⟩

variable {config : Config} {o : OpenStore} {client : Client} {m m' m₁ m₂ : Machine}

/-- An upload makes its attempts, and tells what has come of them and what is left. -/
theorem uploadPending_run (opened : (OpenStore.ofConfig config).run.run m = pure (.ok o, m₁))
    (ready : (clientFor config).run.run m₁ = pure (.ok client, m₂)) (all : Bool) :
    (uploadPending config all).run.run m =
      (drain (attempt (coordinatorFor config) client) (if all then allBatches else 1)).run
        ⟨m₂.gate, o.store, {}⟩ >>= fun r => pure (m₂.synced o r.1 r.2) := by
  have gated : Run.gate.run.run m₂ = pure (.ok m₂.gate, m₂) := rfl
  unfold uploadPending
  rw [Run.bind_ok opened, Run.bind_ok ready, Run.bind_ok gated, Run.bind_ask]
  refine congrArg _ (funext fun r => ?_)
  obtain ⟨drained, site⟩ := r
  cases counted : site.store.countPending with
  | error fault =>
    simp only [Machine.synced, uploadResult, pendingText, counted, String.append_empty]
    rfl
  | ok n =>
    simp only [Machine.synced, uploadResult, pendingText, counted]
    cases drained.last.failure? <;> rfl

/-! ### From the beginning to the exit code -/

/-- Every command reads the configuration first, and opens the log file of the day. -/
theorem prepare_run {directory : Place} {files : Files}
    (loaded : Config.load m.files ⟨m.workingDirectory, m.environment.configPath⟩ = .ok config)
    (made : m.files.makeDirectories ⟨m.workingDirectory, m.environment.stateDirectory⟩ =
      (.ok (), files))
    (located : files.locate ⟨m.workingDirectory, m.environment.stateDirectory⟩ = .ok directory) :
    prepare.run.run m = pure (.ok config, { m with
      files := Logging.openFile files directory config.logging.maxFiles m.today
      complaints := m.complaints ++ Logging.complaints config.logging.level }) := by
  have got : ∀ m, (get : Run Machine).run.run m = pure (.ok m, m) := fun _ => rfl
  have path : ∀ text m, (Run.path text).run.run m = pure (.ok ⟨m.workingDirectory, text⟩, m) :=
    fun _ _ => rfl
  have logged : (openLog config.logging).run.run m = pure (.ok (), { m with
      files := Logging.openFile files directory config.logging.maxFiles m.today }) := by
    have expected : ∀ m, (Run.expectFile "failed to initialize logging" (.ok ())).run.run m =
        pure (.ok (), m) := fun _ => rfl
    unfold openLog
    rw [Run.bind_ok (got _), Run.bind_ok (path _ _), Run.bind_ok (Run.change_run _ _), made,
      Run.bind_ok (expected _), Run.bind_ok (got _)]
    dsimp only
    rw [located]
    rfl
  have expected : ∀ m, (Run.expect "failed to load configuration"
      ((Except.ok config).mapError Error.config)).run.run m = pure (.ok config, m) := fun _ => rfl
  unfold prepare
  rw [Run.bind_ok (got _), Run.bind_ok (path _ _), Run.bind_ok (got _), loaded]
  dsimp only
  rw [Run.bind_ok (expected _), Run.bind_ok logged]
  rfl

theorem clientFor_run (ready : config.collector.isReady = true)
    (made : Client.ofSettings config.collector = .ok client) (m : Machine) :
    (clientFor config).run.run m = pure (.ok client, m) := by
  unfold clientFor
  simp only [ready, if_true, made]
  rfl

/-- A command has read its configuration, has opened the store and brought it to the current schema,
and has a client for the collector. Nothing was asked of the collector for it. -/
def Begins (m : Machine) (config : Config) (o : OpenStore) (client : Client) (m' : Machine) : Prop :=
  ∃ m₁ m₂, prepare.run.run m = pure (.ok config, m₁) ∧
    (OpenStore.ofConfig config).run.run m₁ = pure (.ok o, m₂) ∧
    (clientFor config).run.run m₂ = pure (.ok client, m')

/-- The exit code of a command that has ended so, and the machine with the failure printed. -/
def ended (r : Except Failure Unit × Machine) : UInt32 × Machine :=
  match r.1 with
  | .ok () => (0, r.2)
  | .error failure => (1, { r.2 with complaints := r.2.complaints ++ failure.text })

@[simp] theorem ended_output (r : Except Failure Unit × Machine) :
    (ended r).2.output = r.2.output := by
  obtain ⟨_ | _, m⟩ := r <;> rfl

@[simp] theorem ended_files (r : Except Failure Unit × Machine) :
    (ended r).2.files = r.2.files := by
  obtain ⟨_ | _, m⟩ := r <;> rfl

theorem ended_code (r : Except Failure Unit × Machine) :
    ((ended r).1 = 0 ↔ r.1 = .ok ()) ∧ ((ended r).1 ≠ 0 → (ended r).1 = 1) := by
  obtain ⟨_ | _, m⟩ := r <;> simp [ended]

theorem execute_eq {args : List String} {command : Command} (parsed : parse args = .ok command)
    (m : Machine) :
    Machine.execute args m = command.run.run.run m >>= fun r => pure (ended r) := by
  unfold Machine.execute Machine.complete
  rw [parsed]
  simp only [bind_assoc]
  refine congrArg _ (funext fun r => ?_)
  obtain ⟨_ | _, m⟩ := r <;> rfl

/-- The program that is to upload makes its attempts, and ends as they have ended. -/
theorem execute_sync {args : List String} {all : Bool} {interval : Nat}
    (parsed : parse args = .ok (.sync all false interval)) (begins : Begins m config o client m') :
    Machine.execute args m =
      (drain (attempt (coordinatorFor config) client) (if all then allBatches else 1)).run
        ⟨m'.gate, o.store, {}⟩ >>= fun r => pure (ended (m'.synced o r.1 r.2)) := by
  obtain ⟨m₁, m₂, prepared, opened, ready⟩ := begins
  have performed : (run (.sync all false interval)).run.run m =
      (uploadPending config all).run.run m₁ := Run.bind_ok prepared _
  rw [execute_eq parsed, performed, uploadPending_run opened ready, bind_assoc]
  simp only [pure_bind]

end Outbox.Command
