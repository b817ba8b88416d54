import KvStore.Cli.Invocation
import KvStore.Migration.Run
import KvStore.Store.Factory
import KvStore.Config.Load
import KvStore.Logging.Config
import KvStore.Net.Listener

namespace KvStore

namespace Cli

structure ToolRun where
  code : Nat
  stdout : String
  stderr : String
  world : World
  deriving Inhabited

abbrev ToolAct := ExceptT Error (StateM (World × String))

namespace ToolAct

def say (s : String) : ToolAct Unit := modify fun (w, out) => (w, out ++ s)

def lift {α : Type} (a : Act α) : ToolAct α :=
  ExceptT.mk fun (w, out) =>
    let (r, w') := a.run.run w
    (r, (w', out))

def ofOutcome {α : Type} : Outcome α → ToolAct α
  | .ok a => pure a
  | .error e => throw e

def world : ToolAct World := do pure (← get).1

end ToolAct

def previewText (r : MigrationReport) : String :=
  let rows := fun (rs : List KeyMove) => String.join (rs.map fun rw => "  " ++ rw.display ++ "\n")
  if r.preview.isEmpty then "No legacy keys found.\n"
  else
    "Rows to rewrite (" ++ toString r.preview.length ++ "):\n" ++ rows r.preview ++
      (if r.conflicts.isEmpty then ""
       else "\nConflicts (" ++ toString r.conflicts.length ++ "):\n" ++ rows r.conflicts)

def runMigrate (a : MigrateArgs) : ToolAct Unit := do
  ToolAct.say ("Migrating legacy keys in table '" ++ a.table ++ "'\nDry run: " ++ toString a.dryRun ++ "\n\n")
  ToolAct.lift (Act.log .info "kvbridge::cli::migrate" "Starting legacy key migration" ["backend", "table", "dry_run"])
  let run ← ToolAct.lift (liftM (runMigration a.backend a.uri a.options) : Act MigrationRun)
  if let some seen := run.previewSeen then ToolAct.say (previewText seen)
  let report ← ToolAct.ofOutcome run.result
  unless report.preview.isEmpty do
    ToolAct.say ("\n" ++ if report.applied then "Migration complete: " ++ toString report.rowsUpdated ++ " rows updated.\n"
      else "Dry run: changes rolled back.\n")

def waitSeconds (secs : Nat) : Act Unit :=
  Act.modifyWorld fun w => { w with host := { w.host with clock := w.host.clock + secs * 1000000000 } }

def sweepEvery (secs : Nat) : Nat → Nat → StoreAct Nat
  | 0, removed => pure removed
  | n + 1, removed => do
    let r ← StoreAct.attempt Store.clearExpired
    let removed ← match r with
      | .ok k => pure (removed + k)
      | .error _ => do
        StoreAct.lift (Act.log .warn "kvbridge::cli::reap" "Reap sweep failed" ["error"])
        pure removed
    if n > 0 then StoreAct.lift (waitSeconds secs)
    sweepEvery secs n removed

def installExporter (addr : Net.SocketAddress) : Act Unit := do
  match Net.bindFailure addr with
  | some reason => throw (.operationFailed "metrics_exporter_build" ("failed to create HTTP listener: " ++ reason))
  | none => Act.log .info "kvbridge::observability::metrics" "Prometheus exporter listening" ["addr"]

def startWatch (config : StoreConfig) (metricsAddr : Option Net.SocketAddress) : Act Store := do
  let store ← openStore config
  if let some addr := metricsAddr then
    installExporter addr
    Act.log .info "kvbridge::cli::reap" "Prometheus exporter listening" ["addr"]
  Act.log .info "kvbridge::cli::reap" "Watching for expired entries" ["backend", "interval_secs"]
  pure store

def watchExpired (config : StoreConfig) (secs : Nat) (metricsAddr : Option Net.SocketAddress)
    (sweeps : Nat) : Act SweepSummary := do
  let store ← startWatch config metricsAddr
  let body : StoreAct Nat := do
    let removed ← sweepEvery secs sweeps 0
    StoreAct.lift (Act.log .info "kvbridge::cli::reap" "Interrupted, stopping reaper")
    Store.disconnect
    pure removed
  let (r, (w', _)) := body.run.run (← get, store)
  set w'
  match r with
  | .ok removed => pure { sweeps, removed }
  | .error e => throw e

def runReap (a : ReapArgs) (config : StoreConfig) (interruptAfterMs : Nat) : Act SweepSummary :=
  match a.watch with
  | some (secs + 1) => watchExpired config (secs + 1) a.metricsAddr (interruptAfterMs / ((secs + 1) * 1000) + 1)
  | _ => sweepOnce config

/-- How a command ends: it returns, or it is a watch that nothing interrupts, which sweeps
until the process is killed. -/
inductive Ending where
  | returns
  | runsOn
  deriving DecidableEq, Repr

def runCommand (inv : Invocation) (interruptAfterMs : Option Nat) : ToolAct Ending :=
  match inv.command with
  | .migrate a => do
    runMigrate a
    pure .returns
  | .reap a => do
    let w ← ToolAct.world
    let base ← ToolAct.ofOutcome (StoreConfig.load w.host.env w.host.files w.host.cwd inv.config)
    let config ← ToolAct.ofOutcome (a.storeConfig base)
    match a.watch, interruptAfterMs with
    | some (_ + 1), none =>
      -- a watch ends early only when it cannot start
      let _ ← ToolAct.lift (startWatch config a.metricsAddr)
      pure .runsOn
    | _, ms =>
      -- a single sweep takes no interrupt
      let summary ← ToolAct.lift (runReap a config (ms.getD 0))
      ToolAct.say ("Removed " ++ toString summary.removed ++ " expired entries in " ++ toString summary.sweeps ++
        " sweep(s).\n")
      pure .returns

def appendLog (w : World) (path text : String) : World :=
  match w.host.files.appendText (w.host.resolve path) text w.host.clock with
  | .ok files => { w with host := { w.host with files } }
  | .error _ => w

/-- Runs the tool with the arguments after its name; `interruptAfterMs` is when an
interrupt arrives, if one does. A run that never ends by itself has no outcome. -/
def runTool (w : World) (args : List String) (interruptAfterMs : Option Nat) : Option ToolRun :=
  match readCommandLine w.host.env args with
  | .error f =>
    if f.kind.isRequestedOutput then some { code := 0, stdout := f.message, stderr := "", world := w }
    else some { code := 2, stdout := "", stderr := f.message, world := w }
  | .ok inv =>
    let logging := LoggingConfig.fromEnv w.host.env inv.verbose
    let (files, installed) := logging.install w.host.files w.host.cwd w.host.clock false
    let w := { w with host := { w.host with files } }
    match installed with
    | .error e =>
      some { code := 1, stdout := "", stderr := "Failed to initialize logging: " ++ e.message ++ "\n", world := w }
    | .ok () =>
      let (r, (w', out)) := (runCommand inv interruptAfterMs).run.run ({ w with log := [] }, "")
      let lines := String.join ((w'.log.reverse.filter logging.filter.enabled).map LogEvent.line)
      let (logText, w') := match logging.file with
        | some path => ("", appendLog w' path lines)
        | none => (lines, w')
      match r with
      | .ok .returns => some { code := 0, stdout := out, stderr := logText, world := w' }
      | .ok .runsOn => none
      | .error e => some { code := 1, stdout := out, stderr := logText ++ "Error: " ++ e.message ++ "\n", world := w' }

end Cli

end KvStore
