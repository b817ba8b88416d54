import KvStore.Store.Open

namespace KvStore

def openStore (config : StoreConfig) : Act Store := do
  if let .ok _ := config.backendKind then
    Act.log .debug "kvbridge::storage::factory" "Opening store" ["backend", "table"]
  match config.backendKind with
  | .error e => throw e
  | .ok .postgres =>
    if (← get).fullFeatures then openPostgresStore config else throw (.featureNotEnabled "postgres")
  | .ok .sqlite => openSqliteStore config
  | .ok .collection | .ok .bucket => openDocumentStore config

structure SweepSummary where
  sweeps : Nat
  removed : Nat
  deriving Repr, BEq, Inhabited

/-- Opens a store, removes its expired entries once, and disconnects it. The pool is
released before a failed sweep is reported. -/
def sweepOnce (config : StoreConfig) : Act SweepSummary := do
  let store ← openStore config
  let w ← get
  let body : StoreAct (Outcome Nat) := do
    let swept ← StoreAct.attempt Store.clearExpired
    Store.disconnect
    pure swept
  let (r, (w', _)) := body.run.run (w, store)
  set w'
  match r with
  | .ok (.ok removed) => pure { sweeps := 1, removed }
  | .ok (.error e) => throw e
  | .error e => throw e

/-- What a store opened from its configuration alone showed: its backend, its
namespace, and whether it has a key, when one was asked. -/
structure Probe where
  backend : String
  namespaceName : String
  has : Option (Outcome Bool)
  deriving Inhabited

def probeStore (config : StoreConfig) (key : Option String) : Act Probe := do
  let store ← openStore config
  let w ← get
  let body : StoreAct (Option (Outcome Bool)) := do
    let has ← match key with
      | some k => some <$> StoreAct.attempt (Store.has k)
      | none => pure none
    discard (StoreAct.attempt Store.disconnect)
    pure has
  let (r, (w', s)) := body.run.run (w, store)
  set w'
  match r with
  | .ok has => pure { backend := s.backend.name, namespaceName := s.ns.name, has }
  | .error e => throw e

end KvStore
