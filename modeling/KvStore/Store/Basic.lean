import KvStore.Store.Backend
import KvStore.Store.Event
import KvStore.Config.Store
import KvStore.Key.Namespace

namespace KvStore

/-- A scheduled expiry sweep: its interval in milliseconds and the clock reading, in
nanoseconds, of the next sweep. -/
structure Reaper where
  interval : Nat
  due : Nat
  deriving Repr, BEq, Inhabited

/-- The state of a store; clones of a store share it. -/
structure Store where
  backend : Backend
  config : StoreConfig
  ns : Namespace
  iterationLimit : Nat
  bus : EventBus := {}
  bootstrapped : Option (Except String Unit) := none
  closed : Bool := false
  reaper : Option Reaper := none
  deriving Inhabited

abbrev StoreAct := ExceptT Error (StateM (World × Store))

namespace StoreAct

def lift {α : Type} (a : Act α) : StoreAct α :=
  ExceptT.mk fun (w, s) =>
    let (r, w') := (a.run.run w)
    (r, (w', s))

def store : StoreAct Store := do pure (← get).2

def world : StoreAct World := do pure (← get).1

def modifyStore (f : Store → Store) : StoreAct Unit := modify fun (w, s) => (w, f s)

def attempt {α : Type} (a : StoreAct α) : StoreAct (Outcome α) :=
  ExceptT.mk do
    let r ← a.run
    pure (.ok r)

end StoreAct

namespace Store

def new (backend : Backend) (config : StoreConfig) : Store :=
  { backend, config, ns := Namespace.ofOption config.namespaceName,
    iterationLimit := config.effectiveIterationLimit }

def isClosed (w : World) (s : Store) : Bool := s.closed || (w.pool s.backend.pool).closed

def logTarget : String := "kvbridge::storage::store"

def operationSpan : LogSpan :=
  { name := "kvbridge.store", target := logTarget, fields := ["backend", "operation", "namespace"] }

def publish (e : StoreEvent) : StoreAct Unit := do
  let s ← StoreAct.store
  let (bus, delivered) := s.bus.publish e
  StoreAct.modifyStore fun s => { s with bus }
  StoreAct.lift (Act.count "store_events_published_total" [("event", e.typeName)] 1)
  unless delivered do StoreAct.lift (Act.count "store_events_dropped_total" [] 1)

def ensureOpen : StoreAct Unit := do
  let (w, s) ← get
  if isClosed w s then throw .disconnected

/-- Starts, replaces or stops the expiry reaper. `none` or `0` stops it; starting one
needs an open store and a runtime to run it in. -/
def setClearExpiredInterval (interval : Option Nat) (inRuntime : Bool := true) : StoreAct Unit := do
  StoreAct.modifyStore fun s => { s with reaper := none }
  match interval with
  | none | some 0 => pure ()
  | some ms =>
    let (w, s) ← get
    if isClosed w s then throw .disconnected
    unless inRuntime do throw (.invalidInput "the expiry reaper requires a tokio runtime")
    StoreAct.modifyStore fun s => { s with reaper := some { interval := ms, due := w.host.clock + ms * 1000000 } }
    StoreAct.lift (Act.log .debug logTarget "Expiry reaper scheduled" ["backend", "interval_ms"])

def runBootstrap : StoreAct (Except String Unit) := do
  let s ← StoreAct.store
  let r ← StoreAct.attempt (StoreAct.lift s.backend.bootstrap)
  StoreAct.lift (Act.countOperation s.backend.name "bootstrap" (if r.toBool then "success" else "error"))
  match r with
  | .ok () =>
    StoreAct.lift (Act.log .info logTarget "Schema bootstrap complete" ["backend", "table"] operationSpan)
    publish (.bootstrapped s.backend.name s.backend.table)
    if let some interval := s.config.clearExpiredInterval then
      if let .error _ ← StoreAct.attempt (setClearExpiredInterval (some interval)) then
        StoreAct.lift (Act.log .warn logTarget "Failed to start expiry reaper" ["backend", "error"] operationSpan)
    pure (.ok ())
  | .error e =>
    StoreAct.lift (Act.log .error logTarget "Schema bootstrap failed" ["backend", "error"] operationSpan)
    publish (.error s.backend.name "bootstrap" e.message)
    pure (.error e.message)

def ready : StoreAct Unit := do
  let outcome ← match (← StoreAct.store).bootstrapped with
    | some r => pure r
    | none => do
      let r ← runBootstrap
      StoreAct.modifyStore fun s => { s with bootstrapped := some r }
      pure r
  match outcome with
  | .ok () => pure ()
  | .error e => throw (.bootstrap e)

/-- The guard before every backend call: the store must be open, the bootstrap must
have succeeded (it runs here if it has not run), and the store must still be open. -/
def gate : StoreAct Unit := do
  ensureOpen
  ready
  ensureOpen

def invoke {α : Type} (operation : String) (call : Backend → Act α) : StoreAct α := do
  let s ← StoreAct.store
  let r ← StoreAct.attempt (StoreAct.lift (call s.backend))
  StoreAct.lift (Act.countOperation s.backend.name operation (if r.toBool then "success" else "error"))
  match r with
  | .ok a => pure a
  | .error e =>
    StoreAct.lift (Act.log .debug logTarget "Store operation failed" ["error"] operationSpan)
    throw e

def run {α : Type} (operation : String) (call : Backend → Act α) : StoreAct α := do
  gate
  invoke operation call

def stripAll (ns : Namespace) (keys : List String) : List String :=
  (keys.map ns.strip).foldl (fun acc k => if acc.contains k then acc else acc ++ [k]) []

def get (key : String) : StoreAct (Option String) := do
  let s ← StoreAct.store
  let k := s.ns.strip key
  let rows ← run "get" fun b => b.getMany s.ns.name [k]
  pure ((rows.find? (·.1 == k)).map (·.2))

def getMany (keys : List String) : StoreAct (List (Option String)) := do
  ensureOpen
  if keys.isEmpty then return []
  let s ← StoreAct.store
  let rows ← run "get_many" fun b => b.getMany s.ns.name (stripAll s.ns keys)
  pure (keys.map fun k => (rows.reverse.find? (·.1 == s.ns.strip k)).map (·.2))

def set (key : String) (value : Payload) : StoreAct Unit := do
  let s ← StoreAct.store
  let entry := StoredEntry.ofPayload (s.ns.strip key) value
  run "set" fun b => b.upsertMany s.ns.name [entry]

def collapse (entries : List StoredEntry) : List StoredEntry :=
  entries.foldl (fun acc e =>
    if acc.any (·.key == e.key) then acc.map (fun x => if x.key == e.key then e else x)
    else acc ++ [e]) []

def setMany (entries : List (String × Payload)) : StoreAct Unit := do
  ensureOpen
  if entries.isEmpty then return ()
  let s ← StoreAct.store
  let collapsed := collapse (entries.map fun (k, v) => StoredEntry.ofPayload (s.ns.strip k) v)
  run "set_many" fun b => b.upsertMany s.ns.name collapsed

def delete (key : String) : StoreAct Bool := do
  let s ← StoreAct.store
  run "delete" fun b => b.delete s.ns.name (s.ns.strip key)

def deleteMany (keys : List String) : StoreAct Bool := do
  ensureOpen
  if keys.isEmpty then return false
  let s ← StoreAct.store
  let removed ← run "delete_many" fun b => b.deleteMany s.ns.name (stripAll s.ns keys)
  pure (removed > 0)

def has (key : String) : StoreAct Bool := do
  let s ← StoreAct.store
  let k := s.ns.strip key
  let found ← run "has" fun b => b.hasMany s.ns.name [k]
  pure (found.contains k)

def hasMany (keys : List String) : StoreAct (List Bool) := do
  ensureOpen
  if keys.isEmpty then return []
  let s ← StoreAct.store
  let found ← run "has_many" fun b => b.hasMany s.ns.name (stripAll s.ns keys)
  pure (keys.map fun k => found.contains (s.ns.strip k))

def clear : StoreAct Unit := do
  let s ← StoreAct.store
  discard (run "clear" fun b => b.clearNamespace s.ns.name)
  StoreAct.lift (Act.log .debug logTarget "Cleared namespace" ["backend", "namespace", "removed"])

def clearExpired : StoreAct Nat := do
  let now : Int := (← StoreAct.world).nowMillis
  let removed ← run "clear_expired" fun b => b.clearExpired now
  let s ← StoreAct.store
  StoreAct.lift (Act.count "storage_entries_reaped_total" [("backend", s.backend.name)] removed)
  if removed > 0 then
    StoreAct.lift (Act.log .info logTarget "Removed expired entries" ["backend", "removed"])
    publish (.reaped s.backend.name removed)
  pure removed

/-- One sweep of the expiry reaper; whether the reaper goes on. A closed store stops it,
as does a sweep that finds the store disconnected; any other failure has no caller to go
to, so it is published. -/
def sweep : StoreAct Bool := do
  let s ← StoreAct.store
  if isClosed (← StoreAct.world) s then return false
  match ← StoreAct.attempt clearExpired with
  | .ok _ => pure true
  | .error .disconnected => pure false
  | .error e =>
    publish (.error s.backend.name "clear_expired" e.message)
    pure true

/-- Deletes every entry, in any namespace, not read or written for `maxAge` seconds;
only a bucket keeps the times of use. -/
def clearUnusedFor (maxAge : Nat) : StoreAct Nat :=
  run "clear_unused" fun
    | .bucket l => l.clearUnusedFor maxAge
    | _ => throw (.invalidInput "clear_unused_for requires the bucket layout")

def fetchPage (cursor : Option String) (limit : Nat) : StoreAct Page := do
  let s ← StoreAct.store
  let p ← run "iterate" fun b => b.page s.ns.name cursor limit
  pure { p with entries := p.entries.map fun (k, v) => (s.ns.attach k, v) }

def disconnect : StoreAct Unit := do
  let s ← StoreAct.store
  if s.closed then return ()
  StoreAct.modifyStore fun s => { s with closed := true, reaper := none }
  let key := ((← StoreAct.world).pool s.backend.pool).key
  modify fun (w, s) => (w.release key, s)
  StoreAct.lift (Act.log .debug logTarget "Store disconnected" ["backend"])
  publish (.disconnected s.backend.name)

def debugText (w : World) (s : Store) : String :=
  "Store \x7b backend: " ++ Text.quoted s.backend.name ++ ", table: " ++ Text.quoted s.backend.table ++
    ", namespace: " ++ Text.quoted s.ns.name ++ ", closed: " ++ toString (isClosed w s) ++ ", .. \x7d"

end Store

end KvStore
