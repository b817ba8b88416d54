import KvStore.Session.State
import KvStore.Store.Factory

namespace KvStore

namespace Session

def pairJson (kv : String × String) : Json := .arr [.str kv.1, .str kv.2]

def entriesJson (xs : List (String × String)) : Json := .arr (xs.map pairJson)

def pageJson (p : Page) : Json :=
  .obj [("entries", entriesJson p.entries), ("fetched", Json.nat p.fetched), ("last_key", Json.opt .str p.lastKey)]

def strsJson (xs : List String) : Json := .arr (xs.map .str)

def receivedJson : Received → Json
  | .event e => e.toJson
  | .lagged n => .obj [("skipped", Json.nat n), ("type", .str "lagged")]

def namedEventTypes : List String := ["error", "reaped", "bootstrapped", "disconnected"]

def sortTexts (xs : List String) : List String := xs.mergeSort (fun a b => decide (a ≤ b))

def sortPairs (xs : List (String × String)) : List (String × String) :=
  xs.mergeSort (fun a b => decide (a.1 < b.1 ∨ (a.1 = b.1 ∧ a.2 ≤ b.2)))

def removePath (h : Host) (path : String) : Host × Bool :=
  let p := h.resolve path
  match h.files.lookup p with
  | .ok (some _) => ({ h with files := h.files.erase p }, true)
  | _ => (h, false)

namespace State

def answer {α : Type} (st : State) (slot : Nat) (a : StoreAct α) (f : α → Json) : State × Json :=
  let (st, r) := st.onStore slot a
  (st, outcomeJson f r)

def answerWorld {α : Type} (st : State) (a : Act α) (f : α → Json) : State × Json :=
  let (st, r) := st.onWorld a
  (st, outcomeJson f r)

def sqliteLink (st : State) (slot : Nat) : Option (Option SqliteLink) :=
  match (st.store slot).backend with
  | .sqlite b =>
    match (st.world.pool b.pool).connection with
    | .sqlite link => some link
    | _ => some none
  | _ => none

def filterNext (bus : EventBus) (f : Filter) : Nat → Receiver → Nat → Option StoreEvent × Receiver × Nat
  | 0, r, lagged => (none, r, lagged)
  | fuel + 1, r, lagged =>
    match bus.receive r with
    | (none, r') => (none, r', lagged)
    | (some (.lagged n), r') => filterNext bus f fuel r' (lagged + n)
    | (some (.event e), r') =>
      if (e.typeName == f.eventType) == f.sameType then (some e, r', lagged)
      else filterNext bus f fuel r' lagged

def iterNext (st : State) (id : String) (slot : Nat) (it : KeysetIterator) :
    Nat → List Json → State × Json
  | 0, acc => ({ st with iterators := setAt st.iterators id (slot, it) }, okJson (.arr acc.reverse))
  | n + 1, acc =>
    let (st, r) := st.onStore slot it.next
    match r with
    | .ok (it', item) =>
      let j := match item with
        | .ok (some kv) => pairJson kv
        | .ok none => .null
        | .error e => errorJson e
      iterNext st id slot it' n (j :: acc)
    | .error e => iterNext st id slot it n (errorJson e :: acc)

def backendCall (b : Backend) (ns : String) : BackendCall → Act Json
  | .name => pure (.str b.name)
  | .table => pure (.str b.table)
  | .bootstrap => do b.bootstrap; pure .null
  | .getMany keys => do pure (entriesJson (sortPairs (← b.getMany ns keys)))
  | .hasMany keys => do pure (strsJson (sortTexts (← b.hasMany ns keys)))
  | .upsertMany entries => do b.upsertMany ns entries; pure .null
  | .delete key => do pure (.bool (← b.delete ns key))
  | .deleteMany keys => do pure (Json.nat (← b.deleteMany ns keys))
  | .clearNamespace => do pure (Json.nat (← b.clearNamespace ns))
  | .clearExpired now => do pure (Json.nat (← b.clearExpired now))
  | .page cursor limit => do pure (pageJson (← b.page ns cursor limit))

def debugJson (st : State) (slot : Nat) : Json :=
  let s := st.store slot
  let pool := st.world.pool s.backend.pool
  let backendText := match s.backend with
    | .sqlite b =>
      let shared := match pool.connection with
        | .sqlite (some l) => "Some(Connection \x7b path: Some(" ++ Text.quoted l.path ++ ") \x7d)"
        | _ => "None"
      "SqliteBackend \x7b pool: " ++ pool.debugText ++ ", shared: Mutex \x7b data: " ++ shared ++
        ", poisoned: false, .. \x7d, spec: " ++ b.spec.debugText ++ ", table: " ++ Text.quoted b.table ++ " \x7d"
    | .bucket l => "Bucket(" ++ l.debugText st.world ++ ")"
    | .postgres b => b.debugText st.world
  let bucketDir := match s.backend with
    | .bucket l => Json.str l.bucketDir
    | _ => .null
  .obj [("backend", .str backendText), ("bucket_dir", bucketDir), ("pool", .str pool.debugText),
    ("pool_key", .str pool.key.debugText), ("store", .str (Store.debugText st.world s))]

def onSlot (st : State) (slot : Nat) : Command → State × Json
  | .set k v => st.answer slot (Store.set k v) fun _ => .null
  | .setMany entries => st.answer slot (Store.setMany entries) fun _ => .null
  | .get k => st.answer slot (Store.get k) (Json.opt .str)
  | .getMany keys => st.answer slot (Store.getMany keys) fun xs => .arr (xs.map (Json.opt .str))
  | .has k => st.answer slot (Store.has k) .bool
  | .hasMany keys => st.answer slot (Store.hasMany keys) fun xs => .arr (xs.map .bool)
  | .delete k => st.answer slot (Store.delete k) .bool
  | .deleteMany keys => st.answer slot (Store.deleteMany keys) .bool
  | .clear => st.answer slot Store.clear fun _ => .null
  | .clearExpired => st.answer slot Store.clearExpired Json.nat
  | .iterate => st.answer slot (KeysetIterator.collectAll (st.store slot).iterationLimit) entriesJson
  | .iterNew id =>
    ({ st with iterators := setAt st.iterators id (slot, KeysetIterator.new (st.store slot).iterationLimit) },
      okJson .null)
  | .page cursor limit => st.answer slot (Store.fetchPage cursor limit) pageJson
  | .disconnect => st.answer slot Store.disconnect fun _ => .null
  | .isClosed => (st, okJson (.bool (Store.isClosed st.world (st.store slot))))
  | .ready => st.answer slot Store.ready fun _ => .null
  | .info =>
    let s := st.store slot
    (st, okJson (.obj [("backend", .str s.backend.name), ("namespace", .str s.ns.name),
      ("table", .str s.backend.table)]))
  | .options => (st, okJson (.obj (st.store slot).config.options))
  | .setReaper ms inRuntime => st.answer slot (Store.setClearExpiredInterval ms inRuntime) fun _ => .null
  | .hasReaper => (st, okJson (.bool (st.store slot).reaper.isSome))
  | .clearUnused secs =>
    match (st.store slot).backend with
    | .bucket _ => st.answer slot (Store.clearUnusedFor secs) Json.nat
    | _ => (st, sessionError "Unsupported" "clear_unused needs a bucket store")
  | .events =>
    match st.receivers.find? (·.1 == slot) with
    | some (_, r) =>
      let (items, r') := (st.store slot).bus.drain r
      ({ st with receivers := st.receivers.map fun (k, x) => if k == slot then (k, r') else (k, x) },
        okJson (.arr (items.map receivedJson)))
    | none => (st, okJson (.arr []))
  | .dump =>
    match st.sqliteLink slot with
    | some (some link) => st.answerWorld (sqliteDump link (st.store slot).backend.table) id
    | some none => (st, errorJson .disconnected)
    | none =>
      match (st.world.pool (st.store slot).backend.pool).connection with
      | .bucket root => (st, okJson (bucketDump st.world.host root))
      | _ => (st, sessionError "Unsupported" "dump needs a sqlite or bucket store")
  | .reap ns table =>
    let base := StoreConfig.ofUri (st.store slot).config.uri
    let config := { base with
      table := table.getD base.table
      namespaceName := ns.orElse fun _ => base.namespaceName
      clearExpiredInterval := none }
    st.answerWorld (sweepOnce config) fun s =>
      .obj [("removed", Json.nat s.removed), ("sweeps", Json.nat s.sweeps)]
  | .sql text =>
    match st.sqliteLink slot with
    | some (some link) =>
      let (st, r) := st.onWorld (Sqlite.batchOn link text)
      match r with
      | .ok none => (st, okJson .null)
      | .ok (some e) => (st, sqlErrorJson e)
      | .error e => (st, errorJson e)
    | some none => (st, errorJson .disconnected)
    | none => (st, sessionError "Unsupported" "sql needs a sqlite store")
  | .query text =>
    match st.sqliteLink slot with
    | some (some link) =>
      let (st, r) := st.onWorld (Sqlite.queryOn link text [])
      match r with
      | .ok (.ok rows) => (st, okJson (.arr (rows.map (rowJson ·.values))))
      | .ok (.error e) => (st, sqlErrorJson e)
      | .error e => (st, errorJson e)
    | some none => (st, errorJson .disconnected)
    | none => (st, sessionError "Unsupported" "query needs a sqlite store")
  | .debug => (st, okJson (st.debugJson slot))
  | .cloneOps key =>
    let (st, r) := st.onStore slot (Store.get key)
    let closed := Store.isClosed st.world (st.store slot)
    (st, .obj [("closed", .bool closed), ("get", outcomeJson (Json.opt .str) r), ("original_closed", .bool closed)])
  | .filterNew id eventType =>
    let s := st.store slot
    let (bus, receiver) := s.bus.subscribe
    let f : Filter := { slot, receiver, eventType, sameType := namedEventTypes.contains eventType }
    ({ st with stores := st.stores.set slot { s with bus }, filters := setAt st.filters id f }, okJson .null)
  | .backend call ns => st.answerWorld (backendCall (st.store slot).backend ns call) id
  | _ => (st, sessionError "Unsupported" "unsupported step")

def firstName (st : State) : String := ((st.specs.head?).map (·.name)).getD "a"

def stepOn (st : State) (name : String) (slot : Nat) (s : Step) : State × Json :=
  match s.command with
  | .writeFile path content => ({ st with world := { st.world with host := st.world.host.writeFixture path content } },
      okJson .null)
  | .writeBytes dir bytes content =>
    let h := st.world.host.tick
    let p := h.resolve dir ++ [FileName.ofBytes bytes]
    match h.files.writeFile p (.text content) h.clock with
    | .ok files => ({ st with world := { st.world with host := { h with files } } }, okJson (.bool true))
    | .error _ => ({ st with world := { st.world with host := h } }, okJson (.bool false))
  | .removePath path =>
    let (h, removed) := removePath st.world.host path
    ({ st with world := { st.world with host := h } }, okJson (.bool removed))
  | .sleep ms => (st.sleep ms, okJson .null)
  | .poolLen =>
    let n := st.world.registry.length
    (st, okJson (.obj [("is_empty", .bool (n == 0)), ("len", Json.nat n)]))
  | .iterNext id count =>
    match st.iterators.find? (·.1 == id) with
    | some (_, (slot, it)) => st.iterNext id slot it count []
    | none => (st, sessionError "NoIterator" ("no iterator '" ++ id ++ "'"))
  | .iterDebug id =>
    match st.iterators.find? (·.1 == id) with
    | some (_, (_, it)) => (st, okJson (.str it.debugText))
    | none => (st, sessionError "NoIterator" ("no iterator '" ++ id ++ "'"))
  | .filterNext id =>
    match st.filters.find? (·.1 == id) with
    | some (_, f) =>
      let bus := (st.store f.slot).bus
      let (e, r, lagged) := filterNext bus f (bus.tail + 2) f.receiver 0
      let world := if lagged > 0 then
          { st.world with metrics := st.world.metrics.add "store_events_lagged_total" [] lagged }
        else st.world
      ({ st with world, filters := setAt st.filters id { f with receiver := r } },
        okJson (Json.opt StoreEvent.toJson e))
    | none => (st, sessionError "NoFilter" ("no filter '" ++ id ++ "'"))
  | .openStore => (st, sessionError "AlreadyOpen" ("store '" ++ name ++ "' is already open"))
  | .unknown op => (st, sessionError "Unsupported" ("unknown step " ++ op))
  | command => st.onSlot slot command

def step (st : State) (s : Step) : State × Json :=
  let name := s.store.getD st.firstName
  match st.slotOf name, s.command with
  | some slot, _ => st.stepOn name slot s
  | none, .openStore =>
    match st.specs.find? (·.name == name) with
    | some spec =>
      let (st, r) := st.openSpec spec
      (st, outcomeJson (fun _ => .null) r)
    | none => (st, sessionError "NotOpen" ("store '" ++ name ++ "' is not open"))
  | none, _ => (st, sessionError "NotOpen" ("store '" ++ name ++ "' is not open"))

def steps (st : State) : List Step → State × List Json
  | [] => (st, [])
  | s :: rest =>
    let (st, j) := st.step s
    let (st, js) := State.steps st rest
    (st, j :: js)

end State

def applySetupSql (w : World) (file sql : String) : Except String World :=
  match Sqlite.openFile w file with
  | .error e => .error e.message
  | .ok (w, link) =>
    let (r, w) := (Sqlite.batchOn link sql).run.run w
    match r with
    | .ok none => .ok w
    | .ok (some e) => .error e.message
    | .error e => .error e.message

def run (world : World) (script : Script) : Json :=
  let st : State := { world, specs := script.stores }
  let setup : Except String State := match script.setupSql with
    | none => .ok st
    | some (file, sql) => (applySetupSql st.world file sql).map fun w => { st with world := w }
  match setup with
  | .error message => sessionError "SetupSql" message
  | .ok st =>
    let (st, opened) := script.stores.foldl (fun (st, acc) spec =>
      if spec.lazy then (st, acc)
      else
        let (st, r) := st.openSpec spec
        (st, acc ++ [(spec.name, outcomeJson (fun _ => .null) r)])) (st, [])
    let (st, answers) := st.steps script.steps
    let base := [("open", Json.obj opened), ("steps", Json.arr answers)]
    if st.world.metrics.enabled then
      .obj (base ++ [("metrics", strsJson st.world.metrics.render)])
    else .obj base

end Session

end KvStore
