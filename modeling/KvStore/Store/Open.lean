import KvStore.Store.Basic
import KvStore.Sqlite.Open
import KvStore.Postgres.Pool
import KvStore.Collection.Uri

namespace KvStore

def StoreConfig.poolKey (c : StoreConfig) : PoolKey := { uri := c.uri, options := c.pool.cacheKey }

def openConnection (kind : BackendKind) (config : StoreConfig) : Act PoolConnection := do
  match kind with
  | .postgres =>
    if (← get).fullFeatures then
      match Postgres.openPool config with
      | .ok maxSize => pure (.postgres maxSize)
      | .error e => throw e
    else throw (.featureNotEnabled "postgres")
  | .sqlite => pure (.sqlite (some (← Sqlite.openShared config)))
  | .collection =>
    if (← get).fullFeatures then
      match Collection.uriProblem config.uri with
      | some problem => throw (.invalidInput ("invalid redis URI: " ++ problem.render))
      | none => throw (.operationFailed "redis_connect" "Connection refused (os error 111)")
    else throw (.featureNotEnabled "redis")
  | .bucket =>
    match bucketRootOfUri config.uri with
    | .ok root => pure (.bucket root)
    | .error e => throw e

def acquirePool (config : StoreConfig) : Act Nat := do
  let kind ← match config.backendKind with
    | .ok k => pure k
    | .error e => throw e
  match config.pool.validate kind with
  | .ok () => pure ()
  | .error e => throw e
  let key := config.poolKey
  match (← get).registry.find? (·.1 == key) with
  | some (_, id) => pure id
  | none =>
    let connection ← openConnection kind config
    Act.log .debug "kvbridge::storage::pool" "Opened pooled connection" ["backend"]
    let w ← get
    let id := w.pools.length
    let p : Pool := { key, connection }
    set { w with pools := w.pools ++ [p], registry := w.registry ++ [(key, id)] }
    Act.count "storage_pools_opened_total" [("backend", kind.name)] 1
    pure id

def openSqliteStore (config : StoreConfig) : Act Store := do
  let id ← acquirePool config
  match ((← get).pool id).connection with
  | .sqlite _ =>
    let spec : Sqlite.SchemaSpec :=
      { table := TableName.make none config.table, keyLength := config.keyLength,
        namespaceLength := config.namespaceLength }
    pure (Store.new (.sqlite { pool := id, spec, table := config.table }) config)
  | _ => throw (.invalidInput "pool handle is not a SQLite connection")

/-- Opens a document store: a bucket under the root directory of a `file:` URI, named
by the configured table. The bootstrap runs on first use. -/
def openDocumentStore (config : StoreConfig) : Act Store := do
  match config.backendKind with
  | .error e => throw e
  | .ok .bucket =>
    let id ← acquirePool config
    match ((← get).pool id).connection with
    | .bucket root =>
      match Bucket.Layout.make id root config.table with
      | .ok l => pure (Store.new (.bucket l) config)
      | .error e => throw e
    | _ => throw (.invalidInput "pool handle is not a bucket root")
  | .ok .collection =>
    if (← get).fullFeatures then
      discard (acquirePool config)
      throw (.invalidInput "pool handle is not a collection connection")
    else throw (.featureNotEnabled "redis")
  | .ok kind => throw (.invalidInput ("'" ++ kind.name ++ "' is not a document store URI"))

def openPostgresStore (config : StoreConfig) : Act Store := do
  let id ← acquirePool config
  match ((← get).pool id).connection with
  | .postgres _ =>
    pure (Store.new (.postgres { pool := id, spec := Postgres.SchemaSpec.ofConfig config, table := config.table }) config)
  | _ => throw (.invalidInput "pool handle is not a PostgreSQL pool")

end KvStore
