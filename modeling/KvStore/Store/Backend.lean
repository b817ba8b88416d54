import KvStore.Sqlite.Backend
import KvStore.Bucket.Layout
import KvStore.Postgres.Backend

namespace KvStore

inductive Backend where
  | sqlite (b : Sqlite.SqliteBackend)
  | bucket (l : Bucket.Layout)
  | postgres (b : Postgres.PostgresBackend)
  deriving Repr, Inhabited

namespace Backend

def name : Backend → String
  | .sqlite _ => "sqlite"
  | .bucket _ => "bucket"
  | .postgres _ => "postgres"

def table : Backend → String
  | .sqlite b => b.table
  | .bucket l => l.bucket
  | .postgres b => b.table

def pool : Backend → Nat
  | .sqlite b => b.pool
  | .bucket l => l.pool
  | .postgres b => b.pool

def bootstrap : Backend → Act Unit
  | .sqlite b => b.bootstrap
  | .bucket l => l.bootstrap
  | .postgres b => b.bootstrap

def getMany : Backend → String → List String → Act (List (String × String))
  | .sqlite b => b.getMany
  | .bucket l => l.getMany
  | .postgres b => b.getMany

def upsertMany : Backend → String → List StoredEntry → Act Unit
  | .sqlite b => b.upsertMany
  | .bucket l => l.upsertMany
  | .postgres b => b.upsertMany

def delete : Backend → String → String → Act Bool
  | .sqlite b => b.delete
  | .bucket l => l.delete
  | .postgres b => b.delete

def deleteMany : Backend → String → List String → Act Nat
  | .sqlite b => b.deleteMany
  | .bucket l => l.deleteMany
  | .postgres b => b.deleteMany

def hasMany : Backend → String → List String → Act (List String)
  | .sqlite b => b.hasMany
  | .bucket l => l.hasMany
  | .postgres b => b.hasMany

def clearNamespace : Backend → String → Act Nat
  | .sqlite b => b.clearNamespace
  | .bucket l => l.clearNamespace
  | .postgres b => b.clearNamespace

def clearExpired : Backend → Int → Act Nat
  | .sqlite b => b.clearExpired
  | .bucket l => l.clearExpired
  | .postgres b => b.clearExpired

def page : Backend → String → Option String → Nat → Act Page
  | .sqlite b => b.page
  | .bucket l => l.page
  | .postgres b => b.page

end Backend

end KvStore
