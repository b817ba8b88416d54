import KvStore.Store.World
import KvStore.Store.Page
import KvStore.Postgres.Schema
import KvStore.Payload

namespace KvStore

namespace Postgres

/-- A connection to a PostgreSQL server. There is no server to connect to, so there is
no connection. -/
inductive ServerConnection : Type

structure PostgresBackend where
  pool : Nat
  spec : SchemaSpec
  table : String
  deriving Repr, Inhabited

namespace PostgresBackend

def connection (b : PostgresBackend) : Act ServerConnection := do
  let p := (← get).pool b.pool
  if p.closed then throw .disconnected
  match p.connection with
  | .postgres 0 =>
    throw (.operationFailed "postgres_get_client" "Timeout occurred while waiting for a slot to become available")
  | _ =>
    throw (.operationFailed "postgres_get_client" "Error occurred while creating a new object: error connecting to server")

def bootstrap (b : PostgresBackend) : Act Unit := do
  let c ← b.connection
  nomatch c

def getMany (b : PostgresBackend) (_ns : String) (_keys : List String) : Act (List (String × String)) := do
  let c ← b.connection
  nomatch c

def upsertMany (b : PostgresBackend) (_ns : String) (_entries : List StoredEntry) : Act Unit := do
  let c ← b.connection
  nomatch c

def delete (b : PostgresBackend) (_ns _key : String) : Act Bool := do
  let c ← b.connection
  nomatch c

def deleteMany (b : PostgresBackend) (_ns : String) (_keys : List String) : Act Nat := do
  let c ← b.connection
  nomatch c

def hasMany (b : PostgresBackend) (_ns : String) (_keys : List String) : Act (List String) := do
  let c ← b.connection
  nomatch c

def clearNamespace (b : PostgresBackend) (_ns : String) : Act Nat := do
  let c ← b.connection
  nomatch c

def clearExpired (b : PostgresBackend) (_now : Int) : Act Nat := do
  let c ← b.connection
  nomatch c

def page (b : PostgresBackend) (_ns : String) (_cursor : Option String) (_limit : Nat) : Act Page := do
  let c ← b.connection
  nomatch c

def debugText (w : World) (b : PostgresBackend) : String :=
  "PostgresBackend \x7b handle: " ++ (w.pool b.pool).debugText ++ ", spec: " ++ b.spec.debugText ++ ", .. \x7d"

end PostgresBackend

end Postgres

end KvStore
