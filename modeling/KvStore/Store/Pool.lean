import KvStore.Config.Backend
import KvStore.Text.Quoted

namespace KvStore

/-- The identity of a pooled connection: the URI and the text of the pool options. -/
structure PoolKey where
  uri : String
  options : String
  deriving Repr, BEq, DecidableEq, Inhabited

/-- An open SQLite connection: the database it reads and writes (its number in the
world's catalog), the file path it was opened with (`""` for memory), and whether the
file holds a database at all. -/
structure SqliteLink where
  database : Nat
  path : String
  readable : Bool := true
  deriving Repr, BEq, Inhabited

inductive PoolConnection where
  | sqlite (link : Option SqliteLink)
  | bucket (root : String)
  /-- A PostgreSQL pool of at most `maxSize` connections, which reaches no server. -/
  | postgres (maxSize : Nat)
  deriving Repr, BEq, Inhabited

def PoolConnection.kind : PoolConnection → BackendKind
  | .sqlite _ => .sqlite
  | .bucket _ => .bucket
  | .postgres _ => .postgres

/-- A pool: its key, its connection, and whether it was released. -/
structure Pool where
  key : PoolKey
  connection : PoolConnection
  closed : Bool := false
  deriving Repr, Inhabited

def PoolConnection.close : PoolConnection → PoolConnection
  | .sqlite _ => .sqlite none
  | c => c

def Pool.close (p : Pool) : Pool := { p with closed := true, connection := p.connection.close }

def Pool.ensureOpen (p : Pool) : Outcome Unit := if p.closed then .error .disconnected else .ok ()

namespace PoolKey

def debugText (k : PoolKey) : String :=
  "PoolKey \x7b uri: \"<redacted>\", options: " ++ Text.quoted k.options ++ " \x7d"

end PoolKey

def Pool.debugText (p : Pool) : String :=
  "PoolHandle \x7b key: " ++ p.key.debugText ++ ", kind: " ++ p.connection.kind.debugName ++
    ", closed: " ++ toString p.closed ++ " \x7d"

end KvStore
