import KvStore.Error

namespace KvStore

inductive BackendKind where
  | postgres
  | sqlite
  | collection
  | bucket
  deriving Repr, BEq, DecidableEq, Inhabited

def uriScheme (uri : String) : String :=
  let cs := uri.toList
  if cs.contains ':' then String.ofList ((cs.takeWhile (· != ':')).map Char.toLower) else ""

namespace BackendKind

def ofScheme : String → Option BackendKind
  | "postgres" | "postgresql" => some .postgres
  | "sqlite" => some .sqlite
  | "redis" | "rediss" => some .collection
  | "file" => some .bucket
  | _ => none

def ofUri (uri : String) : Outcome BackendKind :=
  let scheme := uriScheme uri
  match ofScheme scheme with
  | some k => .ok k
  | none => .error (.invalidInput ("unsupported connection scheme '" ++ scheme ++ "'"))

def name : BackendKind → String
  | .postgres => "postgres"
  | .sqlite => "sqlite"
  | .collection => "collection"
  | .bucket => "bucket"

def debugName : BackendKind → String
  | .postgres => "Postgres"
  | .sqlite => "Sqlite"
  | .collection => "Collection"
  | .bucket => "Bucket"

def allowedDriverOptions : BackendKind → List String
  | .postgres => ["application_name", "connect_timeout", "keepalives", "keepalives_idle",
      "options", "target_session_attrs"]
  | .sqlite => ["busy_timeout", "journal_mode", "synchronous"]
  | .collection | .bucket => []

end BackendKind

end KvStore
