import KvStore.Postgres.ConnString
import KvStore.Config.Store
import KvStore.Text.Blank

namespace KvStore

namespace Postgres

def defaultMaxSize : Nat := 10

def checkSeconds (name raw : String) : Outcome Unit :=
  if (parseUnsigned (Text.trim raw) (Nat.pow 2 64)).isSome then .ok ()
  else .error (.invalidInput (name ++ " must be whole seconds, got '" ++ raw ++ "'"))

def checkDriverOption (name raw : String) : Outcome Unit :=
  match name with
  | "application_name" | "options" => .ok ()
  | "connect_timeout" | "keepalives_idle" => checkSeconds name raw
  | "keepalives" =>
    let v := Text.trim raw
    if ["1", "true", "on", "0", "false", "off"].contains v then .ok ()
    else .error (.invalidInput ("keepalives must be a boolean, got '" ++ v ++ "'"))
  | "target_session_attrs" =>
    let v := Text.trim raw
    if v == "any" || v == "read-write" then .ok ()
    else .error (.invalidInput ("unsupported target_session_attrs '" ++ v ++ "'"))
  | other => .error (.invalidInput ("driver option '" ++ other ++ "' is not supported by the postgres backend"))

def openPool (config : StoreConfig) : Outcome Nat := do
  let conn ← match ConnConfig.parse config.uri with
    | .ok c => pure c
    | .error () => throw (.invalidInput "invalid postgres URI: invalid connection string")
  config.pool.driverOptions.forM fun (name, raw) => checkDriverOption name raw
  match conn.dbname with
  | none =>
    throw (.operationFailed "postgres_create_pool" "Config: configuration property \"dbname\" not found")
  | some "" =>
    throw (.operationFailed "postgres_create_pool" "Config: configuration property \"dbname\" contains an empty string")
  | some _ => pure (config.pool.maxSize.getD defaultMaxSize)

/-- Why a direct connection to the server of a connection string fails: the text does
not read, the hosts are missing or do not pair up, or no server answers. -/
def connectFailure (uri : String) : String :=
  match ConnConfig.parse uri with
  | .error () => "invalid connection string"
  | .ok c => if c.configProblem then "invalid configuration" else "error connecting to server"

end Postgres

end KvStore
