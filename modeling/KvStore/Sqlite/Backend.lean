import KvStore.Sqlite.Schema
import KvStore.Store.Page
import KvStore.Payload

namespace KvStore

namespace Sqlite

def inChunk : Nat := 500

def placeholders (start count : Nat) : String :=
  ", ".intercalate ((List.range count).map fun i => "?" ++ toString (start + i))

def chunks {α : Type} (n : Nat) (xs : List α) : List (List α) :=
  go xs.length xs
where
  go : Nat → List α → List (List α)
    | 0, _ => []
    | _, [] => []
    | fuel + 1, xs => xs.take n :: go fuel (xs.drop (max n 1))

def inTransaction {α : Type} (link : SqliteLink) (operation : String) (body : Act α) : Act α := do
  if !link.readable then throw (.operationFailed operation notADatabase.message)
  let before := (← get).database link.database
  if before.savepoint.isSome then
    throw (.operationFailed operation "cannot start a transaction within a transaction")
  modify (·.setDatabase link.database { before with savepoint := some before.objects })
  match ← Act.attempt body with
  | .ok a =>
    let db := (← get).database link.database
    modify (·.setDatabase link.database { db with savepoint := none })
    pure a
  | .error e =>
    modify (·.setDatabase link.database before)
    throw e

def texts (xs : List String) : List Sql.Value := xs.map Sql.Value.text

/-- Runs `SELECT <columns> ... WHERE namespace = ?1 AND key IN (...)` over chunks of
the keys and reads each row. -/
def selectIn {α : Type} (link : SqliteLink) (table columns ns : String) (keys : List String)
    (operation : String) (readRow : Sql.ResultRow → Except Sql.ClientError α) : Act (List α) := do
  let mut out : List α := []
  for chunk in chunks inChunk keys do
    let sql := "SELECT " ++ columns ++ " FROM " ++ table ++ " WHERE \"namespace\" = ?1 AND \"key\" IN (" ++
      placeholders 2 chunk.length ++ ")"
    let rows ← orFail operation (← queryOn link sql (texts (ns :: chunk)))
    for r in rows do
      out := out ++ [← orFail operation (readRow r)]
  pure out

def keyValue (r : Sql.ResultRow) : Except Sql.ClientError (String × String) := do
  let k ← r.text 0
  let v ← r.optionalText 1
  pure (k, v.getD "")

def upsertSql (table : String) : String :=
  "INSERT INTO " ++ table ++ " (\"key\", \"value\", \"namespace\", \"expires\") " ++
    "VALUES (?1, ?2, ?3, ?4) ON CONFLICT(\"key\", \"namespace\") DO UPDATE SET " ++
    "\"value\" = excluded.\"value\", \"expires\" = excluded.\"expires\""

def upsertParams (ns : String) (e : StoredEntry) : List Sql.Value :=
  [.text e.key, .text e.value, .text ns, match e.expires with
    | some x => .int x
    | none => .null]

def deleteInSql (table : String) (count : Nat) : String :=
  "DELETE FROM " ++ table ++ " WHERE \"namespace\" = ?1 AND \"key\" IN (" ++ placeholders 2 count ++ ")"

structure SqliteBackend where
  pool : Nat
  spec : SchemaSpec
  table : String
  deriving Repr, Inhabited

namespace SqliteBackend

def qualified (b : SqliteBackend) : String := b.spec.table.qualified

def link (b : SqliteBackend) : Act SqliteLink := do
  match ((← get).pool b.pool).connection with
  | .sqlite (some l) => pure l
  | _ => throw .disconnected

def bootstrap (b : SqliteBackend) : Act Unit := do
  Sqlite.bootstrap (← b.link) b.spec

def getMany (b : SqliteBackend) (ns : String) (keys : List String) : Act (List (String × String)) := do
  selectIn (← b.link) b.qualified "\"key\", \"value\"" ns keys "sqlite_get_many" keyValue

def hasMany (b : SqliteBackend) (ns : String) (keys : List String) : Act (List String) := do
  selectIn (← b.link) b.qualified "\"key\"" ns keys "sqlite_has_many" (·.text 0)

def upsertMany (b : SqliteBackend) (ns : String) (entries : List StoredEntry) : Act Unit := do
  let link ← b.link
  inTransaction link "sqlite_upsert" do
    for e in entries do
      discard (orFail "sqlite_upsert" (← executeOn link (upsertSql b.qualified) (upsertParams ns e)))

def delete (b : SqliteBackend) (ns key : String) : Act Bool := do
  let sql := "DELETE FROM " ++ b.qualified ++ " WHERE \"key\" = ?1 AND \"namespace\" = ?2"
  let n ← orFail "sqlite_delete" (← executeOn (← b.link) sql (texts [key, ns]))
  pure (n > 0)

def deleteMany (b : SqliteBackend) (ns : String) (keys : List String) : Act Nat := do
  let link ← b.link
  inTransaction link "sqlite_delete_many" do
    let mut removed := 0
    for chunk in chunks inChunk keys do
      removed := removed +
        (← orFail "sqlite_delete_many" (← executeOn link (deleteInSql b.qualified chunk.length) (texts (ns :: chunk))))
    pure removed

def clearNamespace (b : SqliteBackend) (ns : String) : Act Nat := do
  let sql := "DELETE FROM " ++ b.qualified ++ " WHERE \"namespace\" = ?1"
  orFail "sqlite_clear" (← executeOn (← b.link) sql (texts [ns]))

def clearExpired (b : SqliteBackend) (now : Int) : Act Nat := do
  let sql := "DELETE FROM " ++ b.qualified ++ " WHERE \"expires\" IS NOT NULL AND \"expires\" < ?1"
  orFail "sqlite_clear_expired" (← executeOn (← b.link) sql [.int now])

def page (b : SqliteBackend) (ns : String) (cursor : Option String) (limit : Nat) : Act Page := do
  let link ← b.link
  let limit : Int := min limit maxI64
  let rows ← match cursor with
    | none =>
      orFail "sqlite_page" (← queryOn link ("SELECT \"key\", \"value\" FROM " ++ b.qualified ++
        " WHERE \"namespace\" = ?1 ORDER BY \"key\" LIMIT ?2") [.text ns, .int limit])
    | some c =>
      orFail "sqlite_page" (← queryOn link ("SELECT \"key\", \"value\" FROM " ++ b.qualified ++
        " WHERE \"namespace\" = ?1 AND \"key\" > ?2 ORDER BY \"key\" LIMIT ?3") [.text ns, .text c, .int limit])
  let entries ← rows.mapM fun r => orFail "sqlite_page" (keyValue r)
  pure (Page.ofEntries entries)

end SqliteBackend

end Sqlite

end KvStore
