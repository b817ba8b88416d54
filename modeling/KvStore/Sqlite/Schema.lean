import KvStore.Sqlite.Open
import KvStore.Sql.Identifier

namespace KvStore

namespace Sqlite

structure SchemaSpec where
  table : TableName
  keyLength : Nat
  namespaceLength : Nat
  deriving Repr, Inhabited

namespace SchemaSpec

def createTableSql (s : SchemaSpec) (target : String) : String :=
  "CREATE TABLE IF NOT EXISTS " ++ target ++ " (\"key\" VARCHAR(" ++ toString s.keyLength ++
    ") NOT NULL, \"value\" TEXT, \"namespace\" VARCHAR(" ++ toString s.namespaceLength ++
    ") NOT NULL DEFAULT '', \"expires\" BIGINT)"

def debugText (s : SchemaSpec) : String :=
  "SchemaSpec \x7b table: " ++ s.table.debugText ++ ", key_length: " ++ toString s.keyLength ++
    ", namespace_length: " ++ toString s.namespaceLength ++ " \x7d"

end SchemaSpec

def occursIn (part whole : String) : Bool := (whole.splitOn part).length > 1

def isAlreadyApplied (message : String) : Bool :=
  occursIn "duplicate column name" message || occursIn "already exists" message ||
    occursIn "no such index" message

def tolerate (link : SqliteLink) (sql step : String) : Act Unit := do
  match ← batchOn link sql with
  | none => pure ()
  | some e =>
    if isAlreadyApplied e.message then
      Act.log .debug "kvbridge::storage::sqlite::schema" "Schema step already applied" ["step"]
    else throw (.operationFailed step e.message)

def tableColumns (link : SqliteLink) (table : String) : Act (List (String × Int)) := do
  let rows ← orFail "sqlite_table_info" (← queryOn link ("PRAGMA table_info(" ++ table ++ ")") [])
  rows.mapM fun r => do
    let name ← orFail "sqlite_table_info" (r.text 1)
    let pk ← orFail "sqlite_table_info" (r.integer 5)
    pure (name, pk)

/-- Uniqueness on `key` alone: unique indexes that can be dropped, and whether a
primary key or table constraint needs the table rebuilt. -/
structure KeyOnlyUniqueness where
  indexes : List String := []
  needsRebuild : Bool := false
  deriving Repr, Inhabited

def inspectKeyUniqueness (link : SqliteLink) (table : String) : Act KeyOnlyUniqueness := do
  let pk := ((← tableColumns link table).filter (·.2 > 0)).map (·.1)
  let rows ← orFail "sqlite_index_list" (← queryOn link ("PRAGMA index_list(" ++ table ++ ")") [])
  let indexes ← rows.mapM fun r => do
    let name ← orFail "sqlite_index_list" (r.text 1)
    let unique ← orFail "sqlite_index_list" (r.integer 2)
    let origin ← orFail "sqlite_index_list" (r.text 3)
    pure (name, unique, origin)
  let mut found : KeyOnlyUniqueness := { needsRebuild := pk == ["key"] }
  for (name, unique, origin) in indexes do
    if unique != 0 then
      let info ← orFail "sqlite_index_info"
        (← queryOn link ("PRAGMA index_info(" ++ Sql.quoteIdentifier name ++ ")") [])
      let columns ← info.mapM fun r => orFail "sqlite_index_info" (r.text 2)
      if columns == ["key"] then
        if origin == "c" then found := { found with indexes := found.indexes ++ [name] }
        else found := { found with needsRebuild := true }
  pure found

/-- Copies a table whose primary key or inline unique constraint is `key` alone into a
table of the current shape that takes its place; `false` when it needs no rebuild. -/
def copyIntoRebuilt (link : SqliteLink) (spec : SchemaSpec) : Act Bool := do
  let table := spec.table.qualified
  let staging := spec.table.derived "rebuild"
  if !(← inspectKeyUniqueness link table).needsRebuild then return false
  let hasExpires := (← tableColumns link table).any (·.1 == "expires")
  let expires := if hasExpires then "\"expires\"" else "NULL"
  Act.log .info "kvbridge::storage::sqlite::schema" "Rebuilding table with key-only primary key" ["table"]
  let sql := "DROP TABLE IF EXISTS " ++ staging ++ ";" ++ spec.createTableSql staging ++
    ";INSERT INTO " ++ staging ++ " (\"key\", \"value\", \"namespace\", \"expires\") " ++
    "SELECT \"key\", \"value\", COALESCE(\"namespace\", ''), " ++ expires ++ " FROM " ++ table ++
    ";DROP TABLE " ++ table ++ ";ALTER TABLE " ++ staging ++ " RENAME TO " ++
    Sql.quoteIdentifier spec.table.name ++ ";"
  match ← batchOn link sql with
  | some e => throw (.operationFailed "sqlite_rebuild_table" e.message)
  | none => pure true

/-- Rebuilds a table whose primary key or inline unique constraint is `key` alone,
inside one immediate transaction, which a failure rolls back. -/
def rebuildTable (link : SqliteLink) (spec : SchemaSpec) : Act Unit := do
  if !link.readable then throw (.operationFailed "sqlite_rebuild_begin" notADatabase.message)
  let before := (← get).database link.database
  if before.savepoint.isSome then
    throw (.operationFailed "sqlite_rebuild_begin" "cannot start a transaction within a transaction")
  modify (·.setDatabase link.database { before with savepoint := some before.objects })
  match ← Act.attempt (copyIntoRebuilt link spec) with
  | .ok true =>
    let db := (← get).database link.database
    modify (·.setDatabase link.database { db with savepoint := none })
  | .ok false => modify (·.setDatabase link.database before)
  | .error e =>
    modify (·.setDatabase link.database before)
    throw e

def dropKeyOnlyUniqueness (link : SqliteLink) (spec : SchemaSpec) : Act Unit := do
  let found ← inspectKeyUniqueness link spec.table.qualified
  for index in found.indexes do
    Act.log .info "kvbridge::storage::sqlite::schema" "Dropping key-only unique index" ["index"]
    tolerate link ("DROP INDEX IF EXISTS " ++ Sql.quoteIdentifier index) "sqlite_drop_key_index"
  if found.needsRebuild then rebuildTable link spec

def bootstrap (link : SqliteLink) (spec : SchemaSpec) : Act Unit := do
  let table := spec.table.qualified
  tolerate link (spec.createTableSql table) "sqlite_create_table"
  tolerate link ("ALTER TABLE " ++ table ++ " ADD COLUMN \"namespace\" VARCHAR(" ++
    toString spec.namespaceLength ++ ") NOT NULL DEFAULT ''") "sqlite_add_namespace"
  dropKeyOnlyUniqueness link spec
  tolerate link ("CREATE UNIQUE INDEX IF NOT EXISTS " ++ spec.table.derived "key_namespace_idx" ++
    " ON " ++ table ++ " (\"key\", \"namespace\")") "sqlite_create_key_namespace_index"
  tolerate link ("ALTER TABLE " ++ table ++ " ADD COLUMN \"expires\" BIGINT") "sqlite_add_expires"
  tolerate link ("CREATE INDEX IF NOT EXISTS " ++ spec.table.derived "expires_idx" ++ " ON " ++
    table ++ " (\"expires\")") "sqlite_create_expires_index"

end Sqlite

end KvStore
