import KvStore.Sqlite.Schema
import KvStore.Migration.Options
import KvStore.Migration.Report

namespace KvStore

namespace Sqlite

def legacyRows : String :=
  "(\"namespace\" IS NULL OR \"namespace\" = '') AND instr(\"key\", ':') > 1"

def conflictsSql (table : String) : String :=
  "SELECT m.\"key\" FROM " ++ table ++ " AS m " ++
  "WHERE (m.\"namespace\" IS NULL OR m.\"namespace\" = '') " ++
  "AND instr(m.\"key\", ':') > 1 " ++
  "AND EXISTS (" ++
  "SELECT 1 FROM " ++ table ++ " AS e " ++
  "WHERE e.\"namespace\" = substr(m.\"key\", 1, instr(m.\"key\", ':') - 1) " ++
  "AND e.\"key\" = substr(m.\"key\", instr(m.\"key\", ':') + 1)) " ++
  "ORDER BY m.\"key\""

def moveKeysSql (table : String) : String :=
  "UPDATE " ++ table ++ " SET " ++
  "\"namespace\" = substr(\"key\", 1, instr(\"key\", ':') - 1), " ++
  "\"key\" = substr(\"key\", instr(\"key\", ':') + 1) " ++
  "WHERE " ++ legacyRows

def selectMoves (link : SqliteLink) (sql operation : String) : Act (List KeyMove) := do
  let rows ← orFail operation (← queryOn link sql [])
  let keys ← rows.mapM fun r => orFail operation (r.text 0)
  pure (keys.filterMap KeyMove.ofLegacy?)

def openForMigration (uri : String) : Act SqliteLink := do
  match DatabaseLocation.ofUri uri with
  | .error e => throw e
  | .ok .memory =>
    let (w, link) := openMemory (← get)
    set w
    pure link
  | .ok (.file path) =>
    match openFile (← get) path with
    | .ok (w, link) =>
      set w
      pure link
    | .error e => throw (.operationFailed "sqlite_open" e.message)

def beginTransaction (link : SqliteLink) (operation : String) : Act Sql.Database := do
  if !link.readable then throw (.operationFailed operation notADatabase.message)
  let before := (← get).database link.database
  if before.savepoint.isSome then
    throw (.operationFailed operation "cannot start a transaction within a transaction")
  modify (·.setDatabase link.database { before with savepoint := some before.objects })
  pure before

def rollbackTo (link : SqliteLink) (before : Sql.Database) : Act Unit :=
  modify (·.setDatabase link.database before)

def commit (link : SqliteLink) : Act Unit := do
  let db := (← get).database link.database
  modify (·.setDatabase link.database { db with savepoint := none })

def migrationSpec (options : MigrationOptions) : SchemaSpec :=
  { table := TableName.make none options.table, keyLength := options.keyLength,
    namespaceLength := options.namespaceLength }

/-- The part of a run before its transaction: opens the database and brings the table
to its current shape. What it changes stays, whatever the run does next. -/
def setupMigration (uri : String) (options : MigrationOptions) : Act SqliteLink := do
  let link ← openForMigration uri
  bootstrap link (migrationSpec options)
  pure link

def listMoves (link : SqliteLink) (table : String) : Act MigrationReport := do
  let preview ← selectMoves link
    ("SELECT \"key\" FROM " ++ table ++ " WHERE " ++ legacyRows ++ " ORDER BY \"key\"")
    "sqlite_migrate_preview"
  let conflicts ← selectMoves link (conflictsSql table) "sqlite_migrate_conflicts"
  pure { preview, conflicts }

def prepareMigration (uri : String) (options : MigrationOptions) :
    Act (SqliteLink × Sql.Database × MigrationReport) := do
  let link ← setupMigration uri options
  let table := (migrationSpec options).table.qualified
  let before ← beginTransaction link "sqlite_migrate_begin"
  match ← Act.attempt (listMoves link table) with
  | .ok report =>
    for _ in report.preview do
      Act.log .debug "kvbridge::migration::sqlite" "Legacy key" ["rewrite"]
    pure (link, before, report)
  | .error e =>
    rollbackTo link before
    throw e

def logFinished : Act Unit :=
  Act.log .info "kvbridge::migration" "Legacy key migration finished"
    ["backend", "table", "preview", "conflicts", "applied", "rows_updated"]

/-- Decides a prepared run: rolls back a dry run or an empty one, refuses collisions,
and otherwise moves the keys and commits. -/
def finishMigration (link : SqliteLink) (before : Sql.Database) (report : MigrationReport)
    (table : String) (dryRun : Bool) : Act MigrationReport := do
  if dryRun || report.preview.isEmpty then
    rollbackTo link before
    logFinished
    return report
  if let some e := conflictError report.conflicts then
    rollbackTo link before
    throw e
  match ← executeOn link (moveKeysSql table) [] with
  | .ok n =>
    commit link
    logFinished
    pure { report with applied := true, rowsUpdated := n }
  | .error e =>
    rollbackTo link before
    throw (.operationFailed "sqlite_migrate_update" e.message)

def migrate (uri : String) (options : MigrationOptions) : StateM World MigrationRun := do
  match ← (prepareMigration uri options).run with
  | .error e => pure { previewSeen := none, result := .error e }
  | .ok (link, before, report) =>
    let table := (migrationSpec options).table.qualified
    let result ← (finishMigration link before report table options.dryRun).run
    pure { previewSeen := some report, result }

end Sqlite

end KvStore
