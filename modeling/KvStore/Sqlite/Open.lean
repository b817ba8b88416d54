import KvStore.Store.World
import KvStore.Sql.Connection
import KvStore.Backend.Uri
import KvStore.Config.Store
import KvStore.Text.Blank

namespace KvStore

namespace Sqlite

def notADatabase : Sql.ClientError := .engine "file is not a database"

def cannotOpen (path : String) : Sql.ClientError := .engine ("unable to open database file: " ++ path)

/-- Opens the database in a file, creating an empty one when the file is missing. The
connection knows the file by its absolute path. -/
def openFile (w : World) (path : String) : Except Sql.ClientError (World × SqliteLink) :=
  let h := w.host.tick
  let w := { w with host := h }
  let p := h.resolve path
  match h.files.lookup p with
  | .error _ => .error (cannotOpen path)
  | .ok (some .dir) => .error (cannotOpen path)
  | .ok (some (.file (.database id) _)) => .ok (w, { database := id, path := p.text })
  | .ok (some (.file (.text content) _)) =>
    let (w, id) := w.newDatabase
    if content.isEmpty then
      let files := h.files.put p (.file (.database id) h.clock)
      .ok ({ w with host := { h with files } }, { database := id, path := p.text })
    else .ok (w, { database := id, path := p.text, readable := false })
  | .ok none =>
    match h.files.checkParent p with
    | .error _ => .error (cannotOpen path)
    | .ok () =>
      let (w, id) := w.newDatabase
      let files := h.files.put p (.file (.database id) h.clock)
      .ok ({ w with host := { h with files } }, { database := id, path := p.text })

def openMemory (w : World) : World × SqliteLink :=
  let (w, id) := w.newDatabase
  (w, { database := id, path := "" })

def onLink {α : Type} (link : SqliteLink) (call : Sql.Database → Sql.Database × Except Sql.ClientError α) :
    Act (Except Sql.ClientError α) := do
  if !link.readable then return .error notADatabase
  let w ← get
  let (db, r) := call (w.database link.database)
  set (w.setDatabase link.database db)
  pure r

def batchOn (link : SqliteLink) (sql : String) : Act (Option Sql.ClientError) := do
  if !link.readable then return some notADatabase
  let w ← get
  let (db, err) := Sql.executeBatch (w.database link.database) sql
  set (w.setDatabase link.database db)
  pure err

def executeOn (link : SqliteLink) (sql : String) (params : List Sql.Value) :
    Act (Except Sql.ClientError Nat) :=
  onLink link fun db => Sql.execute db sql params

def queryOn (link : SqliteLink) (sql : String) (params : List Sql.Value) :
    Act (Except Sql.ClientError (List Sql.ResultRow)) :=
  onLink link fun db => Sql.queryRows db sql params

def orFail {α : Type} (operation : String) (r : Except Sql.ClientError α) : Act α :=
  match r with
  | .ok a => pure a
  | .error e => throw (.operationFailed operation e.message)

def parseU64 (s : String) : Option Nat :=
  let digits := match s.toList with
    | '+' :: rest => rest
    | cs => cs
  if digits.isEmpty || !digits.all Char.isDigit then none
  else
    let n := digits.foldl (fun acc c => acc * 10 + (c.toNat - '0'.toNat)) 0
    if n ≤ maxU64 then some n else none

/-- Applies the connection settings of the driver options. An explicit journal mode or
synchronous level must be applicable; the busy timeout must be a number of
milliseconds. -/
def configure (link : SqliteLink) (options : List (String × String)) : Act Unit := do
  let lookup (k : String) := (options.find? (·.1 == k)).map (·.2)
  if (lookup "journal_mode").isSome && !link.readable then
    throw (.operationFailed "sqlite_journal_mode" notADatabase.message)
  if (lookup "synchronous").isSome && !link.readable then
    throw (.operationFailed "sqlite_synchronous" notADatabase.message)
  match lookup "busy_timeout" with
  | some raw =>
    if (parseU64 (Text.trim raw)).isNone then
      throw (.invalidInput ("busy_timeout must be milliseconds, got '" ++ raw ++ "'"))
  | none => pure ()

def createParentDir (path : String) : Act Unit := do
  match PathText.parent? path with
  | some parent =>
    if !parent.isEmpty then
      let h ← Act.host
      match h.files.createDirAll (h.resolve parent) with
      | .ok files => Act.setHost { h with files }
      | .error e => throw (.operationFailed "sqlite_create_dir" e.message)
  | none => pure ()

def openPath (path : String) : Act SqliteLink := do
  match openFile (← get) path with
  | .ok (w, link) =>
    set w
    pure link
  | .error e => throw (.operationFailed "sqlite_open" e.message)

def openLocation : DatabaseLocation → Act SqliteLink
  | .memory => do
    let (w, link) := openMemory (← get)
    set w
    pure link
  | .file path => do
    createParentDir path
    openPath path

def openShared (config : StoreConfig) : Act SqliteLink := do
  let location ← liftExcept (DatabaseLocation.ofUri config.uri)
  let link ← openLocation location
  configure link config.pool.driverOptions
  pure link
where
  liftExcept {α : Type} (r : Outcome α) : Act α :=
    match r with
    | .ok a => pure a
    | .error e => throw e

end Sqlite

end KvStore
