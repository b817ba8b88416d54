import KvStore.Sqlite.Open
import KvStore.Sql.Identifier
import KvStore.Text.Hex
import KvStore.Json.Write
import KvStore.Json.Read

namespace KvStore

namespace Session

def cellJson : Sql.Value → Json
  | .null => .null
  | .int i => Json.int i
  | .real x => .obj [("real", .str (FloatStyle.debug.render x))]
  | .text s => .str s
  | .blob b => .obj [("blob", .str (Hex.encodeBytes b))]

def rowJson (values : List Sql.Value) : Json := .arr (values.map cellJson)

def sqlErrorJson (e : Sql.ClientError) : Json :=
  .obj [("error", .str "Sqlite"), ("message", .str e.message)]

def sqliteDump (link : SqliteLink) (table : String) : Act Json := do
  let name := Sql.quoteIdentifier table
  let objects ← Sqlite.queryOn link "SELECT type, name, tbl_name FROM sqlite_master ORDER BY type, name" []
  let columns ← Sqlite.queryOn link ("PRAGMA table_info(" ++ name ++ ")") []
  let rows ← Sqlite.queryOn link ("SELECT * FROM " ++ name) []
  let listOf (r : Except Sql.ClientError (List Sql.ResultRow)) : Json :=
    match r with
    | .ok rs => .arr (rs.map (rowJson ·.values))
    | .error e => sqlErrorJson e
  let sortedRows := match rows with
    | .ok rs =>
      let texts := rs.map (fun r => (rowJson r.values).render)
      let sorted := (rs.zip texts).mergeSort (fun a b => decide (a.2 ≤ b.2))
      Json.arr (sorted.map (rowJson ·.1.values))
    | .error e => sqlErrorJson e
  pure (.obj [("columns", listOf columns), ("objects", listOf objects), ("rows", sortedRows)])

def fileDump (w : World) (path table : String) : Option Json :=
  match w.host.files.lookup (w.host.resolve path) with
  | .ok (some (.file _ _)) =>
    match Sqlite.openFile w path with
    | .ok (w, link) =>
      match (sqliteDump link table).run.run w with
      | (.ok j, _) => some j
      | (.error _, _) => none
    | .error _ => none
  | _ => none

def isInteger : Json → Bool
  | .num (.nat _) | .num (.negInt _) => true
  | _ => false

/-- The time of last use in an object's metadata, replaced by whether it is an integer:
the time itself differs from run to run. -/
def maskLastUse : Json → Json
  | .obj fields => .obj (fields.map fun (k, v) =>
    if k == "metadata" then
      match v with
      | .obj inner => (k, .obj (inner.map fun (m, x) => if m == "lastAccessed" then (m, .bool (isInteger x)) else (m, x)))
      | other => (k, other)
    else (k, v))
  | other => other

def fileText : FileData → String
  | .text content => content
  | .database _ => "SQLite format 3\x00"

def bucketEntryJson (path : String) : Entry → Json
  | .dir => .obj [("dir", .bool true), ("path", .str path)]
  | .file d _ =>
    let raw := Json.obj [("path", .str path), ("raw", .str (fileText d))]
    if path.endsWith ".json" then
      match Json.parse (fileText d) with
      | .ok j => .obj [("object", maskLastUse j), ("path", .str path)]
      | .error _ => raw
    else raw

def bucketDump (h : Host) (root : String) : Json :=
  let rootPath := h.resolve root
  match h.files.lookup rootPath with
  | .ok (some .dir) =>
    let all := (h.files.under rootPath).map fun (p, e) => ("/".intercalate p, p.getLast?.getD "", e)
    let hidden := all.filter fun (_, name, _) => name.startsWith "."
    let shown := (all.filter fun (_, name, _) => !name.startsWith ".").mergeSort
      fun a b => decide (a.1 ≤ b.1)
    .obj [("entries", .arr (shown.map fun (path, _, e) => bucketEntryJson path e)), ("exists", .bool true),
      ("hidden_files", Json.nat hidden.length)]
  | .ok (some (.file _ _)) => .obj [("dir", .bool false), ("exists", .bool true)]
  | _ => .obj [("exists", .bool false)]

end Session

end KvStore
