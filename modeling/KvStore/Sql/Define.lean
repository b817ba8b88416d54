import KvStore.Sql.SchemaText
import KvStore.Sql.Trigger

namespace KvStore

namespace Sql

/-- Checks the name of a new table or view: names starting with `sqlite_` are reserved,
and no table, view or index may have it already. A table or view of that name is no
error under `IF NOT EXISTS`; the statement then does nothing. -/
def checkNewName (db : Database) (name : String) (nameAt : Nat) (ifNotExists : Bool) :
    Except SqlError Unit := do
  if (nameKey name).startsWith "sqlite_" then sqlFail ("object name reserved for internal use: " ++ name)
  if (db.findTable? name).isSome || db.hasView name then
    if ifNotExists then return ()
    throw { message := (if db.hasView name then "view " else "table ") ++ name ++ " already exists",
            offset := some nameAt }
  if (db.findIndex? name).isSome then sqlFail ("there is already an index named " ++ name)

def autoindexName (table : String) (n : Nat) : String :=
  "sqlite_autoindex_" ++ table ++ "_" ++ toString n

def columnCollation (spec : ColumnSpec) : Except SqlError Collation :=
  match spec.collation with
  | none => .ok .binary
  | some n =>
    match Collation.ofName? n with
    | some c => .ok c
    | none => sqlFail ("no such collation sequence: " ++ n)

def runCreateTable (db : Database) (sql name : String) (nameAt : Nat) (ifNotExists : Bool)
    (specs : List ColumnSpec) (constraints : List TableConstraint) (withoutRowid strict : Bool)
    (asQuery : Option Query) : Except SqlError StatementResult := do
  checkNewName db name nameAt ifNotExists
  if (db.findTable? name).isSome || db.hasView name then return { db }
  let (specs, fill) ← match asQuery with
    | some q => do
      let (q', cols) ← resolveQuery evalFuel db [] q
      let rows ← runQuery evalFuel { db } q'
      let typeOf : Affinity → String
        | .integer => "INT"
        | .real => "REAL"
        | .text => "TEXT"
        | .numeric => "NUM"
        | .blob => ""
      pure (cols.map (fun (n, a) => ({ name := n, declType := typeOf a } : ColumnSpec)), rows)
    | none => pure (specs, [])
  -- duplicate columns
  let mut seen : List String := []
  for c in specs do
    if seen.contains (nameKey c.name) then sqlFail ("duplicate column name: " ++ c.name)
    seen := seen ++ [nameKey c.name]
  let tablePks := constraints.filterMap fun | .primaryKey cs a => some (cs, a) | _ => none
  let columnPks := specs.filter (·.primaryKey)
  if tablePks.length + columnPks.length > 1 then
    sqlFail ("table \"" ++ name ++ "\" has more than one primary key")
  let (pkNames, pkAction) : List String × Option ConflictAction := match columnPks, tablePks with
    | [c], _ => ([c.name], c.primaryKeyAction)
    | _, [(cs, a)] => (cs, a)
    | _, _ => ([], none)
  for n in pkNames do
    unless specs.any (sameName ·.name n) do sqlFail ("no such column: " ++ n)
  if withoutRowid && pkNames.isEmpty then sqlFail ("PRIMARY KEY missing on table " ++ name)
  let columns ← specs.mapM fun c => do
    let pos := (pkNames.findIdx? (sameName · c.name)).map (· + 1) |>.getD 0
    pure ({ name := c.name, declType := c.declType, notNull := c.notNull || (withoutRowid && pos > 0),
            notNullAction := c.notNullAction, default := c.default, pk := pos,
            collation := ← columnCollation c, generated := c.generated } : Column)
  if strict then
    for c in columns do
      if let some msg := strictTypeError name c then sqlFail msg
  let rowidAlias : Option Nat := match pkNames with
    | [n] =>
      let i := specs.findIdx? (sameName ·.name n)
      let desc := (columnPks.head?.map (·.descending)).getD false
      match i with
      | some i =>
        if !withoutRowid && !desc && Parser.upper ((columns[i]?).map (·.declType) |>.getD "") == "INTEGER"
        then some i else none
      | none => none
    | _ => none
  let foreignKeys := specs.filterMap (fun c => c.references.map ([c.name], ·)) ++
    constraints.filterMap fun | .foreignKey cs spec => some (cs, spec) | _ => none
  for (cs, spec) in foreignKeys do
    if !spec.parentColumns.isEmpty && spec.parentColumns.length != cs.length then
      sqlFail "number of columns in foreign key does not match the number of columns in the referenced table"
  let indexOf (names : List String) : List IndexTerm :=
    names.filterMap fun n => (columns.findIdx? (sameName ·.name n)).map (IndexTerm.column · none)
  -- constraint indexes in the order they are written
  let wanted : List (List String × IndexOrigin × Option ConflictAction) :=
    specs.flatMap (fun c =>
      (if c.primaryKey then [([c.name], IndexOrigin.primaryKey, c.primaryKeyAction)] else []) ++
      (if c.unique then [([c.name], IndexOrigin.unique, c.uniqueAction)] else [])) ++
    constraints.filterMap fun
      | .primaryKey cs a => some (cs, .primaryKey, a)
      | .unique cs a => some (cs, .unique, a)
      | _ => none
  let mut indexes : List Index := []
  for (names, origin, action) in wanted do
    let isRowid := origin == .primaryKey && rowidAlias.isSome
    let terms := indexOf names
    let same := indexes.any fun i => i.terms.length == terms.length &&
      (i.terms.zip terms).all fun | (.column a _, .column b _) => a == b | _ => false
    unless isRowid || same do
      let i : Index := {
        name := autoindexName name (indexes.length + 1)
        table := name
        terms
        unique := true
        origin
        listed := !(withoutRowid && origin == .primaryKey)
        onConflict := action }
      indexes := indexes ++ [i]
  let checks := specs.flatMap (·.checks) ++ constraints.filterMap fun | .check c => some c | _ => none
  let t : Table := { name, columns, rowidAlias, withoutRowid, strict, checks, foreignKeys,
                     rowidAction := if rowidAlias.isSome then pkAction else none, sql }
  -- the conditions and generated columns name only the table's own columns
  let scope := [[tableSource t none]]
  for ck in checks do discard (resolveExpr evalFuel db scope ck.condition)
  for c in columns do
    if let some (e, _) := c.generated then discard (resolveExpr evalFuel db scope e)
  let db := indexes.foldl (fun d i => d.addObject (.index i)) (db.addObject (.table t))
  -- rows of CREATE TABLE ... AS
  let t' := { t with rows := (List.range fill.length).zip fill |>.map fun (i, vs) =>
    ⟨i + 1, (columns.zip vs).map fun (c, v) => v.withAffinity c.affinity⟩ }
  pure { db := db.putTable t' }

def runCreateIndex (db : Database) (sql name table : String) (unique ifNotExists : Bool)
    (terms : List Expr) (filter : Option Expr) : Except SqlError StatementResult := do
  if isSchemaTable table then sqlFail ("table " ++ table ++ " may not be indexed")
  let t ← match db.findTable? table with
    | some t => pure t
    | none =>
      if db.hasView table then sqlFail "views may not be indexed"
      else sqlFail ("no such table: " ++ table)
  if t.virtualModule.isSome then sqlFail "virtual tables may not be indexed"
  if (db.findTable? name).isSome || db.hasView name then
    sqlFail ("there is already a table named " ++ name)
  if (db.findIndex? name).isSome then
    if ifNotExists then return { db }
    sqlFail ("index " ++ name ++ " already exists")
  let scope := [[tableSource t none]]
  let resolved ← terms.mapM fun e => do
    -- a string names a column
    let e := match e with
      | .lit (.text s) => Expr.column none s false 0
      | e => e
    match ← resolveExpr evalFuel db scope e with
    | .bound 0 0 (some c) _ _ => pure (IndexTerm.column c none)
    | .collate (.bound 0 0 (some c) _ _) n => pure (IndexTerm.column c (Collation.ofName? n))
    | _ => pure (.expr e)
  if let some c := filter then discard (resolveExpr evalFuel db scope c)
  let i : Index :=
    { name, table := t.name, terms := resolved, unique, origin := .created, sql := some sql, filter }
  if unique then
    let mut keys : List (List (Value × Collation)) := []
    for r in t.scanRows do
      if !(← inIndex db t i r) then continue
      let k ← indexKey db t i r
      unless k.any (·.1.isNull) do
        if keys.any (keysEqual k) then sqlFail (uniqueFailure t i)
        keys := keys ++ [k]
  pure { db := db.addObject (.index i) }

/-- Creates a trigger: its table must exist, and be a table for `BEFORE` and `AFTER`
triggers and a view for `INSTEAD OF` ones. -/
def runCreateTrigger (db : Database) (sql name : String) (nameAt : Nat) (ifNotExists : Bool)
    (timing : TriggerTiming) (event : TriggerEvent) (table : String) (condition : Option Expr)
    (body : List Statement) : Except SqlError StatementResult := do
  let isTable := (db.findTable? table).isSome
  if !isTable && !db.hasView table then sqlFail ("no such table: main." ++ table)
  if (nameKey name).startsWith "sqlite_" then sqlFail ("object name reserved for internal use: " ++ name)
  if (db.findTrigger? name).isSome then
    if ifNotExists then return { db }
    throw { message := "trigger " ++ name ++ " already exists", offset := some nameAt }
  if (nameKey table).startsWith "sqlite_" then sqlFail "cannot create trigger on system table"
  if !isTable && timing != .insteadOf then
    sqlFail ("cannot create " ++ (if timing == .before then "BEFORE" else "AFTER") ++
      " trigger on view: main." ++ table)
  if isTable && timing == .insteadOf then
    sqlFail ("cannot create INSTEAD OF trigger on table: main." ++ table)
  let tableName := ((db.findTable? table).map (·.name)).getD table
  pure { db := db.addObject (.trigger { name, table := tableName, timing, event, condition, body, sql }) }

def fullTextShadows (name : String) (columnCount : Nat) : List Table :=
  let col (n : String) (ty : String := "") (pk : Nat := 0) : Column := { name := n, declType := ty, pk }
  [{ name := name ++ "_data", columns := [col "id" "INTEGER" 1, col "block" "BLOB"], rowidAlias := some 0,
     sql := "CREATE TABLE '" ++ name ++ "_data'(id INTEGER PRIMARY KEY, block BLOB)" },
   { name := name ++ "_idx", columns := [col "segid" "" 1, col "term" "" 2, col "pgno"],
     withoutRowid := true,
     sql := "CREATE TABLE '" ++ name ++ "_idx'(segid, term, pgno, PRIMARY KEY(segid, term)) WITHOUT ROWID" },
   { name := name ++ "_content",
     columns := col "id" "INTEGER" 1 :: (List.range columnCount).map (fun i => col ("c" ++ toString i)),
     rowidAlias := some 0,
     sql := "CREATE TABLE '" ++ name ++ "_content'(id INTEGER PRIMARY KEY" ++
       String.join ((List.range columnCount).map fun i => ", c" ++ toString i) ++ ")" },
   { name := name ++ "_docsize", columns := [col "id" "INTEGER" 1, col "sz" "BLOB"], rowidAlias := some 0,
     sql := "CREATE TABLE '" ++ name ++ "_docsize'(id INTEGER PRIMARY KEY, sz BLOB)" },
   { name := name ++ "_config", columns := [col "k" "" 1, col "v"], withoutRowid := true,
     sql := "CREATE TABLE '" ++ name ++ "_config'(k PRIMARY KEY, v) WITHOUT ROWID" }]

def runCreateVirtual (db : Database) (sql name moduleName : String) (args : List String)
    (ifNotExists : Bool) : Except SqlError StatementResult := do
  if (db.findTable? name).isSome || db.hasView name then
    if ifNotExists then return { db }
    sqlFail ("table " ++ name ++ " already exists")
  if nameKey moduleName != "fts5" then sqlFail ("no such module: " ++ moduleName)
  let names := (args.filter (fun a => !(a.toList.contains '='))).map fun a =>
    String.ofList (a.toList.takeWhile (fun c => c != ' ' && c != '\t'))
  let t : Table := { name, columns := names.map (fun n => { name := n }), virtualModule := some "fts5", sql }
  let db := (fullTextShadows name names.length).foldl (fun d s => d.addObject (.table s)) (db.addObject (.table t))
  pure { db }

def runDrop (db : Database) (kind : ObjectKind) (name : String) (ifExists : Bool) :
    Except SqlError StatementResult := do
  match kind with
  | .table =>
    if isSchemaTable name then sqlFail ("table " ++ name ++ " may not be dropped")
    match db.findTable? name with
    | some t =>
      let shadows := if t.virtualModule.isSome then
          ["_data", "_idx", "_content", "_docsize", "_config"].map (t.name ++ ·) else []
      let gone (o : SchemaObject) : Bool := match o with
        | .table u => sameName u.name t.name || shadows.any (sameName u.name ·)
        | .index i => sameName i.table t.name || shadows.any (sameName i.table ·)
        | .trigger tr => sameName tr.table t.name
        | .view _ _ _ => false
      let db ← emptyForDrop db t
      pure { db := db.removeWhere gone }
    | none =>
      if db.hasView name then sqlFail ("use DROP VIEW to delete view " ++ name)
      else if ifExists then pure { db }
      else sqlFail ("no such table: " ++ name)
  | .view =>
    if db.hasView name then
      pure { db := db.removeWhere fun
        | .view n _ _ => sameName n name
        | .trigger tr => sameName tr.table name
        | _ => false }
    else if (db.findTable? name).isSome then sqlFail ("use DROP TABLE to delete table " ++ name)
    else if ifExists then pure { db }
    else sqlFail ("no such view: " ++ name)
  | .index =>
    match db.findIndex? name with
    | some i =>
      if i.origin != .created then
        sqlFail "index associated with UNIQUE or PRIMARY KEY constraint cannot be dropped"
      else pure { db := db.removeWhere fun | .index j => sameName j.name name | _ => false }
    | none => if ifExists then pure { db } else sqlFail ("no such index: " ++ name)
  | .trigger =>
    if (db.findTrigger? name).isSome then
      pure { db := db.removeWhere fun | .trigger tr => sameName tr.name name | _ => false }
    else if ifExists then pure { db }
    else sqlFail ("no such trigger: " ++ name)

def runAddColumn (db : Database) (table : String) (spec : ColumnSpec) : Except SqlError StatementResult := do
  let t ← match db.findTable? table with
    | some t => pure t
    | none =>
      if db.hasView table then sqlFail "Cannot add a column to a view"
      else sqlFail ("no such table: " ++ table)
  if t.virtualModule.isSome then sqlFail "virtual tables may not be altered"
  if t.columns.any (sameName ·.name spec.name) then sqlFail ("duplicate column name: " ++ spec.name)
  if spec.primaryKey then sqlFail "Cannot add a PRIMARY KEY column"
  if spec.unique then sqlFail "Cannot add a UNIQUE column"
  let c : Column := {
    name := spec.name
    declType := spec.declType
    notNull := spec.notNull
    notNullAction := spec.notNullAction
    default := spec.default
    collation := ← columnCollation spec
    generated := spec.generated }
  let value ← defaultValue db c
  match spec.generated with
  | none =>
    if db.foreignKeys && spec.references.isSome && !value.isNull && !t.rows.isEmpty then
      sqlFail "Cannot add a REFERENCES column with non-NULL default value"
    if c.notNull && value.isNull && !t.rows.isEmpty then
      sqlFail "Cannot add a NOT NULL column with default value NULL"
  | some (_, stored) =>
    if stored && !t.rows.isEmpty then sqlFail "cannot add a STORED column"
  if t.strict then
    if let some msg := strictTypeError t.name c then
      sqlFail ("error in table " ++ t.name ++ " after add column: " ++ msg)
  let stored := value.withAffinity c.affinity
  let t' := { t with
    columns := t.columns ++ [c]
    checks := t.checks ++ spec.checks
    foreignKeys := t.foreignKeys ++ (spec.references.map fun r => [([spec.name], r)]).getD [] }
  let rows ← t.rows.mapM fun r => do
    let values ← computeGenerated db t' (r.values ++ [stored])
    pure { r with values }
  -- the rows already there must keep the table's rules
  let t' := { t' with rows }
  if !t'.checks.isEmpty || (c.notNull && c.generated.isSome) then
    for r in rows do
      if (← brokenCheck db t' r).isSome then sqlFail "CHECK constraint failed"
    for r in rows do
      if (t'.columns.zip r.values).any (fun (col, v) => col.notNull && v.isNull) then
        sqlFail "NOT NULL constraint failed"
  pure { db := db.putTable t' }

def renamedIndex (old new : String) (i : Index) : Index :=
  let prefixOld := "sqlite_autoindex_" ++ old ++ "_"
  let name := if i.origin != .created && i.name.startsWith prefixOld then
      "sqlite_autoindex_" ++ new ++ "_" ++ (i.name.drop prefixOld.length).toString
    else i.name
  { i with name, table := new }

def schemaObjectFailure (kind name : String) (e : SqlError) : SqlError :=
  { message := "error in " ++ kind ++ " " ++ name ++ ": " ++ e.inSchema.message }

def checkSchemaObjects (db : Database) : Except SqlError Unit := do
  for o in db.objects do
    match o with
    | .view n q _ =>
      if let .error e := resolveQuery evalFuel db [] q then throw (schemaObjectFailure "view" n e)
    | .trigger tr =>
      if let .error e := checkTrigger db tr then throw (schemaObjectFailure "trigger" tr.name e)
    | _ => pure ()

def runRenameTable (db : Database) (table newName : String) (quoted : Bool) :
    Except SqlError StatementResult := do
  let t ← match db.findTable? table with
    | some t => pure t
    | none =>
      if db.hasView table then sqlFail ("view " ++ table ++ " may not be altered")
      else sqlFail ("no such table: " ++ table)
  if (db.findTable? newName).isSome || db.hasView newName || (db.findIndex? newName).isSome then
    sqlFail ("there is already another table or index with this name: " ++ newName)
  if (nameKey newName).startsWith "sqlite_" then
    sqlFail ("object name reserved for internal use: " ++ newName)
  checkSchemaObjects db
  let rename (n : String) : String := if sameName n t.name then newName else n
  let objects := db.objects.map fun
    | .table u => .table { u with
        name := rename u.name
        sql := if sameName u.name t.name then renameTableText u.sql newName quoted else u.sql
        foreignKeys := u.foreignKeys.map fun (cs, spec) => (cs, { spec with parent := rename spec.parent }) }
    | .index i =>
      if sameName i.table t.name then
        .index { renamedIndex t.name newName i with sql := i.sql.map (renameTargetText · newName quoted) }
      else .index i
    | .trigger tr =>
      if sameName tr.table t.name then
        .trigger { tr with table := newName, sql := renameTargetText tr.sql newName quoted }
      else .trigger tr
    | o => o
  pure { db := { db with objects } }

def runRenameColumn (db : Database) (table old new : String) : Except SqlError StatementResult := do
  let t ← writableTable db table
  match t.columnIndex? old with
  | none => sqlFail ("no such column: \"" ++ old ++ "\"")
  | some i =>
    if t.columns.any (sameName ·.name new) then sqlFail ("duplicate column name: " ++ new)
    let columns := t.columns.set i { (t.columns[i]?).getD default with name := new }
    pure { db := db.putTable { t with columns } }

end Sql

end KvStore
