import KvStore.Sql.Trigger

namespace KvStore

namespace Sql

/-- An upsert resolved against its table: the key it names, and for `DO UPDATE` the
assignments (by column position) and their condition. -/
structure UpsertPlan where
  target : ConflictTarget
  update : Option (List (Nat × Expr) × Option Expr)
  deriving Inhabited

/-- What a write statement did: the database after it, the rows it changed, and the
failure that stopped it when that failure keeps the rows written before it. -/
structure Written where
  db : Database
  changes : Nat := 0
  stoppedBy : Option SqlError := none
  deriving Inhabited

def rowidOf (t : Table) (values : List Value) (fallback : Int) : Int :=
  match t.rowidAlias.bind (values[·]?) with
  | some (.int i) => i
  | _ => fallback

/-- Applies the foreign keys that refer to table `p` after its row `old` went (`new`
is `none`) or became `new` by a write that set the columns `changed`. A key the parent
row kept is passed over. An action runs its statement on the child table as a trigger
of the parent row would, its conflicts aborting; a key whose action only refuses fails
the write while a child row names the old key. -/
def applyKeyActions (run : StepRunner) (inv : Invocation) (db : Database) (p : Table) (old : Row)
    (new : Option Row) (changed : Option (List Nat)) : Except SqlError Database := do
  if !db.foreignKeys then return db
  let mut db := db
  for fk in db.referencing p.name do
    if !(changed.map (fk.parentChanged p)).getD true then continue
    let pk ← fk.locate db
    if (new.map (pk.kept old)).getD false then continue
    match fk.actionStatement pk new.isSome with
    | some stmt =>
      let (sources, rows) := rowSources p (some old) new
      db ← run { sources, rows, active := inv.active, action := some .abort } db stmt
    | none => db ← applyForeignKey db fk pk old new
  pure db

/-- Rewrites the stored row `old` of a table with `values`, where the statement set the
columns `changed`. Gives the database and the number of rows changed. -/
def updateRow (run : StepRunner) (inv : Invocation) (db : Database) (table : String) (old : Row)
    (values : List Value) (changed : List Nat) (action : Option ConflictAction) :
    Except SqlError (Database × Nat) := do
  let t ← tableNow db table
  let values ← conformRow t values
  let values ← computeGenerated db t values
  let write := TriggerEvent.update (changed.filterMap fun c => (t.columns[c]?).map (·.name))
  let (db, skip) ← fireTriggers run inv db t .before write action (some old)
    (some ⟨rowidOf t values old.rowid, values⟩)
  if skip then return (db, 0)
  let t ← tableNow db table
  let some current := t.rowById? old.rowid | return (db, 0)
  -- the columns the statement did not set take what the triggers left in the row
  let values := (List.range t.columns.length).map fun i =>
    if changed.contains i then (values[i]?).getD .null else (current.values[i]?).getD .null
  let values ← computeGenerated db t values
  let some values ← applyNotNull db t action (some changed) values | return (db, 0)
  let row : Row := ⟨rowidOf t values old.rowid, values⟩
  if let some msg ← brokenCheck db t row then
    match ConflictAction.resolve action none with
    | .ignore => return (db, 0)
    | .replace => constraintFail .abort msg
    | a => constraintFail a msg
  match ← resolveKeys db t row (some old.rowid) action none with
  | .clear cleared =>
    let t := cleared.replaceRow row old.rowid
    let db := db.putTable t
    checkChildKeys db t row (some changed)
    let db ← applyKeyActions run inv db t current (some row) (some changed)
    let (db, _) ← fireTriggers run inv db t .after write action (some current) (some row)
    pure (db, 1)
  | _ => pure (db, 0)

/-- Writes one new row of a table from its values, one per column. Gives the database
and the number of rows changed. -/
def insertRow (run : StepRunner) (inv : Invocation) (db : Database) (params : List Value)
    (table : String) (values : List Value) (action : Option ConflictAction)
    (plan : Option UpsertPlan) : Except SqlError (Database × Nat) := do
  let t ← tableNow db table
  let values ← conformRow t values
  let values ← computeGenerated db t values
  let (db, skip) ← fireTriggers run inv db t .before .insert action none (some ⟨rowidOf t values (-1), values⟩)
  if skip then return (db, 0)
  let t ← tableNow db table
  let (rowid, values) ← assignRowid t values
  let some values ← applyNotNull db t action none values | return (db, 0)
  let row : Row := ⟨rowid, values⟩
  if let some msg ← brokenCheck db t row then
    match ConflictAction.resolve action none with
    | .ignore => return (db, 0)
    | .replace => constraintFail .abort msg
    | a => constraintFail a msg
  match ← resolveKeys db t row none action (plan.map (·.target)) with
  | .skip => pure (db, 0)
  | .upsert existing =>
    match plan.bind (·.update) with
    | none => pure (db, 0)
    | some (sets, cond) =>
      let env := inv.env db params [[existing], [row]]
      if let some c := cond then
        if (← eval evalFuel env none c).truth? != some true then return (db, 0)
      let mut values := existing.values
      for (col, e) in sets do
        values := values.set col (← eval evalFuel env none e)
      updateRow run inv db table existing values (sets.map (·.1)) (some .abort)
  | .clear cleared =>
    let t := { cleared with rows := cleared.rows ++ [row] }
    let db := db.putTable t
    checkChildKeys db t row none
    let (db, _) ← fireTriggers run inv db t .after .insert action none (some row)
    pure (db, 1)

def deleteRow (run : StepRunner) (inv : Invocation) (db : Database) (table : String) (rowid : Int)
    (action : Option ConflictAction) : Except SqlError (Database × Nat) := do
  let t ← tableNow db table
  let some row := t.rowById? rowid | return (db, 0)
  let (db, skip) ← fireTriggers run inv db t .before .delete action (some row) none
  if skip then return (db, 0)
  let t ← tableNow db table
  let some row := t.rowById? rowid | return (db, 0)
  let t := t.removeRows [row]
  let db := db.putTable t
  let db ← applyKeyActions run inv db t row none none
  let (db, _) ← fireTriggers run inv db t .after .delete action (some row) none
  pure (db, 1)

def insertTargets (t : Table) (columns : Option (List String)) : Except SqlError (List Nat) :=
  match columns with
  | some names => names.mapM fun n => match t.columnIndex? n with
    | some i =>
      match (t.columns[i]?).bind (·.generated) with
      | some _ => sqlFail ("cannot INSERT into generated column \"" ++ ((t.columns[i]?).map (·.name)).getD n ++ "\"")
      | none => pure i
    | none => sqlFail ("table " ++ t.name ++ " has no column named " ++ n)
  | none => pure (((List.range t.columns.length).zip t.columns).filterMap fun (i, c) =>
      if c.generated.isSome then none else some i)

def resolveAssignments (db : Database) (t : Table) (scope : List (List Source))
    (sets : List (String × Expr)) : Except SqlError (List (Nat × Expr)) :=
  sets.mapM fun (n, e) => do
    match t.columnIndex? n with
    | some i =>
      if ((t.columns[i]?).bind (·.generated)).isSome then
        sqlFail ("cannot UPDATE generated column \"" ++ ((t.columns[i]?).map (·.name)).getD n ++ "\"")
      pure (i, ← resolveExpr evalFuel db scope e)
    | none => sqlFail ("no such column: " ++ n)

def planUpsert (db : Database) (inv : Invocation) (t : Table) (asName : Option String) (u : Upsert) :
    Except SqlError UpsertPlan := do
  let target ← if u.target.isEmpty then pure ConflictTarget.anyKey
    else
      match (uniqueIndexes db t).find? (indexMatches t · u.target) with
      | some i => pure (.index i.name)
      | none =>
        if u.target.length == 1 &&
            (t.rowidAlias.bind (t.columns[·]?)).any (sameName ·.name (u.target.headD "")) then
          pure .rowid
        else sqlFail "ON CONFLICT clause does not match any PRIMARY KEY or UNIQUE constraint"
  let scope := [tableSource t asName] :: [excludedSource t] :: inv.scope
  let update ← u.update.mapM fun (sets, cond) => do
    pure (← resolveAssignments db t scope sets, ← cond.mapM (resolveExpr evalFuel db scope))
  pure { target, update }

def runInsert (run : StepRunner) (inv : Invocation) (db : Database) (params : List Value)
    (table : String) (asName : Option String) (columns : Option (List String)) (source : InsertSource)
    (own : Option ConflictAction) (upsert : Option Upsert) : Except SqlError Written := do
  let t ← writableTable db table
  let action := inv.actionFor own
  let targets ← insertTargets t columns
  let env := inv.env db params []
  -- names are resolved and counts checked before anything is evaluated
  let (evaluate, widths) ← match source with
    | .rows rows => do
      let rows' ← rows.mapM (·.mapM (resolveExpr evalFuel db inv.scope))
      pure (rows'.mapM (·.mapM (eval evalFuel env none)), rows'.map (·.length))
    | .query q => do
      let (q', cols) ← resolveQuery evalFuel db inv.scope q
      pure (runQuery evalFuel env q', [cols.length])
    | .defaults => pure (pure [[]], [])
  let width := targets.length
  for w in widths do
    if w != width then
      match columns with
      | some _ => sqlFail (toString w ++ " values for " ++ toString width ++ " columns")
      | none => sqlFail ("table " ++ t.name ++ " has " ++ toString width ++ " columns but " ++
          toString w ++ " values were supplied")
  let plan ← upsert.mapM (planUpsert db inv t asName)
  -- the triggers and foreign keys the insert may need, in the order they are met
  prepareTriggers triggerDepth db inv.active t.name .before .insert
  if let some (sets, _) := plan.bind (·.update) then
    let changed := sets.map (·.1)
    let write := TriggerEvent.update (changed.filterMap fun c => (t.columns[c]?).map (·.name))
    prepareTriggers triggerDepth db inv.active t.name .before write
    prepareForeignKeys db t (some changed) true
    prepareTriggers triggerDepth db inv.active t.name .after write
  prepareForeignKeys db t none false
  prepareTriggers triggerDepth db inv.active t.name .after .insert
  let rows ← evaluate
  let mut db := db
  let mut changes := 0
  for r in rows do
    let t ← tableNow db t.name
    let mut values : List Value := []
    for (i, c) in (List.range t.columns.length).zip t.columns do
      match targets.findIdx? (· == i) with
      | some k => values := values ++ [(r[k]?).getD .null]
      | none =>
        let v ← if c.generated.isSome then pure .null else defaultValue db c
        values := values ++ [v]
    match insertRow run inv db params t.name values action plan with
    | .ok (db', n) =>
      db := db'
      changes := changes + n
    | .error e => if e.undo == .nothing then return { db, changes, stoppedBy := some e } else throw e
  pure { db, changes }

def runUpdate (run : StepRunner) (inv : Invocation) (db : Database) (params : List Value)
    (table : String) (asName : Option String) (own : Option ConflictAction)
    (sets : List (String × Expr)) (filter : Option Expr) : Except SqlError Written := do
  let t ← writableTable db table
  let action := inv.actionFor own
  let scope := [tableSource t asName] :: inv.scope
  let sets' ← resolveAssignments db t scope sets
  let filter' ← filter.mapM (resolveExpr evalFuel db scope)
  let changed := sets'.map (·.1)
  let write := TriggerEvent.update (changed.filterMap fun c => (t.columns[c]?).map (·.name))
  prepareTriggers triggerDepth db inv.active t.name .before write
  prepareForeignKeys db t (some changed) true
  prepareTriggers triggerDepth db inv.active t.name .after write
  let hits ← t.scanRows.filterM fun r => do
    match filter' with
    | some c => pure ((← eval evalFuel (inv.env db params [[r]]) none c).truth? == some true)
    | none => pure true
  let mut db := db
  let mut changes := 0
  for hit in hits do
    let t ← tableNow db t.name
    let some current := t.rowById? hit.rowid | continue
    let env := inv.env db params [[current]]
    let mut values := current.values
    for (i, e) in sets' do
      values := values.set i (← eval evalFuel env none e)
    match updateRow run inv db t.name current values changed action with
    | .ok (db', n) =>
      db := db'
      changes := changes + n
    | .error e => if e.undo == .nothing then return { db, changes, stoppedBy := some e } else throw e
  pure { db, changes }

def runDelete (run : StepRunner) (inv : Invocation) (db : Database) (params : List Value)
    (table : String) (asName : Option String) (filter : Option Expr) : Except SqlError Written := do
  let t ← writableTable db table
  let filter' ← filter.mapM (resolveExpr evalFuel db ([tableSource t asName] :: inv.scope))
  prepareTriggers triggerDepth db inv.active t.name .before .delete
  prepareForeignKeys db t none true
  prepareTriggers triggerDepth db inv.active t.name .after .delete
  let doomed ← t.scanRows.filterM fun r => do
    match filter' with
    | some c => pure ((← eval evalFuel (inv.env db params [[r]]) none c).truth? == some true)
    | none => pure true
  let mut db := db
  let mut changes := 0
  for r in doomed do
    match deleteRow run inv db t.name r.rowid inv.action with
    | .ok (db', n) =>
      db := db'
      changes := changes + n
    | .error e => if e.undo == .nothing then return { db, changes, stoppedBy := some e } else throw e
  pure { db, changes }

end Sql

end KvStore
