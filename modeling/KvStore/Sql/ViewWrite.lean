import KvStore.Sql.Write

namespace KvStore

namespace Sql

/-- Whether the write `write` on the view `name` is made by `INSTEAD OF` triggers: the
view has one for it. -/
def Database.writesThroughView (db : Database) (name : String) (write : TriggerEvent) : Bool :=
  (db.findTable? name).isNone && db.hasView name && !(db.firing [] name .insteadOf write).isEmpty

def runViewInsert (run : StepRunner) (inv : Invocation) (db : Database) (params : List Value)
    (table : String) (columns : Option (List String)) (source : InsertSource)
    (own : Option ConflictAction) (upsert : Option Upsert) : Except SqlError Written := do
  let t ← viewTable db table
  let action := inv.actionFor own
  let targets ← insertTargets t columns
  let env := inv.env db params []
  let (evaluate, widths) ← match source with
    | .rows rows => do
      let rows' ← rows.mapM (·.mapM (resolveExpr evalFuel db inv.scope))
      pure (rows'.mapM (·.mapM (eval evalFuel env none)), rows'.map (·.length))
    | .query q => do
      let (q', cols) ← resolveQuery evalFuel db inv.scope q
      pure (runQuery evalFuel env q', [cols.length])
    | .defaults => pure (pure [[]], [])
  let width := targets.length
  for w in widths do
    if w != width then
      match columns with
      | some _ => sqlFail (toString w ++ " values for " ++ toString width ++ " columns")
      | none => sqlFail ("table " ++ t.name ++ " has " ++ toString width ++ " columns but " ++
          toString w ++ " values were supplied")
  if upsert.isSome then sqlFail "cannot UPSERT a view"
  prepareTriggers triggerDepth db inv.active t.name .insteadOf .insert
  let rows ← evaluate
  let mut db := db
  let mut changes : Nat := 0
  for r in rows do
    let values := (List.range t.columns.length).map fun i =>
      match targets.findIdx? (· == i) with
      | some k => (r[k]?).getD .null
      | none => .null
    match fireTriggers run inv db t .insteadOf .insert action none (some ⟨(changes + 1 : Nat), values⟩) with
    | .ok (db', _) =>
      db := db'
      changes := changes + 1
    | .error e => if e.undo == .nothing then return { db, changes, stoppedBy := some e } else throw e
  pure { db, changes }

def viewRows (db : Database) (name : String) : Except SqlError (List Row) := do
  let some q := db.findView? name | sqlFail ("no such table: " ++ name)
  let (q', _) ← (resolveQuery evalFuel db [] q).mapError SqlError.inSchema
  let values ← runQuery evalFuel { db } q'
  pure ((List.range values.length).zip values |>.map fun (i, vs) => ⟨i + 1, vs⟩)

def viewRowsWhere (inv : Invocation) (db : Database) (params : List Value) (t : Table)
    (filter : Option Expr) : Except SqlError (List Row) := do
  (← viewRows db t.name).filterM fun r => do
    match filter with
    | some c => pure ((← eval evalFuel (inv.env db params [[r]]) none c).truth? == some true)
    | none => pure true

def runViewUpdate (run : StepRunner) (inv : Invocation) (db : Database) (params : List Value)
    (table : String) (asName : Option String) (own : Option ConflictAction)
    (sets : List (String × Expr)) (filter : Option Expr) : Except SqlError Written := do
  let t ← viewTable db table
  let action := inv.actionFor own
  let scope := [tableSource t asName] :: inv.scope
  let sets' ← resolveAssignments db t scope sets
  let filter' ← filter.mapM (resolveExpr evalFuel db scope)
  let write := TriggerEvent.update (sets'.filterMap fun (c, _) => (t.columns[c]?).map (·.name))
  prepareTriggers triggerDepth db inv.active t.name .insteadOf write
  let hits ← viewRowsWhere inv db params t filter'
  let mut db := db
  let mut changes := 0
  for hit in hits do
    let env := inv.env db params [[hit]]
    let mut values := hit.values
    for (i, e) in sets' do
      let v ← eval evalFuel env none e
      values := values.set i (v.withAffinity (((t.columns[i]?).map (·.affinity)).getD .blob))
    match fireTriggers run inv db t .insteadOf write action (some hit) (some ⟨hit.rowid, values⟩) with
    | .ok (db', _) =>
      db := db'
      changes := changes + 1
    | .error e => if e.undo == .nothing then return { db, changes, stoppedBy := some e } else throw e
  pure { db, changes }

def runViewDelete (run : StepRunner) (inv : Invocation) (db : Database) (params : List Value)
    (table : String) (asName : Option String) (filter : Option Expr) : Except SqlError Written := do
  let t ← viewTable db table
  let filter' ← filter.mapM (resolveExpr evalFuel db ([tableSource t asName] :: inv.scope))
  prepareTriggers triggerDepth db inv.active t.name .insteadOf .delete
  let doomed ← viewRowsWhere inv db params t filter'
  let mut db := db
  let mut changes := 0
  for r in doomed do
    match fireTriggers run inv db t .insteadOf .delete inv.action (some r) none with
    | .ok (db', _) =>
      db := db'
      changes := changes + 1
    | .error e => if e.undo == .nothing then return { db, changes, stoppedBy := some e } else throw e
  pure { db, changes }

end Sql

end KvStore
