import KvStore.Sql.ViewWrite
import KvStore.Sql.Define
import KvStore.Sql.Pragma

namespace KvStore

namespace Sql

def runStatement : Nat → Invocation → Database → List Value → String → Statement →
    Except SqlError StatementResult
  | 0, _, _, _, _, _ => sqlFail "too many levels of trigger recursion"
  | depth + 1, inv, db, params, text, stmt =>
    let step : StepRunner := fun inner db s => do
      let r ← runStatement depth inner db [] "" s
      match r.stoppedBy with
      | some e => throw e
      | none => pure r.db
    match stmt with
    | .query q => do
      let (q', cols) ← resolveQuery evalFuel db inv.scope q
      let rows ← runQuery evalFuel (inv.env db params []) q'
      pure { db, columns := cols.map (·.1), rows }
    | .createTable name nameAt ine cols cons wr st asq =>
      runCreateTable db text name nameAt ine cols cons wr st asq
    | .createIndex name table unique ine terms filter =>
      runCreateIndex db text name table unique ine terms filter
    | .createView name nameAt ine q => do
      checkNewName db name nameAt ine
      if (db.findTable? name).isSome || db.hasView name then .ok { db }
      else .ok { db := db.addObject (.view name q text) }
    | .createTrigger name nameAt ine timing event table condition body =>
      runCreateTrigger db text name nameAt ine timing event table condition body
    | .createVirtual name m args ine => runCreateVirtual db text name m args ine
    | .drop kind name ie => runDrop db kind name ie
    | .addColumn table spec => runAddColumn db table spec
    | .renameTable table newName quoted => runRenameTable db table newName quoted
    | .renameColumn table old new => runRenameColumn db table old new
    | .insert table asName cols source action upsert => do
      let w ← if db.writesThroughView table .insert then
          runViewInsert step inv db params table cols source action upsert
        else runInsert step inv db params table asName cols source action upsert
      pure { db := w.db, changes := w.changes, stoppedBy := w.stoppedBy }
    | .update table asName action sets filter => do
      let w ← if db.writesThroughView table (.update (sets.map (·.1))) then
          runViewUpdate step inv db params table asName action sets filter
        else runUpdate step inv db params table asName action sets filter
      pure { db := w.db, changes := w.changes, stoppedBy := w.stoppedBy }
    | .delete table asName filter => do
      let w ← if db.writesThroughView table .delete then
          runViewDelete step inv db params table asName filter
        else runDelete step inv db params table asName filter
      pure { db := w.db, changes := w.changes, stoppedBy := w.stoppedBy }
    | .pragma name arg => runPragma db name arg
    | .begin =>
      if db.savepoint.isSome then sqlFail "cannot start a transaction within a transaction"
      else .ok { db := { db with savepoint := some db.objects } }
    | .commit =>
      if db.savepoint.isNone then sqlFail "cannot commit - no transaction is active"
      else .ok { db := { db with savepoint := none } }
    | .rollback =>
      match db.savepoint with
      | some objects => .ok { db := { db with objects, savepoint := none } }
      | none => sqlFail "cannot rollback - no transaction is active"

def run (db : Database) (params : List Value) (p : Parsed) : Except SqlError StatementResult :=
  runStatement triggerDepth {} db params p.text p.statement

end Sql

end KvStore
