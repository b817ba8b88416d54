import KvStore.Sql.Constraint

namespace KvStore

namespace Sql

/-- How a column is hidden from `table_info`: `0` for an ordinary column, `2` for a
virtual generated one, `3` for a stored one. -/
def Column.hidden (c : Column) : Nat :=
  match c.generated with
  | none => 0
  | some (_, false) => 2
  | some (_, true) => 3

def ForeignAction.text : ForeignAction → String
  | .noAction => "NO ACTION"
  | .restrict => "RESTRICT"
  | .setNull => "SET NULL"
  | .setDefault => "SET DEFAULT"
  | .cascade => "CASCADE"

def PragmaArg.flag? : PragmaArg → Option Bool
  | .number (.int i) => some (i != 0)
  | .name n =>
    match nameKey n with
    | "on" | "yes" | "true" => some true
    | "off" | "no" | "false" => some false
    | _ => none
  | _ => none

def columnInfo (cid : Nat) (c : Column) : List Value :=
  [.int cid, .text c.name, .text c.declType, .int (if c.notNull then 1 else 0),
   (c.default.map (fun d => Value.text d.1)).getD .null, .int c.pk]

def runPragma (db : Database) (name : String) (arg : Option PragmaArg) : Except SqlError StatementResult :=
  let argName := match arg with
    | some (.name n) => n
    | _ => ""
  let result (columns : List String) (rows : List (List Value)) : Except SqlError StatementResult :=
    .ok { db, columns, rows }
  match nameKey name with
  | "table_info" | "table_xinfo" =>
    let extended := nameKey name == "table_xinfo"
    let cols := ["cid", "name", "type", "notnull", "dflt_value", "pk"] ++ (if extended then ["hidden"] else [])
    match db.findTable? argName with
    | some t =>
      let shown := if extended then t.columns else t.columns.filter (·.generated.isNone)
      result cols ((List.range shown.length).zip shown |>.map fun (i, c) =>
        columnInfo i c ++ (if extended then [.int c.hidden] else []))
    | none =>
      match db.findView? argName with
      | some q =>
        match resolveQuery evalFuel db [] q with
        | .ok (_, names) => result cols ((List.range names.length).zip names |>.map fun (i, (n, _)) =>
            [.int i, .text n, .text "", .int 0, .null, .int 0] ++ (if extended then [.int 0] else []))
        | .error e => .error e.inSchema
      | none => result cols []
  | "index_list" =>
    let cols := ["seq", "name", "unique", "origin", "partial"]
    match db.findTable? argName with
    | some t =>
      let idx := db.indexesOf t.name
      result cols ((List.range idx.length).zip idx |>.map fun (k, i) =>
        [.int k, .text i.name, .int (if i.unique then 1 else 0), .text i.origin.code,
          .int (if i.filter.isSome then 1 else 0)])
    | none => result cols []
  | "index_info" =>
    let cols := ["seqno", "cid", "name"]
    match db.findIndex? argName with
    | some i =>
      let t := db.findTable? i.table
      result cols ((List.range i.terms.length).zip i.terms |>.map fun (k, term) =>
        match term with
        | .column c _ => [.int k, .int c, ((t.bind (·.columns[c]?)).map (Value.text ·.name)).getD .null]
        | .expr _ => [.int k, .int (-2), .null])
    | none => result cols []
  | "foreign_key_list" =>
    let cols := ["id", "seq", "table", "from", "to", "on_update", "on_delete", "match"]
    match db.findTable? argName with
    | some t =>
      let keys := t.foreignKeys.reverse
      result cols (((List.range keys.length).zip keys).flatMap fun (id, (childColumns, spec)) =>
        ((List.range childColumns.length).zip childColumns).map fun (seq, c) =>
          [.int id, .int seq, .text spec.parent, .text c,
           ((spec.parentColumns[seq]?).map Value.text).getD .null,
           .text spec.onUpdate.text, .text spec.onDelete.text, .text "NONE"])
    | none => result cols []
  | "journal_mode" =>
    let mode := nameKey argName
    if ["delete", "truncate", "persist", "memory", "wal", "off"].contains mode then
      result ["journal_mode"] [[.text mode]]
    else result ["journal_mode"] [[.text "memory"]]
  | "foreign_keys" =>
    match arg with
    | some a =>
      match a.flag? with
      | some on => if db.savepoint.isSome then result [] [] else .ok { db := { db with foreignKeys := on } }
      | none => result [] []
    | none => result ["foreign_keys"] [[.int (if db.foreignKeys then 1 else 0)]]
  | "user_version" | "schema_version" =>
    if arg.isSome then result [] [] else result [nameKey name] [[.int 0]]
  | _ => result [] []

end Sql

end KvStore
