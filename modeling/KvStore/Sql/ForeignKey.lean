import KvStore.Sql.Constraint

namespace KvStore

namespace Sql

/-- A foreign key of a table: its own columns and what they refer to. -/
structure ForeignKey where
  child : Table
  columns : List String
  spec : ForeignKeySpec
  deriving Inhabited

/-- The parent key a foreign key refers to: the parent table and the positions of its
key columns, `none` for the row id. -/
structure ParentKey where
  table : Table
  columns : Option (List Nat)
  deriving Inhabited

def foreignKeyFailure : String := "FOREIGN KEY constraint failed"

namespace ForeignKey

def positions (fk : ForeignKey) : List Nat :=
  fk.columns.filterMap fk.child.columnIndex?

def locate (db : Database) (fk : ForeignKey) : Except SqlError ParentKey :=
  match db.findTable? fk.spec.parent with
  | none => sqlFail ("no such table: main." ++ fk.spec.parent)
  | some p =>
    let mismatch : Except SqlError ParentKey :=
      sqlFail ("foreign key mismatch - \"" ++ fk.child.name ++ "\" referencing \"" ++ fk.spec.parent ++ "\"")
    let rowidName := (p.rowidAlias.bind (p.columns[·]?)).map (·.name)
    let byRowid := fk.columns.length == 1 && rowidName.isSome &&
      (match fk.spec.parentColumns with
        | [] => true
        | [n] => (rowidName.map (sameName · n)).getD false
        | _ => false)
    if byRowid then .ok { table := p, columns := none }
    else
      let indexes := (db.indexesOf p.name).filter fun i => i.unique && i.filter.isNone
      let plain (i : Index) : Option (List Nat) := i.terms.mapM fun
        | .column c coll => if coll.all (· == p.collationOf c) then some c else none
        | .expr _ => none
      let found := indexes.findSome? fun i =>
        match plain i with
        | none => none
        | some cols =>
          if cols.length != fk.columns.length then none
          else if fk.spec.parentColumns.isEmpty then
            if i.origin == .primaryKey then some cols else none
          else
            let names := cols.filterMap fun c => (p.columns[c]?).map (·.name)
            if fk.spec.parentColumns.length == names.length &&
                fk.spec.parentColumns.all (fun n => names.any (sameName · n)) then
              some (fk.spec.parentColumns.filterMap p.columnIndex?)
            else none
      match found with
      | some cols => .ok { table := p, columns := some cols }
      | none => mismatch

/-- Whether a write that sets the columns `changed` of the parent table `p` may change
the key: a named parent column, or a primary key column when the key names none. -/
def parentChanged (fk : ForeignKey) (p : Table) (changed : List Nat) : Bool :=
  changed.any fun c =>
    match p.columns[c]? with
    | some col =>
      if fk.spec.parentColumns.isEmpty then col.pk > 0
      else fk.spec.parentColumns.any (sameName · col.name)
    | none => false

end ForeignKey

namespace ParentKey

def keyOf (pk : ParentKey) (r : Row) : List Value :=
  match pk.columns with
  | none => [.int r.rowid]
  | some cs => cs.map fun c => (r.values[c]?).getD .null

def names (pk : ParentKey) (values : List Value) (r : Row) : Bool :=
  match pk.columns with
  | none =>
    match values with
    | [v] => match v.withAffinity .integer with
      | .int i => i == r.rowid
      | _ => false
    | _ => false
  | some cs =>
    cs.length == values.length && (cs.zip values).all fun (c, v) =>
      let affinity := ((pk.table.columns[c]?).map (·.affinity)).getD .blob
      Value.orderBy (pk.table.collationOf c) (v.withAffinity affinity) ((r.values[c]?).getD .null) == .eq

def has (pk : ParentKey) (values : List Value) : Bool := pk.table.rows.any (pk.names values)

def columnNames (pk : ParentKey) : List String :=
  match pk.columns with
  | none => ["oid"]
  | some cs => cs.map fun c => ((pk.table.columns[c]?).map (·.name)).getD ""

/-- Whether a parent row kept its key when it became `new`: every key value is the same
by its column's collation, nulls the same as nulls. -/
def kept (pk : ParentKey) (old new : Row) : Bool :=
  match pk.columns with
  | none => old.rowid == new.rowid
  | some cs => cs.all fun c =>
    Value.orderBy (pk.table.collationOf c) ((old.values[c]?).getD .null) ((new.values[c]?).getD .null) == .eq

end ParentKey

namespace ForeignKey

/-- The statement a foreign key's action runs on the child table after a parent row
went (`update` false) or changed its key, the parent row being `old` and `new` to it:
the child rows whose key equals the old parent key, compared as the parent column
compares, are removed (`CASCADE` on delete) or get the new key (`CASCADE` on update),
nulls (`SET NULL`) or their defaults (`SET DEFAULT`). `none` for the actions that only
refuse. -/
def actionStatement (fk : ForeignKey) (pk : ParentKey) (update : Bool) : Option Statement :=
  let action := if update then fk.spec.onUpdate else fk.spec.onDelete
  let pairs := fk.columns.zip pk.columnNames
  let terms := pairs.map fun (c, p) => Expr.binary .eq (.column (some "old") p false 0) (.column none c false 0)
  let filter := match terms with
    | [] => none
    | t :: ts => some (ts.foldl (Expr.binary .and) t)
  let assign (value : String → String → Expr) : List (String × Expr) :=
    pairs.map fun (c, p) => (c, value c p)
  let defaultOf (c : String) : Expr :=
    match fk.child.columnIndex? c |>.bind (fk.child.columns[·]?) with
    | some col => if col.generated.isSome then .lit .null else ((col.default.map (·.2)).getD (.lit .null))
    | none => .lit .null
  match action with
  | .cascade =>
    if update then some (.update fk.child.name none none (assign fun _ p => .column (some "new") p false 0) filter)
    else some (.delete fk.child.name none filter)
  | .setNull => some (.update fk.child.name none none (assign fun _ _ => .lit .null) filter)
  | .setDefault => some (.update fk.child.name none none (assign fun c _ => defaultOf c) filter)
  | _ => none

end ForeignKey

def Table.foreignKeyList (t : Table) : List ForeignKey :=
  t.foreignKeys.map fun (columns, spec) => { child := t, columns, spec }

def Database.referencing (db : Database) (parent : String) : List ForeignKey :=
  db.objects.flatMap fun
    | .table c => c.foreignKeyList.filter fun fk => sameName fk.spec.parent parent
    | _ => []

/-- Checks, before a write runs, that every foreign key it needs can be found: the
child keys of `t` that the write sets (all of them when `changed` is `none`), and,
when `asParent`, the keys of other tables that refer to `t`. -/
def prepareForeignKeys (db : Database) (t : Table) (changed : Option (List Nat)) (asParent : Bool) :
    Except SqlError Unit := do
  if !db.foreignKeys then return ()
  for fk in t.foreignKeyList do
    if (changed.map fun cs => fk.positions.any cs.contains).getD true then
      discard (fk.locate db)
  if asParent then
    for fk in db.referencing t.name do
      if (changed.map (fk.parentChanged t)).getD true then
        discard (fk.locate db)

/-- Checks that a written row of `t` names a parent row for each of its foreign keys
whose columns the write set. -/
def checkChildKeys (db : Database) (t : Table) (r : Row) (changed : Option (List Nat)) :
    Except SqlError Unit := do
  if !db.foreignKeys then return ()
  for fk in t.foreignKeyList do
    if (changed.map fun cs => fk.positions.any cs.contains).getD true then
      let values := fk.positions.map fun c => (r.values[c]?).getD .null
      if !values.any (·.isNull) then
        let pk ← fk.locate db
        if !pk.has values then sqlFail foreignKeyFailure

/-- Applies one foreign key with parent key `pk` after the parent row `old` went (`new`
is `none`) or became `new`: the child rows that named the old key are refused, removed,
changed, or have their key set to null or its default. -/
def applyForeignKey (db : Database) (fk : ForeignKey) (pk : ParentKey) (old : Row) (new : Option Row) :
    Except SqlError Database := do
  let before := pk.keyOf old
  let after := new.map pk.keyOf
  let unchanged := match after with
    | some k => k.length == before.length && (before.zip k).all fun (a, b) => Value.order a b == .eq
    | none => false
  if before.any (·.isNull) || unchanged then return db
  let child ← tableNow db fk.child.name
  let positions := { fk with child }.positions
  let referring := child.rows.filter fun r => pk.names (positions.map fun c => (r.values[c]?).getD .null) old
  if referring.isEmpty then return db
  let action := if new.isSome then fk.spec.onUpdate else fk.spec.onDelete
  let setKey (key : List Value) : Table :=
    let moved := referring.map fun r =>
      ({ r with values := (positions.zip key).foldl (fun vs (c, v) => vs.set c v) r.values } : Row)
    moved.foldl (fun t r => t.replaceRow r r.rowid) child
  match action with
  | .noAction | .restrict => sqlFail foreignKeyFailure
  | .cascade =>
    match after with
    | none => pure (db.putTable (child.removeRows referring))
    | some k => pure (db.putTable (setKey k))
  | .setNull => pure (db.putTable (setKey (positions.map fun _ => .null)))
  | .setDefault =>
    let key ← positions.mapM fun c =>
      match child.columns[c]? with
      | some col => do pure ((← defaultValue db col).withAffinity col.affinity)
      | none => pure .null
    pure (db.putTable (setKey key))

/-- Applies the foreign keys that refer to table `p` after its row `old` went (`new`
is `none`) or became `new` by a write that set the columns `changed`. -/
def applyParentChange (db : Database) (p : Table) (old : Row) (new : Option Row)
    (changed : Option (List Nat)) : Except SqlError Database := do
  if !db.foreignKeys then return db
  let mut db := db
  for fk in db.referencing p.name do
    if !(changed.map (fk.parentChanged p)).getD true then continue
    let pk ← fk.locate db
    db ← applyForeignKey db fk pk old new
  pure db

/-- Empties a table that is to be dropped, applying the foreign keys of other tables
that refer to it as for deleting each of its rows; a key whose parent cannot be found is
passed over. -/
def emptyForDrop (db : Database) (t : Table) : Except SqlError Database := do
  if !db.foreignKeys then return db
  let mut db := db.putTable { t with rows := [] }
  for fk in db.referencing t.name do
    if sameName fk.child.name t.name then continue
    if let .ok pk := fk.locate db then
      for old in t.rows do
        db ← applyForeignKey db fk pk old none
  pure db

end Sql

end KvStore
