import KvStore.Sql.Eval
import KvStore.Sql.Parse

namespace KvStore

namespace Sql

/-- What a statement gives back: the new database, the number of rows it changed,
and for a query its column names and rows. -/
structure StatementResult where
  db : Database
  changes : Nat := 0
  columns : List String := []
  rows : List (List Value) := []
  /-- The failure that stopped the statement when it keeps the rows written before it. -/
  stoppedBy : Option SqlError := none
  deriving Inhabited

def sqlFail {α : Type} (message : String) : Except SqlError α := .error { message }

def constraintFail {α : Type} (action : ConflictAction) (message : String) : Except SqlError α :=
  .error { message, undo := action.undo }

def evalFuel : Nat := 400

def ConflictAction.resolve (statement own : Option ConflictAction) : ConflictAction :=
  match statement with
  | some a => a
  | none => own.getD .abort

def strictTypes : List String := ["INT", "INTEGER", "REAL", "TEXT", "BLOB", "ANY"]

def strictTypeError (table : String) (c : Column) : Option String :=
  if c.declType.isEmpty then some ("missing datatype for " ++ table ++ "." ++ c.name)
  else if strictTypes.contains (Parser.upper c.declType) then none
  else some ("unknown datatype for " ++ table ++ "." ++ c.name ++ ": \"" ++ c.declType ++ "\"")

def tableSource (t : Table) (asName : Option String) : Source :=
  { name := asName.getD t.name, table := t.name,
    columns := t.columns.map (fun c => (c.name, c.affinity)), hasRowid := !t.withoutRowid,
    collations := t.columns.map (·.collation) }

/-- The row an upsert would have written, as its `DO UPDATE` clause sees it: only names
qualified by `excluded` reach it, and only when the table's own source, searched first,
does not answer to that name. -/
def excludedSource (t : Table) : Source :=
  { tableSource t (some "excluded") with hasRowid := false, qualifiedOnly := true }

def evalConstant (db : Database) (e : Expr) : Except SqlError Value := do
  let e' ← resolveExpr evalFuel db [] e
  eval evalFuel { db } none e'

def evalOnRow (db : Database) (t : Table) (r : Row) (e : Expr) : Except SqlError Value := do
  let e' ← resolveExpr evalFuel db [[tableSource t none]] e
  eval evalFuel { db, frames := [[r]] } none e'

namespace Table

def rowById? (t : Table) (rowid : Int) : Option Row := t.rows.find? (·.rowid == rowid)

def replaceRow (t : Table) (r : Row) (rowid : Int) : Table :=
  { t with rows := t.rows.map fun o => if o.rowid == rowid then r else o }

def removeRows (t : Table) (gone : List Row) : Table :=
  { t with rows := t.rows.filter fun o => !gone.any (·.rowid == o.rowid) }

def collationOf (t : Table) (c : Nat) : Collation := ((t.columns[c]?).map (·.collation)).getD .binary

end Table

/-- The key of a row in an index, each value with the collation it compares by: a
column term's own or its column's, an expression's named one or its column's. -/
def indexKey (db : Database) (t : Table) (i : Index) (r : Row) :
    Except SqlError (List (Value × Collation)) :=
  i.terms.mapM fun
    | .column c coll => pure ((r.values[c]?).getD .null, coll.getD (t.collationOf c))
    | .expr e => do
      let e' ← resolveExpr evalFuel db [[tableSource t none]] e
      pure (← eval evalFuel { db, frames := [[r]] } none e', (e'.collation? 100).getD .binary)

def keysEqual (a b : List (Value × Collation)) : Bool :=
  a.length == b.length && (a.zip b).all fun ((x, c), (y, _)) => Value.orderBy c x y == .eq

def uniqueFailure (t : Table) (i : Index) : String :=
  if i.terms.all (fun | .column _ _ => true | .expr _ => false) then
    "UNIQUE constraint failed: " ++ ", ".intercalate (i.terms.filterMap fun
      | .column c _ => (t.columns[c]?).map (fun col => t.name ++ "." ++ col.name)
      | .expr _ => none)
  else "UNIQUE constraint failed: index '" ++ i.name ++ "'"

def rowidFailure (t : Table) : String :=
  "UNIQUE constraint failed: " ++ t.name ++ "." ++
    ((t.rowidAlias.bind (t.columns[·]?)).map (·.name)).getD "rowid"

/-- Whether a row is in an index: every row is, unless the index is partial and its
condition does not hold for the row. -/
def inIndex (db : Database) (t : Table) (i : Index) (r : Row) : Except SqlError Bool :=
  match i.filter with
  | none => pure true
  | some c => do pure ((← evalOnRow db t r c).truth? == some true)

def conflicts (db : Database) (t : Table) (i : Index) (r : Row) (self : Option Int) :
    Except SqlError (List Row) := do
  if !(← inIndex db t i r) then return []
  let key ← indexKey db t i r
  if key.any (·.1.isNull) then return []
  t.rows.filterM fun other => do
    if some other.rowid == self then return false
    if !(← inIndex db t i other) then return false
    pure (keysEqual key (← indexKey db t i other))

def uniqueIndexes (db : Database) (t : Table) : List Index :=
  let all := (db.indexesOf t.name).filter (·.unique) |>.reverse
  all.filter (·.onConflict != some .replace) ++ all.filter (·.onConflict == some .replace)

def conformRow (t : Table) (values : List Value) : Except SqlError (List Value) :=
  (t.columns.zip values).mapM fun (c, v) =>
    let v := v.withAffinity c.affinity
    if !t.strict || v.isNull then pure v
    else
      let ty := Parser.upper c.declType
      let ok := match ty, v with
        | "INT", .int _ | "INTEGER", .int _ | "REAL", .real _ | "TEXT", .text _ | "BLOB", .blob _ => true
        | "REAL", .int _ => true
        | "ANY", _ => true
        | _, _ => false
      if ok then pure (match ty, v with
        | "REAL", .int i => .real (Binary64.ofInt i)
        | _, v => v)
      else sqlFail ("cannot store " ++ String.ofList (v.typeName.toList.map Char.toUpper) ++
        " value in " ++ ty ++ " column " ++ t.name ++ "." ++ c.name)

def computeGenerated (db : Database) (t : Table) (values : List Value) :
    Except SqlError (List Value) :=
  ((List.range t.columns.length).zip t.columns).foldlM (fun vs (i, c) => do
    match c.generated with
    | some (e, _) => pure (vs.set i ((← evalOnRow db t ⟨0, vs⟩ e).withAffinity c.affinity))
    | none => pure vs) values

def defaultValue (db : Database) (c : Column) : Except SqlError Value :=
  match c.default with
  | some (_, e) => evalConstant db e
  | none => .ok .null

def notNullFailure (t : Table) (c : Column) : String :=
  "NOT NULL constraint failed: " ++ t.name ++ "." ++ c.name

/-- What the `NOT NULL` rules make of a row: the values, with defaults put in by
`replace`, or `none` when a null makes the row be skipped. Only the columns in
`changed` are checked when it is given, generated columns always. A first pass checks
the ordinary columns; when a default went in or a generated column is `NOT NULL`, a
second pass computes the generated columns again and checks them, and a default that
was null fails there. -/
def applyNotNull (db : Database) (t : Table) (statement : Option ConflictAction)
    (changed : Option (List Nat)) (values : List Value) : Except SqlError (Option (List Value)) := do
  let columns := (List.range t.columns.length).zip t.columns
  let checked (i : Nat) (c : Column) : Bool :=
    c.notNull && t.rowidAlias != some i && (c.generated.isSome || (changed.map (·.contains i)).getD true)
  let mut vs := values
  let mut replaced : List Nat := []
  for (i, c) in columns do
    if checked i c && c.generated.isNone && ((vs[i]?).getD .null).isNull then
      match ConflictAction.resolve statement c.notNullAction with
      | .replace =>
        if c.default.isNone then constraintFail .abort (notNullFailure t c)
        vs := vs.set i ((← defaultValue db c).withAffinity c.affinity)
        replaced := replaced ++ [i]
      | .ignore => return none
      | a => constraintFail a (notNullFailure t c)
  let generatedNotNull := columns.any fun (_, c) => c.notNull && c.generated.isSome
  if replaced.isEmpty && !generatedNotNull then return some vs
  if !replaced.isEmpty then vs ← computeGenerated db t vs
  for (i, c) in columns do
    if checked i c && (c.generated.isSome || replaced.contains i) && ((vs[i]?).getD .null).isNull then
      match ConflictAction.resolve statement c.notNullAction with
      | .ignore => if c.generated.isSome then return none else constraintFail .abort (notNullFailure t c)
      | .replace => constraintFail .abort (notNullFailure t c)
      | a => constraintFail a (notNullFailure t c)
  pure (some vs)

def brokenCheck (db : Database) (t : Table) (r : Row) : Except SqlError (Option String) :=
  t.checks.findSomeM? fun ck => do
    let v ← evalOnRow db t r ck.condition
    pure (if v.truth? == some false then some ("CHECK constraint failed: " ++ ck.name.getD ck.text)
      else none)

def assignRowid (t : Table) (values : List Value) : Except SqlError (Int × List Value) :=
  match t.rowidAlias with
  | none => .ok (t.maxRowid + 1, values)
  | some c =>
    let fresh := t.maxRowid + 1
    match (values[c]?).getD .null with
    | .null => .ok (fresh, values.set c (.int fresh))
    | v => match v.withAffinity .integer with
      | .int i => .ok (i, values.set c (.int i))
      | _ => sqlFail "datatype mismatch"

/-- The key an upsert's `ON CONFLICT` names: any key, the row id, or an index. -/
inductive ConflictTarget where
  | anyKey
  | rowid
  | index (name : String)
  deriving Inhabited

/-- A unique key of a table: its row id or one of its unique indexes. -/
inductive UniqueKey where
  | rowid
  | index (i : Index)

def UniqueKey.isTarget : UniqueKey → ConflictTarget → Bool
  | _, .anyKey => true
  | .rowid, .rowid => true
  | .index i, .index n => sameName i.name n
  | _, _ => false

inductive KeyOutcome where
  /-- No clash is left: the table without the rows a `replace` removed. -/
  | clear (t : Table)
  | skip
  | upsert (existing : Row)
  deriving Inhabited

/-- Checks a row's unique keys, the stored row `self` excepted. The upsert's key comes
first; a row id whose action is `replace` comes after the indexes when the statement
names no action of its own. -/
def resolveKeys (db : Database) (t : Table) (r : Row) (self : Option Int)
    (statement : Option ConflictAction) (target : Option ConflictTarget) :
    Except SqlError KeyOutcome := do
  let indexes := uniqueIndexes db t
  let hasRowidKey := t.rowidAlias.isSome
  let rowidLast := hasRowidKey && statement.isNone && t.rowidAction == some .replace && !indexes.isEmpty
  let ordinary : List UniqueKey :=
    if !hasRowidKey then indexes.map .index
    else if rowidLast then indexes.map .index ++ [.rowid]
    else .rowid :: indexes.map .index
  let keys := match target with
    | some .anyKey | none => ordinary
    | some tg => ordinary.filter (UniqueKey.isTarget · tg) ++ ordinary.filter (!UniqueKey.isTarget · tg)
  let mut t := t
  for key in keys do
    let found : List Row ← match key with
      | .rowid => pure (t.rows.filter fun o => o.rowid == r.rowid && some o.rowid != self)
      | .index i => conflicts db t i r self
    if let some existing := found.head? then
      if (target.map key.isTarget).getD false then return .upsert existing
      let own := match key with
        | .rowid => t.rowidAction
        | .index i => i.onConflict
      match ConflictAction.resolve statement own with
      | .replace => t := t.removeRows found
      | .ignore => return .skip
      | a => constraintFail a (match key with
        | .rowid => rowidFailure t
        | .index i => uniqueFailure t i)
  pure (.clear t)

def indexMatches (t : Table) (i : Index) (names : List String) : Bool :=
  i.filter.isNone &&
  let cols := i.terms.filterMap fun
    | .column c _ => (t.columns[c]?).map (·.name)
    | .expr _ => none
  cols.length == i.terms.length && cols.length == names.length &&
    names.all (fun n => cols.any (sameName · n)) && cols.all (fun c => names.any (sameName · c))

def writableTable (db : Database) (name : String) : Except SqlError Table := do
  if isSchemaTable name then sqlFail ("table " ++ name ++ " may not be modified")
  match db.findTable? name with
  | some t => pure t
  | none =>
    if db.hasView name then sqlFail ("cannot modify " ++ name ++ " because it is a view")
    else sqlFail ("no such table: " ++ name)

def Affinity.declared : Affinity → String
  | .text => "TEXT"
  | .numeric => "NUMERIC"
  | .integer => "INT"
  | .real => "REAL"
  | .blob => ""

def viewTable (db : Database) (name : String) : Except SqlError Table := do
  let some q := db.findView? name | sqlFail ("no such table: " ++ name)
  let (q', cols) ← (resolveQuery evalFuel db [] q).mapError SqlError.inSchema
  let collations := q'.resultCollations 100
  let columns := (List.range cols.length).zip cols |>.map fun (i, (n, a)) =>
    ({ name := n, declType := a.declared, collation := (collations[i]?).getD .binary } : Column)
  let canonical := (db.objects.findSome? fun
    | .view v _ _ => if sameName v name then some v else none
    | _ => none).getD name
  pure { name := canonical, columns }

def tableNow (db : Database) (name : String) : Except SqlError Table :=
  match db.findTable? name with
  | some t => .ok t
  | none => sqlFail ("no such table: " ++ name)

/-- The table a trigger is on as its statements see it: a table as the database holds
it now, or a view as `viewTable` gives it. -/
def triggerTable (db : Database) (name : String) : Except SqlError Table :=
  match db.findTable? name with
  | some t => .ok t
  | none => if db.hasView name then viewTable db name else sqlFail ("no such table: " ++ name)

end Sql

end KvStore
