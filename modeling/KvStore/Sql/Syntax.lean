import KvStore.Sql.Value

namespace KvStore

namespace Sql

inductive UnaryOp where
  | neg
  | plus
  | not
  | bitNot
  deriving Repr, BEq, Inhabited

inductive BinaryOp where
  | add | sub | mul | div | rem | concat
  | eq | ne | lt | le | gt | ge | is | isNot
  | and | or
  | bitAnd | bitOr | shl | shr
  deriving Repr, BEq, Inhabited

/-- What a statement does when a row breaks a constraint: undo the statement and fail
(`abort`), fail keeping the rows already changed (`fail`), undo the transaction and
fail (`rollback`), skip the row (`ignore`), or remove the rows in the way (`replace`). -/
inductive ConflictAction where
  | abort
  | fail
  | rollback
  | ignore
  | replace
  deriving Repr, BEq, Inhabited

/-- How an ordering term sorts: its direction, and where nulls go. By default nulls
are the smallest values: first ascending, last descending. -/
structure SortOrder where
  descending : Bool := false
  nullsFirst : Bool := true
  deriving Repr, BEq, Inhabited

mutual

inductive Expr where
  | lit (v : Value)
  | param (index : Nat)
  /-- A column by name, with an optional table qualifier; `quoted` when the name was
  written in double quotes; `offset` where the reference starts in the text. -/
  | column (qualifier : Option String) (name : String) (quoted : Bool) (offset : Nat)
  /-- A resolved column: enclosing scope `depth`, source `source`, column `col`
  (`none` for the row id), with the column's affinity and collation. -/
  | bound (depth source : Nat) (col : Option Nat) (affinity : Affinity) (collation : Collation)
  | unary (op : UnaryOp) (e : Expr)
  | binary (op : BinaryOp) (a b : Expr)
  | isNull (e : Expr) (negated : Bool)
  | inList (e : Expr) (items : List Expr) (negated : Bool)
  | inQuery (e : Expr) (q : Query) (negated : Bool)
  | exists (q : Query)
  | scalar (q : Query)
  | call (name : String) (args : List Expr) (star : Bool) (distinct : Bool)
  | cast (e : Expr) (typeName : String)
  | between (e low high : Expr) (negated : Bool)
  | like (e pattern : Expr) (escape : Option Expr) (glob : Bool) (negated : Bool)
  | cases (operand : Option Expr) (arms : List (Expr × Expr)) (otherwise : Option Expr)
  | collate (e : Expr) (collation : String)
  /-- `RAISE(...)` in a trigger: leave the row (`ignore`) or fail with a message. -/
  | raise (action : ConflictAction) (message : String)

inductive ResultColumn where
  | star
  | tableStar (table : String)
  | expr (e : Expr) (asName : Option String) (text : String)

/-- How a source of a query joins the sources before it. A `left` join keeps a row
that matches nothing, with nulls for the source; the rows match by an `ON` condition,
by equal `USING` columns, or (`natural`) by equal columns of the same name. -/
inductive JoinSpec where
  | join (left natural : Bool) (on : Option Expr) (usingColumns : List String)

/-- A source of a query's rows: a table or view by name; a query in parentheses, its
columns renamed when `columnNames` says; or, inside the step of a recursive common
table expression, the rows it has reached (`columns` are known once resolved). Each has
an optional alias and joins the sources before it. -/
inductive FromItem where
  | table (name : String) (asName : Option String) (spec : JoinSpec)
  | query (q : Query) (asName : Option String) (columnNames : List String) (spec : JoinSpec)
  | working (name : String) (asName : Option String) (columns : List (String × Affinity)) (spec : JoinSpec)

inductive Query where
  | select (distinct : Bool) (columns : List ResultColumn) (sources : List FromItem)
      (filter : Option Expr) (groupBy : List Expr) (having : Option Expr)
      (orderBy : List (Expr × SortOrder)) (limit : Option Expr) (offset : Option Expr)
  | values (rows : List (List Expr))
  /-- Queries joined by `UNION`, `UNION ALL`, `INTERSECT` or `EXCEPT`, then ordered
  and limited. -/
  | compound (first : Query) (rest : List (String × Query)) (orderBy : List (Expr × SortOrder))
      (limit : Option Expr) (offset : Option Expr)
  /-- A recursive common table expression: the rows of `base`, then those `step` gives
  for each row reached (without repeats unless `unionAll`), its columns renamed when
  `columnNames` says, and no more than `limit` of them. -/
  | recursive (name : String) (columnNames : List String) (base step : Query) (unionAll : Bool)
      (limit : Option Expr)

end

def JoinSpec.cross : JoinSpec := .join false false none []

namespace FromItem

def spec : FromItem → JoinSpec
  | .table _ _ s | .query _ _ _ s | .working _ _ _ s => s

def alias? : FromItem → Option String
  | .table _ a _ | .query _ a _ _ | .working _ a _ _ => a

end FromItem

instance : Inhabited Expr := ⟨.lit .null⟩

/-- A `CHECK` constraint: its name, the text of its condition, and the condition. -/
structure CheckSpec where
  name : Option String := none
  text : String
  condition : Expr
  deriving Inhabited

/-- What a foreign key does when its parent row goes or changes. -/
inductive ForeignAction where
  | noAction
  | restrict
  | setNull
  | setDefault
  | cascade
  deriving Repr, BEq, Inhabited

/-- A foreign key: the parent table, its columns (none for its primary key), and the
actions on delete and on update. -/
structure ForeignKeySpec where
  parent : String
  parentColumns : List String := []
  onDelete : ForeignAction := .noAction
  onUpdate : ForeignAction := .noAction
  deriving Inhabited

structure ColumnSpec where
  name : String
  declType : String := ""
  notNull : Bool := false
  notNullAction : Option ConflictAction := none
  primaryKey : Bool := false
  primaryKeyAction : Option ConflictAction := none
  descending : Bool := false
  unique : Bool := false
  uniqueAction : Option ConflictAction := none
  default : Option (String × Expr) := none
  collation : Option String := none
  checks : List CheckSpec := []
  references : Option ForeignKeySpec := none
  generated : Option (Expr × Bool) := none
  deriving Inhabited

inductive TableConstraint where
  | primaryKey (columns : List String) (action : Option ConflictAction)
  | unique (columns : List String) (action : Option ConflictAction)
  | check (spec : CheckSpec)
  | foreignKey (columns : List String) (spec : ForeignKeySpec)
  deriving Inhabited

structure Upsert where
  target : List String
  update : Option (List (String × Expr) × Option Expr)
  deriving Inhabited

inductive InsertSource where
  | rows (rows : List (List Expr))
  | query (q : Query)
  | defaults
  deriving Inhabited

inductive ObjectKind where
  | table
  | index
  | view
  | trigger
  deriving Repr, BEq, Inhabited

inductive PragmaArg where
  | name (text : String)
  | number (v : Value)
  deriving Inhabited

/-- When a trigger runs: before, after, or instead of its event. -/
inductive TriggerTiming where
  | before
  | after
  | insteadOf
  deriving Repr, BEq, Inhabited

/-- What a trigger runs on; an update trigger may name the columns it watches. -/
inductive TriggerEvent where
  | insert
  | delete
  | update (columns : List String)
  deriving Repr, BEq, Inhabited

inductive Statement where
  | query (q : Query)
  /-- `nameAt` is where the name starts in the text, which a clash reports. -/
  | createTable (name : String) (nameAt : Nat) (ifNotExists : Bool) (columns : List ColumnSpec)
      (constraints : List TableConstraint) (withoutRowid strict : Bool) (asQuery : Option Query)
  | createIndex (name table : String) (unique ifNotExists : Bool) (terms : List Expr)
      (filter : Option Expr)
  | createView (name : String) (nameAt : Nat) (ifNotExists : Bool) (q : Query)
  | createTrigger (name : String) (nameAt : Nat) (ifNotExists : Bool) (timing : TriggerTiming)
      (event : TriggerEvent) (table : String) (condition : Option Expr) (body : List Statement)
  | createVirtual (name moduleName : String) (args : List String) (ifNotExists : Bool)
  | drop (kind : ObjectKind) (name : String) (ifExists : Bool)
  | addColumn (table : String) (column : ColumnSpec)
  | renameTable (table newName : String) (quoted : Bool)
  | renameColumn (table old new : String)
  | insert (table : String) (asName : Option String) (columns : Option (List String))
      (source : InsertSource) (action : Option ConflictAction) (upsert : Option Upsert)
  | update (table : String) (asName : Option String) (action : Option ConflictAction)
      (sets : List (String × Expr)) (filter : Option Expr)
  | delete (table : String) (asName : Option String) (filter : Option Expr)
  | pragma (name : String) (arg : Option PragmaArg)
  | begin
  | commit
  | rollback

instance : Inhabited Statement := ⟨.begin⟩

structure Parsed where
  statement : Statement
  text : String
  deriving Inhabited

end Sql

end KvStore
