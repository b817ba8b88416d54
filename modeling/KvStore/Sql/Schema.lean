import KvStore.Sql.Syntax

namespace KvStore

namespace Sql

structure Column where
  name : String
  declType : String := ""
  notNull : Bool := false
  /-- What a null in a `NOT NULL` column does, when its constraint says. -/
  notNullAction : Option ConflictAction := none
  default : Option (String × Expr) := none
  /-- Position in the primary key, from `1`; `0` when not part of it. -/
  pk : Nat := 0
  collation : Collation := .binary
  /-- The expression of a generated column, and whether it is stored. Generated
  columns take no values from inserts and are not listed by `table_info`. -/
  generated : Option (Expr × Bool) := none
  deriving Inhabited

def Column.affinity (c : Column) : Affinity := Affinity.ofDeclared c.declType

structure Row where
  rowid : Int
  values : List Value
  deriving Repr, BEq, Inhabited

structure Table where
  name : String
  columns : List Column
  /-- The column that is the row id, for an `INTEGER PRIMARY KEY`. -/
  rowidAlias : Option Nat := none
  withoutRowid : Bool := false
  strict : Bool := false
  virtualModule : Option String := none
  checks : List CheckSpec := []
  /-- The foreign keys: the columns of this table and what they refer to. -/
  foreignKeys : List (List String × ForeignKeySpec) := []
  /-- What a clash on the row id does, when the primary key's constraint says. -/
  rowidAction : Option ConflictAction := none
  rows : List Row := []
  sql : String := ""
  deriving Inhabited

inductive IndexOrigin where
  | created
  | unique
  | primaryKey
  deriving Repr, BEq, Inhabited

def IndexOrigin.code : IndexOrigin → String
  | .created => "c"
  | .unique => "u"
  | .primaryKey => "pk"

/-- What an index orders by: a column, with a collation of its own when the index
names one, or an expression of the row. -/
inductive IndexTerm where
  | column (index : Nat) (collation : Option Collation)
  | expr (e : Expr)
  deriving Inhabited

structure Index where
  name : String
  table : String
  terms : List IndexTerm
  unique : Bool
  origin : IndexOrigin
  listed : Bool := true
  sql : Option String := none
  onConflict : Option ConflictAction := none
  filter : Option Expr := none
  deriving Inhabited

/-- A trigger: the statements it runs on its table's rows, when its condition holds. -/
structure Trigger where
  name : String
  table : String
  timing : TriggerTiming
  event : TriggerEvent
  condition : Option Expr
  body : List Statement
  sql : String
  deriving Inhabited

inductive SchemaObject where
  | table (t : Table)
  | index (i : Index)
  | view (name : String) (q : Query) (sql : String)
  | trigger (t : Trigger)
  deriving Inhabited

structure Database where
  objects : List SchemaObject := []
  /-- While a transaction is open, the objects to return to on rollback. -/
  savepoint : Option (List SchemaObject) := none
  foreignKeys : Bool := true
  /-- The time the date functions take as now, in milliseconds since 1970. -/
  clock : Int := 0
  deriving Inhabited

def nameKey (s : String) : String := String.ofList (s.toList.map Char.toLower)

def sameName (a b : String) : Bool := nameKey a == nameKey b

namespace SchemaObject

def name : SchemaObject → String
  | .table t => t.name
  | .index i => i.name
  | .view n _ _ => n
  | .trigger t => t.name

def kindName : SchemaObject → String
  | .table _ => "table"
  | .index _ => "index"
  | .view _ _ _ => "view"
  | .trigger _ => "trigger"

def tableName : SchemaObject → String
  | .table t => t.name
  | .index i => i.table
  | .view n _ _ => n
  | .trigger t => t.table

end SchemaObject

namespace Table

def columnIndex? (t : Table) (name : String) : Option Nat :=
  t.columns.findIdx? (fun c => sameName c.name name)

def columnNames (t : Table) : List String := t.columns.map (·.name)

def maxRowid (t : Table) : Int := t.rows.foldl (fun m r => max m r.rowid) 0

end Table

namespace Database

def findTable? (db : Database) (name : String) : Option Table :=
  db.objects.findSome? fun
    | .table t => if sameName t.name name then some t else none
    | _ => none

def findIndex? (db : Database) (name : String) : Option Index :=
  db.objects.findSome? fun
    | .index i => if sameName i.name name then some i else none
    | _ => none

def findView? (db : Database) (name : String) : Option Query :=
  db.objects.findSome? fun
    | .view n q _ => if sameName n name then some q else none
    | _ => none

def hasView (db : Database) (name : String) : Bool := (db.findView? name).isSome

def findTrigger? (db : Database) (name : String) : Option Trigger :=
  db.objects.findSome? fun
    | .trigger t => if sameName t.name name then some t else none
    | _ => none

def triggersOf (db : Database) (table : String) : List Trigger :=
  db.objects.filterMap fun
    | .trigger t => if sameName t.table table then some t else none
    | _ => none

def putTable (db : Database) (t : Table) : Database :=
  { db with objects := db.objects.map fun
      | .table u => if sameName u.name t.name then .table t else .table u
      | o => o }

def indexesOf (db : Database) (table : String) : List Index :=
  (db.objects.filterMap fun
    | .index i => if sameName i.table table then some i else none
    | _ => none).reverse

def removeWhere (db : Database) (p : SchemaObject → Bool) : Database :=
  { db with objects := db.objects.filter (fun o => !p o) }

def addObject (db : Database) (o : SchemaObject) : Database :=
  { db with objects := db.objects ++ [o] }

end Database

end Sql

end KvStore
