import KvStore.Sql.Schema
import KvStore.Sql.Token

namespace KvStore

namespace Sql

mutual

/-- Replaces the sources of the queries inside an expression: a source that `g`
replaces is left as `g` gives it; any other is walked into. -/
def Expr.mapSources (g : FromItem → Option FromItem) : Nat → Expr → Expr
  | 0, e => e
  | f + 1, e =>
    match e with
    | .unary op a => .unary op (Expr.mapSources g f a)
    | .binary op a b => .binary op (Expr.mapSources g f a) (Expr.mapSources g f b)
    | .isNull a n => .isNull (Expr.mapSources g f a) n
    | .inList a items n => .inList (Expr.mapSources g f a) (items.map (Expr.mapSources g f)) n
    | .inQuery a q n => .inQuery (Expr.mapSources g f a) (Query.mapSources g f q) n
    | .exists q => .exists (Query.mapSources g f q)
    | .scalar q => .scalar (Query.mapSources g f q)
    | .call name args star distinct => .call name (args.map (Expr.mapSources g f)) star distinct
    | .cast a t => .cast (Expr.mapSources g f a) t
    | .between a lo hi n =>
      .between (Expr.mapSources g f a) (Expr.mapSources g f lo) (Expr.mapSources g f hi) n
    | .like a p esc glob n =>
      .like (Expr.mapSources g f a) (Expr.mapSources g f p) (esc.map (Expr.mapSources g f)) glob n
    | .cases operand arms otherwise =>
      .cases (operand.map (Expr.mapSources g f))
        (arms.map fun (c, r) => (Expr.mapSources g f c, Expr.mapSources g f r))
        (otherwise.map (Expr.mapSources g f))
    | .collate a c => .collate (Expr.mapSources g f a) c
    | other => other

def Query.mapSources (g : FromItem → Option FromItem) : Nat → Query → Query
  | 0, q => q
  | f + 1, q =>
    let ex := Expr.mapSources g f
    match q with
    | .select distinct columns sources filter groupBy having orderBy limit offset =>
      .select distinct
        (columns.map fun
          | .expr e a t => .expr (ex e) a t
          | c => c)
        (sources.map (FromItem.mapSources g f)) (filter.map ex) (groupBy.map ex) (having.map ex)
        (orderBy.map fun (e, o) => (ex e, o)) (limit.map ex) (offset.map ex)
    | .values rows => .values (rows.map (·.map ex))
    | .compound first rest orderBy limit offset =>
      .compound (Query.mapSources g f first) (rest.map fun (op, part) => (op, Query.mapSources g f part))
        (orderBy.map fun (e, o) => (ex e, o)) (limit.map ex) (offset.map ex)
    | .recursive name columnNames base step unionAll limit =>
      .recursive name columnNames (Query.mapSources g f base) (Query.mapSources g f step) unionAll
        (limit.map ex)

def FromItem.mapSources (g : FromItem → Option FromItem) : Nat → FromItem → FromItem
  | 0, item => item
  | f + 1, item =>
    match g item with
    | some replaced => replaced
    | none =>
      let spec : JoinSpec := match item.spec with
        | .join left natural on usingColumns => .join left natural (on.map (Expr.mapSources g f)) usingColumns
      match item with
      | .table t a _ => .table t a spec
      | .query q a cs _ => .query (Query.mapSources g f q) a cs spec
      | .working w a cs _ => .working w a cs spec

end

def Expr.mapColumns (g : Option String → String → Option Expr) : Nat → Expr → Expr
  | 0, e => e
  | f + 1, e =>
    let go := Expr.mapColumns g f
    match e with
    | .column q n quoted offset => (g q n).getD (.column q n quoted offset)
    | .unary op a => .unary op (go a)
    | .binary op a b => .binary op (go a) (go b)
    | .isNull a n => .isNull (go a) n
    | .inList a items n => .inList (go a) (items.map go) n
    | .inQuery a q n => .inQuery (go a) q n
    | .call name args star distinct => .call name (args.map go) star distinct
    | .cast a t => .cast (go a) t
    | .between a lo hi n => .between (go a) (go lo) (go hi) n
    | .like a p esc glob n => .like (go a) (go p) (esc.map go) glob n
    | .cases operand arms otherwise =>
      .cases (operand.map go) (arms.map fun (c, r) => (go c, go r)) (otherwise.map go)
    | .collate a c => .collate (go a) c
    | other => other

/-- The sources a common table expression stands for: a reference to `name` becomes
the query `body` (under the reference's alias, else the name), with its columns renamed
when `columnNames` says. -/
def cteSource (name : String) (columnNames : List String) (body : Query) (item : FromItem) :
    Option FromItem :=
  match item with
  | .table t a spec =>
    if sameName t name then some (.query body (some (a.getD t)) columnNames spec) else none
  | _ => none

def workingSource (name : String) (item : FromItem) : Option FromItem :=
  match item with
  | .table t a spec => if sameName t name then some (.working t a [] spec) else none
  | _ => none

def fillWorking (name : String) (columns : List (String × Affinity)) (item : FromItem) :
    Option FromItem :=
  match item with
  | .working w a _ spec =>
    if sameName w name then some (.working w a columns spec) else none
  | _ => none

def Statement.mapSources (g : FromItem → Option FromItem) (fuel : Nat) : Statement → Statement
  | .query q => .query (q.mapSources g fuel)
  | .insert t a cs source action upsert =>
    let source : InsertSource := match source with
      | .rows rows => .rows (rows.map (·.map (Expr.mapSources g fuel)))
      | .query q => .query (q.mapSources g fuel)
      | .defaults => .defaults
    let upsert := upsert.map fun u =>
      { u with update := u.update.map fun (sets, cond) =>
          (sets.map fun (n, e) => (n, e.mapSources g fuel), cond.map (Expr.mapSources g fuel)) }
    .insert t a cs source action upsert
  | .update t a action sets filter =>
    .update t a action (sets.map fun (n, e) => (n, e.mapSources g fuel)) (filter.map (Expr.mapSources g fuel))
  | .delete t a filter => .delete t a (filter.map (Expr.mapSources g fuel))
  | s => s

/-- A table a `WITH` clause names: its column names, when it gives them, and its
query. -/
structure CommonTable where
  name : String
  columnNames : List String
  body : Query

def Query.readsTable (name : String) : Query → Bool
  | .select _ _ sources .. => sources.any fun
    | .table t _ _ => sameName t name
    | _ => false
  | _ => false

def circularReference (name : String) : SqlError :=
  { message := "circular reference: " ++ name }

/-- The query a table of a `WITH` clause stands for. A compound whose later parts
read the table itself is recursive: the parts before the first such one give the first
rows, and the parts from it on, joined by `UNION` or `UNION ALL`, step from each row
reached. -/
def CommonTable.query (fuel : Nat) (c : CommonTable) : Except SqlError Query :=
  match c.body with
  | .compound first rest _ limit _ =>
    match rest.findIdx? (fun (_, q) => q.readsTable c.name) with
    | none => if first.readsTable c.name then .error (circularReference c.name) else .ok c.body
    | some k =>
      if first.readsTable c.name then .error (circularReference c.name)
      else
        let baseRest := rest.take k
        match rest.drop k with
        | (op, q) :: more =>
          if op != "UNION" && op != "UNION ALL" then .error (circularReference c.name)
          else
            let base := if baseRest.isEmpty then first else .compound first baseRest [] none none
            let step := if more.isEmpty then q
              else .compound q (more.map fun (_, p) => ("UNION ALL", p)) [] none none
            .ok (.recursive c.name c.columnNames base (step.mapSources (workingSource c.name) fuel)
              (op == "UNION ALL") limit)
        | [] => .ok c.body
  | body => if body.readsTable c.name then .error (circularReference c.name) else .ok body

def commonSource (tables : List CommonTable) (item : FromItem) : Option FromItem :=
  tables.findSome? fun c => cteSource c.name c.columnNames c.body item

/-- The substitution a `WITH` clause makes: each table, its query already holding
the tables before it, for the references to it. -/
def withSubstitution (fuel : Nat) (tables : List CommonTable) :
    Except SqlError (FromItem → Option FromItem) := do
  let mut done : List CommonTable := []
  for c in tables do
    if done.any (sameName ·.name c.name) then
      throw { message := "duplicate WITH table name: " ++ c.name }
    let body ← { c with body := c.body.mapSources (commonSource done) fuel }.query fuel
    done := done ++ [{ c with body }]
  pure (commonSource done)

end Sql

end KvStore
