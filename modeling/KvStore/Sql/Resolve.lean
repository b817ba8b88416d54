import KvStore.Sql.Substitute
import KvStore.Sql.Token

namespace KvStore

namespace Sql

structure Source where
  name : String
  table : String
  columns : List (String × Affinity)
  hasRowid : Bool
  /-- The collations of the columns; a column past the list compares by bytes. -/
  collations : List Collation := []
  /-- Whether only qualified references see the source, as for a trigger's `new` and
  `old` rows. -/
  qualifiedOnly : Bool := false
  /-- The columns a join's `USING` or `NATURAL` merged into the same columns of an
  earlier source: unqualified names and `*` pass over them. -/
  merged : List Nat := []
  deriving Inhabited

def schemaColumns : List (String × Affinity) :=
  [("type", .text), ("name", .text), ("tbl_name", .text), ("rootpage", .integer), ("sql", .text)]

def isSchemaTable (name : String) : Bool :=
  sameName name "sqlite_master" || sameName name "sqlite_schema"

def rowidNames : List String := ["rowid", "oid", "_rowid_"]

namespace Expr

def affinity? : Expr → Option Affinity
  | .bound _ _ _ a _ => if a == .blob then none else some a
  | .cast _ t => let a := Affinity.ofDeclared t; if a == .blob then none else some a
  | .collate e _ => affinity? e
  | _ => none

def explicitCollation? : Nat → Expr → Option Collation
  | 0, _ => none
  | f + 1, e =>
    match e with
    | .collate _ c => Collation.ofName? c
    | .unary _ a | .cast a _ | .isNull a _ => explicitCollation? f a
    | .binary _ a b => (explicitCollation? f a).orElse fun _ => explicitCollation? f b
    | .call _ args _ _ => args.findSome? (explicitCollation? f)
    | _ => none

def collation? (fuel : Nat) : Expr → Option Collation
  | .collate _ c => Collation.ofName? c
  | .bound _ _ _ _ c => some c
  | .cast a _ | .unary .plus a => match a with
    | .bound _ _ _ _ c => some c
    | a => explicitCollation? fuel a
  | e => explicitCollation? fuel e

end Expr

/-- The collation a comparison of two expressions uses: one named on the left, then
on the right, then the left column's, then the right column's, else bytes. -/
def comparisonCollation (a b : Expr) : Collation :=
  match a.explicitCollation? 100, b.explicitCollation? 100 with
  | some c, _ => c
  | none, some c => c
  | none, none => ((a.collation? 100).orElse fun _ => b.collation? 100).getD .binary

def aggregateNames : List String :=
  ["count", "sum", "total", "avg", "group_concat", "string_agg", "json_group_array", "json_group_object"]

def isAggregateCall (name : String) (arity : Nat) : Bool :=
  aggregateNames.contains (nameKey name) || ((nameKey name == "min" || nameKey name == "max") && arity == 1)

def functionArities (name : String) : Option (List Nat) :=
  match nameKey name with
  | "abs" | "length" | "lower" | "upper" | "typeof" | "hex" | "quote" | "unicode" | "zeroblob"
  | "octet_length" | "sign" | "likely" | "unlikely" | "randomblob" | "ceil" | "ceiling" | "floor"
  | "trunc" | "ln" | "log10" | "log2" | "exp" | "sqrt" | "sin" | "cos" | "tan" | "asin" | "acos"
  | "atan" | "sinh" | "cosh" | "tanh" | "asinh" | "acosh" | "atanh" | "degrees" | "radians" => some [1]
  | "ifnull" | "nullif" | "instr" | "glob" | "pow" | "power" | "atan2" | "mod" | "likelihood"
  | "string_agg" => some [2]
  | "like" => some [2, 3]
  | "substr" | "substring" => some [2, 3]
  | "trim" | "ltrim" | "rtrim" | "round" | "log" | "unhex" => some [1, 2]
  | "replace" => some [3]
  | "count" => some [0, 1]
  | "sum" | "total" | "avg" => some [1]
  | "group_concat" => some [1, 2]
  | "coalesce" | "min" | "max" | "char" | "printf" | "format" | "concat" | "concat_ws" | "iif" => some []
  | "random" | "changes" | "last_insert_rowid" | "pi" => some [0]
  | "json" | "json_error_position" | "json_quote" | "json_group_array" => some [1]
  | "json_valid" | "json_type" | "json_array_length" => some [1, 2]
  | "->" | "->>" | "json_patch" | "json_group_object" => some [2]
  | "json_extract" | "json_array" | "json_object" | "json_insert" | "json_replace" | "json_set"
  | "json_remove" => some []
  | "date" | "time" | "datetime" | "julianday" | "unixepoch" | "strftime" => some []
  | "current_date" | "current_time" | "current_timestamp" => some [0]
  | _ => none

def leastArity (name : String) : Nat :=
  match nameKey name with
  | "coalesce" | "concat_ws" | "iif" => 2
  | "min" | "max" | "concat" => 1
  | _ => 0

def checkCall (name : String) (arity : Nat) : Except SqlError Unit :=
  match functionArities name with
  | none => .error { message := "no such function: " ++ name }
  | some [] =>
    if arity < leastArity name
    then .error { message := "wrong number of arguments to function " ++ name ++ "()" }
    else .ok ()
  | some allowed =>
    if allowed.contains arity then .ok ()
    else .error { message := "wrong number of arguments to function " ++ name ++ "()" }

/-- Looks a column up in one frame of sources: the source and column, with its
affinity; an error when two sources both have it. -/
def lookupInFrame (frame : List Source) (qualifier : Option String) (name : String) :
    Except SqlError (Option (Nat × Option Nat × Affinity × Collation)) :=
  let candidates := (List.range frame.length).zip frame |>.filter fun (_, s) =>
    match qualifier with
    | some q => sameName s.name q
    | none => !s.qualifiedOnly
  let hits := candidates.filterMap fun (i, s) =>
    (s.columns.findIdx? (fun (c, _) => sameName c name)).bind fun j =>
      if qualifier.isNone && s.merged.contains j then none
      else some (i, some j, ((s.columns[j]?).map (·.2)).getD .blob, (s.collations[j]?).getD .binary)
  match hits with
  | [h] => .ok (some h)
  | _ :: _ :: _ => .error { message := "ambiguous column name: " ++ name }
  | [] =>
    if rowidNames.any (sameName · name) then
      match candidates.find? (fun (_, s) => s.hasRowid) with
      | some (i, _) => .ok (some (i, none, .integer, .binary))
      | none => .ok none
    else .ok none

def lookupColumn : List (List Source) → Nat → Option String → String →
    Except SqlError (Option Expr)
  | [], _, _, _ => .ok none
  | frame :: outer, depth, qualifier, name => do
    match ← lookupInFrame frame qualifier name with
    | some (i, col, a, c) => pure (some (.bound depth i col a c))
    | none => lookupColumn outer (depth + 1) qualifier name

def noSuchColumn (qualifier : Option String) (name : String) (offset : Nat) : SqlError :=
  { message := "no such column: " ++ (match qualifier with | some q => q ++ "." ++ name | none => name),
    offset := some offset }

def ordinal (n : Nat) : String :=
  let suffix := if n / 10 % 10 == 1 then "th" else match n % 10 with
    | 1 => "st"
    | 2 => "nd"
    | 3 => "rd"
    | _ => "th"
  toString n ++ suffix

def Expr.integerTerm? : Expr → Option Int
  | .lit (.int k) | .unary .plus (.lit (.int k)) => some k
  | .unary .neg (.lit (.int k)) => some (-k)
  | _ => none

def termOutOfRange (kind : String) (index count : Nat) : SqlError :=
  { message := ordinal (index + 1) ++ " " ++ kind ++ " BY term out of range - should be between 1 and " ++
      toString count }

def cannotJoin (name : String) : SqlError :=
  { message := "cannot join using column " ++ name ++ " - column not present in both tables" }

def firstWithColumn (frame : List Source) (name : String) : Option (Nat × Nat) :=
  ((List.range frame.length).zip frame).findSome? fun (i, s) =>
    (s.columns.findIdx? (sameName ·.1 name)).map (i, ·)

def columnRef (frame : List Source) (i j : Nat) : Expr :=
  match frame[i]? with
  | some s => .bound 0 i (some j) (((s.columns[j]?).map (·.2)).getD .blob) ((s.collations[j]?).getD .binary)
  | none => .bound 0 i (some j) .blob .binary

/-- The conditions `USING` and `NATURAL` add to each source's join, and the frame with
the columns they merge marked. A named column of a source equals the same column of
the first source before it that has one; `NATURAL` names every column an earlier source
shares. -/
def mergeJoinColumns (frame : List Source) (specs : List JoinSpec) :
    Except SqlError (List Source × List (List Expr)) := do
  let mut done : List Source := []
  let mut terms : List (List Expr) := []
  for (s, spec) in frame.zip specs do
    match spec with
    | .join _ natural on usingColumns =>
      if natural && (on.isSome || !usingColumns.isEmpty) then
        throw { message := "a NATURAL join may not have an ON or USING clause" }
      let names := if natural then
          (s.columns.map (·.1)).filter fun n => (firstWithColumn done n).isSome
        else usingColumns
      let mut merged : List Nat := []
      let mut equalities : List Expr := []
      for n in names do
        let some j := s.columns.findIdx? (sameName ·.1 n) | throw (cannotJoin n)
        let some (i, k) := firstWithColumn done n | throw (cannotJoin n)
        merged := merged ++ [j]
        equalities := equalities ++ [.binary .eq (columnRef done i k) (columnRef (done ++ [s]) done.length j)]
      done := done ++ [{ s with merged }]
      terms := terms ++ [equalities]
  pure (done, terms)

def conjunction : List Expr → Option Expr
  | [] => none
  | c :: cs => some (cs.foldl (.binary .and) c)

/-- The result columns `*` or `t.*` stands for in a frame: each column of the sources
`keep` picks, those merged into an earlier source left out unless `whole`. -/
def starColumns (frame : List Source) (keep : Source → Bool) (whole : Bool) : List ResultColumn :=
  ((List.range frame.length).zip frame).flatMap fun (i, s) =>
    if keep s then
      ((List.range s.columns.length).zip s.columns).filterMap fun (j, (n, _)) =>
        if whole || !s.merged.contains j then some (.expr (columnRef frame i j) none n) else none
    else []

def renameColumns (table : String) (names : List String) (columns : List (String × Affinity)) :
    Except SqlError (List (String × Affinity)) :=
  if names.isEmpty then .ok columns
  else if names.length != columns.length then
    .error { message := "table " ++ table ++ " has " ++ toString columns.length ++ " values for " ++
      toString names.length ++ " columns" }
  else .ok ((names.zip columns).map fun (n, (_, a)) => (n, a))

def Query.resultCollations : Nat → Query → List Collation
  | 0, _ => []
  | f + 1, q =>
    match q with
    | .select _ columns .. => columns.map fun
      | .expr e _ _ => (e.collation? 100).getD .binary
      | _ => .binary
    | .compound first .. => Query.resultCollations f first
    | .recursive _ _ base .. => Query.resultCollations f base
    | .values _ => []

def resultName (frame : List Source) : ResultColumn → String × Affinity
  | .expr e asName text =>
    let own : Option (String × Affinity) := match e with
      | .bound 0 i (some j) a _ =>
        ((frame[i]?).bind fun (s : Source) => (s.columns[j]?).map (·.1)).map (·, a)
      | _ => none
    match asName, own with
    | some a, own => (a, (own.map (·.2)).getD (e.affinity?.getD .blob))
    | none, some o => o
    | none, none => (text, e.affinity?.getD .blob)
  | _ => ("", .blob)

/-- Reads unqualified names that no source of the frame has as the result columns
they alias, as a query's conditions may. -/
def withAliases (frame : List Source) (columns : List ResultColumn) (e : Expr) : Expr :=
  let aliases := columns.filterMap fun
    | .expr a (some n) _ => some (n, a)
    | _ => none
  if aliases.isEmpty then e
  else e.mapColumns (fun q n =>
    if q.isSome then none
    else match lookupInFrame frame none n with
      | .ok none => (aliases.find? (sameName ·.1 n)).map (·.2)
      | _ => none) 1000

mutual

def sourceOf : Nat → Database → String → Option String → Except SqlError Source
  | 0, _, _, _ => .error { message := "too many levels of views" }
  | f + 1, db, table, asName =>
    let name := asName.getD table
    if isSchemaTable table then .ok { name, table, columns := schemaColumns, hasRowid := true }
    else match db.findTable? table with
      | some t =>
        .ok { name, table := t.name, columns := t.columns.map (fun c => (c.name, c.affinity)),
              hasRowid := !t.withoutRowid, collations := t.columns.map (·.collation) }
      | none =>
        match db.findView? table with
        | some q =>
          match resolveQuery f db [] q with
          | .ok (q', cols) =>
            .ok { name, table, columns := cols, hasRowid := true, collations := q'.resultCollations 100 }
          | .error e => .error e.inSchema
        | none => .error { message := "no such table: " ++ table }

/-- A source of a `FROM` clause as its query sees it, with the query it reads resolved
in the enclosing scope. -/
def fromItemSource : Nat → Database → List (List Source) → FromItem →
    Except SqlError (FromItem × Source)
  | 0, _, _, _ => .error { message := "too many levels of views" }
  | f + 1, db, scope, item =>
    match item with
    | .table t a _ => do pure (item, ← sourceOf f db t a)
    | .query q a cs spec => do
      let (q', cols) ← resolveQuery f db scope q
      let name := a.getD ""
      let cols ← renameColumns name cs cols
      pure (.query q' a cs spec,
        { name, table := name, columns := cols, hasRowid := false, collations := q'.resultCollations 100 })
    | .working w a cs _ => pure (item, { name := a.getD w, table := w, columns := cs, hasRowid := false })

/-- Resolves the names of a query within a scope; returns the resolved query and the
names and affinities of its result columns. -/
def resolveQuery : Nat → Database → List (List Source) → Query →
    Except SqlError (Query × List (String × Affinity))
  | 0, _, _, _ => .error { message := "expression tree is too large" }
  | f + 1, db, scope, q =>
    match q with
    | .values rows => do
      let rows' ← rows.mapM fun r => r.mapM (resolveExpr f db scope)
      let width := (rows.head?.map List.length).getD 0
      pure (.values rows', (List.range width).map fun i => ("column" ++ toString (i + 1), .blob))
    | .compound first rest orderBy limit offset => do
      let (first', cols) ← resolveQuery f db scope first
      let rest' ← rest.mapM fun (op, part) => do
        let (part', partCols) ← resolveQuery f db scope part
        pure (op, part', partCols)
      -- an ordering term names a result column by number, or by a name some part gives it
      let orderBy' ← ((List.range orderBy.length).zip orderBy).mapM fun (i, (e, o)) => do
        let (core, wrap) : Expr × (Expr → Expr) := match e with
          | .collate a c => (a, (.collate · c))
          | a => (a, id)
        match core.integerTerm? with
        | some k =>
          if k < 1 || k > cols.length then throw (termOutOfRange "ORDER" i cols.length)
          pure (wrap (.lit (.int k)), o)
        | none =>
          let partNames : List (List (String × Affinity)) := cols :: rest'.map (·.2.2)
          let found := match core with
            | .column none n _ _ => partNames.findSome? fun names => names.findIdx? (sameName ·.1 n)
            | _ => none
          match found with
          | some j => pure (wrap (.lit (.int (j + 1))), o)
          | none => throw ({ message := ordinal (i + 1) ++
              " ORDER BY term does not match any column in the result set" } : SqlError)
      for (op, _, partCols) in rest' do
        if partCols.length != cols.length then
          throw { message := "SELECTs to the left and right of " ++ op ++
            " do not have the same number of result columns" }
      let limit' ← limit.mapM (resolveExpr f db scope)
      let offset' ← offset.mapM (resolveExpr f db scope)
      pure (.compound first' (rest'.map fun (op, part, _) => (op, part)) orderBy' limit' offset', cols)
    | .recursive name columnNames base step unionAll limit => do
      let (base', baseCols) ← resolveQuery f db scope base
      let cols ← renameColumns name columnNames baseCols
      let (step', stepCols) ← resolveQuery f db scope (step.mapSources (fillWorking name cols) f)
      if stepCols.length != cols.length then
        throw { message := "SELECTs to the left and right of " ++ (if unionAll then "UNION ALL" else "UNION") ++
          " do not have the same number of result columns" }
      let limit' ← limit.mapM (resolveExpr f db scope)
      pure (.recursive name columnNames base' step' unionAll limit', cols)
    | .select distinct columns sources filter groupBy having orderBy limit offset => do
      let items ← sources.mapM (fromItemSource f db scope)
      let (frame, usingTerms) ← mergeJoinColumns (items.map (·.2)) (sources.map FromItem.spec)
      let inner := frame :: scope
      for c in columns do
        match c with
        | .tableStar t =>
          unless frame.any (fun s => sameName s.name t) do throw { message := "no such table: " ++ t }
        | .star => if frame.isEmpty then throw { message := "no tables specified" }
        | .expr .. => pure ()
      let expanded := columns.flatMap fun
        | .star => starColumns frame (!·.qualifiedOnly) false
        | .tableStar t => starColumns frame (sameName ·.name t) true
        | c => [c]
      let columns' ← expanded.mapM fun
        | .expr e asName text => do pure (ResultColumn.expr (← resolveExpr f db inner e) asName text)
        | c => pure c
      let names := columns'.map (resultName frame)
      let having' ← having.mapM (resolveExpr f db inner ∘ withAliases frame columns)
      let filter' ← filter.mapM (resolveExpr f db inner ∘ withAliases frame columns)
      let specs' ← ((items.map (·.1)).zip usingTerms).mapM fun (item, equalities) => do
        match item.spec with
        | .join left _ on _ =>
          let on' ← on.mapM (resolveExpr f db inner)
          pure (JoinSpec.join left false (conjunction (equalities ++ on'.toList)) [])
      let sources' := ((items.map (·.1)).zip specs').map fun (item, spec) =>
        match item with
        | .table t a _ => FromItem.table t a spec
        | .query q a cs _ => .query q a cs spec
        | .working w a cs _ => .working w a cs spec
      let orderBy' ← ((List.range orderBy.length).zip orderBy).mapM fun (i, (e, o)) => do
        match e with
        | .column none n _ _ =>
          if columns.any (fun | .expr _ (some a) _ => sameName a n | _ => false) then pure (e, o)
          else pure (← resolveExpr f db inner e, o)
        | _ =>
          match e.integerTerm? with
          | some k =>
            if k < 1 || k > columns'.length then throw (termOutOfRange "ORDER" i columns'.length)
            pure (.lit (.int k), o)
          | none => pure (← resolveExpr f db inner (withAliases frame columns e), o)
      let groupBy' ← ((List.range groupBy.length).zip groupBy).mapM fun (i, e) => do
        match e.integerTerm? with
        | some k =>
          if k < 1 || k > columns'.length then throw (termOutOfRange "GROUP" i columns'.length)
          match columns'[k.toNat - 1]? with
          | some (.expr r _ _) => pure r
          | _ => pure (.lit .null)
        | none => resolveExpr f db inner (withAliases frame columns e)
      let limit' ← limit.mapM (resolveExpr f db scope)
      let offset' ← offset.mapM (resolveExpr f db scope)
      pure (.select distinct columns' sources' filter' groupBy' having' orderBy' limit' offset', names)

def resolveExpr : Nat → Database → List (List Source) → Expr → Except SqlError Expr
  | 0, _, _, _ => .error { message := "expression tree is too large" }
  | f + 1, db, scope, e =>
    match e with
    | .column qualifier name quoted offset => do
      match ← lookupColumn scope 0 qualifier name with
      | some b => pure b
      | none =>
        if quoted && qualifier.isNone then pure (.lit (.text name))
        else throw (noSuchColumn qualifier name offset)
    | .unary op a => do pure (.unary op (← resolveExpr f db scope a))
    | .binary op a b => do pure (.binary op (← resolveExpr f db scope a) (← resolveExpr f db scope b))
    | .isNull a n => do pure (.isNull (← resolveExpr f db scope a) n)
    | .inList a items n => do
      pure (.inList (← resolveExpr f db scope a) (← items.mapM (resolveExpr f db scope)) n)
    | .inQuery a q n => do
      let (q', _) ← resolveQuery f db scope q
      pure (.inQuery (← resolveExpr f db scope a) q' n)
    | .exists q => do
      let (q', _) ← resolveQuery f db scope q
      pure (.exists q')
    | .scalar q => do
      let (q', _) ← resolveQuery f db scope q
      pure (.scalar q')
    | .call name args star distinct => do
      checkCall name (if star then 0 else args.length)
      pure (.call name (← args.mapM (resolveExpr f db scope)) star distinct)
    | .cast a t => do pure (.cast (← resolveExpr f db scope a) t)
    | .between a lo hi n => do
      pure (.between (← resolveExpr f db scope a) (← resolveExpr f db scope lo)
        (← resolveExpr f db scope hi) n)
    | .like a p esc g n => do
      pure (.like (← resolveExpr f db scope a) (← resolveExpr f db scope p)
        (← esc.mapM (resolveExpr f db scope)) g n)
    | .cases operand arms otherwise => do
      let operand' ← operand.mapM (resolveExpr f db scope)
      let arms' ← arms.mapM fun (c, r) => do
        pure (← resolveExpr f db scope c, ← resolveExpr f db scope r)
      pure (.cases operand' arms' (← otherwise.mapM (resolveExpr f db scope)))
    | .collate a c => do
      if (Collation.ofName? c).isNone then throw { message := "no such collation sequence: " ++ c }
      pure (.collate (← resolveExpr f db scope a) c)
    | other => pure other

end

end Sql

end KvStore
