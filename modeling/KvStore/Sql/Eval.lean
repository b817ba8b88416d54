import KvStore.Sql.JsonFunction
import KvStore.Sql.DateTime

namespace KvStore

namespace Sql

/-- What evaluation sees: the database, the bound parameters, and the current row of
each source of each enclosing query, innermost first. -/
structure Env where
  db : Database
  params : List Value := []
  frames : List (List Row) := []
  inTrigger : Bool := false
  working : List (List Value) := []
  deriving Inhabited

/-- The row a left join stands in for a source no row matched: every column, its row
id too, reads null. -/
def Row.absent : Row := ⟨0, []⟩

def numberRows (rows : List (List Value)) : List Row :=
  (List.range rows.length).zip rows |>.map fun (i, vs) => ⟨i + 1, vs⟩

def recursionBound : Nat := 100000

def ConflictAction.undo : ConflictAction → Undo
  | .fail => .nothing
  | .rollback => .transaction
  | _ => .statement

def Expr.hasAggregate : Nat → Expr → Bool
  | 0, _ => false
  | f + 1, e =>
    match e with
    | .call name args star _ => isAggregateCall name (if star then 0 else args.length) ||
        nameKey name == "count" || args.any (hasAggregate f)
    | .unary _ a | .isNull a _ | .cast a _ | .collate a _ => hasAggregate f a
    | .binary _ a b => hasAggregate f a || hasAggregate f b
    | .inList a items _ => hasAggregate f a || items.any (hasAggregate f)
    | .inQuery a _ _ => hasAggregate f a
    | .between a b c _ => hasAggregate f a || hasAggregate f b || hasAggregate f c
    | .like a b c _ _ => hasAggregate f a || hasAggregate f b || (c.map (hasAggregate f)).getD false
    | .cases o arms d => (o.map (hasAggregate f)).getD false ||
        arms.any (fun (x, y) => hasAggregate f x || hasAggregate f y) || (d.map (hasAggregate f)).getD false
    | _ => false

def schemaRows (db : Database) : List Row :=
  let listed := db.objects.filter fun
    | .index i => i.listed
    | _ => true
  let (rows, _) := listed.foldl (fun (acc : List Row × Nat) o =>
    let (rows, page) := acc
    let (root, page') := match o with
      | .table t => if t.virtualModule.isSome then (0, page) else (page, page + 1)
      | .index _ => (page, page + 1)
      | _ => (0, page)
    let sql : Value := match o with
      | .table t => .text t.sql
      | .index i => (i.sql.map Value.text).getD .null
      | .view _ _ s => .text s
      | .trigger t => .text t.sql
    (rows ++ [⟨rows.length + 1, [.text o.kindName, .text o.name, .text o.tableName, .int root, sql]⟩], page'))
    ([], 2)
  rows

def compareRowsWith (colls : List Collation) (keys : List Value) (keys' : List Value) : Ordering :=
  match keys, keys' with
  | a :: as, b :: bs => (Value.orderBy (colls.headD .binary) a b).then (compareRowsWith colls.tail as bs)
  | [], [] => .eq
  | [], _ => .lt
  | _, [] => .gt

def compareRowsBy (keys : List Value) (keys' : List Value) : Ordering := compareRowsWith [] keys keys'

def Table.scanRows (t : Table) : List Row :=
  if t.withoutRowid then
    let pkCols := ((List.range t.columns.length).zip t.columns |>.filter (fun (_, c) => c.pk > 0)).mergeSort
      (fun a b => a.2.pk ≤ b.2.pk) |>.map (·.1)
    let key (r : Row) := pkCols.map fun i => (r.values[i]?).getD .null
    t.rows.mergeSort fun a b => compareRowsBy (key a) (key b) != .gt
  else t.rows.mergeSort fun a b => a.rowid ≤ b.rowid

def dedupRows (rows : List (List Value)) : List (List Value) :=
  rows.foldl (fun acc r => if acc.any (fun s => compareRowsBy s r == .eq) then acc else acc ++ [r]) []

def limitRows {α : Type} (rows : List α) (limit offset : Option Int) : List α :=
  let rows := rows.drop ((offset.getD 0).toNat)
  match limit with
  | some l => if l < 0 then rows else rows.take l.toNat
  | none => rows

def asInteger (v : Value) : Int :=
  match v.toNumber with
  | .int i => i
  | .real x => x.trunc
  | _ => 0

/-- Orders sort keys term by term: nulls where the term puts them, other values by the
term's collation, reversed when it descends. -/
def compareKeys : List (Value × SortOrder × Collation) → List (Value × SortOrder × Collation) → Ordering
  | (a, s, c) :: as, (b, _) :: bs =>
    let o : Ordering := match a.isNull, b.isNull with
      | true, true => .eq
      | true, false => if s.nullsFirst then .lt else .gt
      | false, true => if s.nullsFirst then .gt else .lt
      | false, false => let o := Value.orderBy c a b; if s.descending then o.swap else o
    o.then (compareKeys as bs)
  | _, _ => .eq

def groupRuns (colls : List Collation) : Nat → List (List Value × List Row) → List (List (List Row))
  | 0, _ => []
  | _, [] => []
  | f + 1, (k, r) :: rest =>
    let same := rest.takeWhile (fun p => compareRowsWith colls p.1 k == .eq)
    (r :: same.map (·.2)) :: groupRuns colls f (rest.drop same.length)

mutual

def eval : Nat → Env → Option (List (List Row)) → Expr → Except SqlError Value
  | 0, _, _, _ => .error { message := "expression tree is too large" }
  | f + 1, env, group, e =>
    match e with
    | .lit v => .ok v
    | .param i => .ok ((env.params[i - 1]?).getD .null)
    | .column q n _ o => .error (noSuchColumn q n o)
    | .bound depth source col _ _ =>
      match (env.frames[depth]?).bind (·[source]?) with
      | some r => match col with
        | some c => .ok ((r.values[c]?).getD .null)
        | none => .ok (if r.values.isEmpty then .null else .int r.rowid)
      | none => .ok .null
    | .unary op a => do
      let v ← eval f env group a
      match op with
      | .not => pure (match v.truth? with | some b => intValue !b | none => .null)
      | .plus => pure v
      | .neg => pure (match v.toNumber with
        | .int i => if i = minInt then .real (Binary64.ofInt (-i)) else .int (-i)
        | .real x => .real x.neg
        | other => other)
      | .bitNot => pure (match v.toNumber with
        | .int i => .int (-i - 1)
        | .real x => .int (-x.trunc - 1)
        | other => other)
    | .binary op a b => do
      match op with
      | .and =>
        let x := (← eval f env group a).truth?
        if x == some false then return intValue false
        let y := (← eval f env group b).truth?
        pure (match x, y with
          | _, some false => intValue false
          | some true, some true => intValue true
          | _, _ => .null)
      | .or =>
        let x := (← eval f env group a).truth?
        if x == some true then return intValue true
        let y := (← eval f env group b).truth?
        pure (match x, y with
          | _, some true => intValue true
          | some false, some false => intValue false
          | _, _ => .null)
      | .eq | .ne | .lt | .le | .gt | .ge =>
        let x ← eval f env group a
        let y ← eval f env group b
        pure (match compareWith x y a.affinity? b.affinity? (comparisonCollation a b) with
          | some o => intValue (orderingHolds op o)
          | none => .null)
      | .is | .isNot =>
        let x ← eval f env group a
        let y ← eval f env group b
        let same := match x, y with
          | .null, .null => true
          | .null, _ | _, .null => false
          | _, _ => compareWith x y a.affinity? b.affinity? (comparisonCollation a b) == some .eq
        pure (intValue (if op == .is then same else !same))
      | .concat =>
        let x ← eval f env group a
        let y ← eval f env group b
        pure (match x.asText?, y.asText? with
          | some s, some t => .text (s ++ t)
          | _, _ => .null)
      | .bitAnd | .bitOr | .shl | .shr =>
        pure (bitOperation op (← eval f env group a) (← eval f env group b))
      | _ => pure (arithmetic op (← eval f env group a) (← eval f env group b))
    | .isNull a negated => do
      let v ← eval f env group a
      pure (intValue (v.isNull != negated))
    | .inList a items negated => do
      let x ← eval f env group a
      if items.isEmpty then return intValue negated
      if x.isNull then return .null
      let vs ← items.mapM (eval f env group)
      let found := (vs.zip items).any fun (v, item) =>
        compareWith x v a.affinity? item.affinity? (comparisonCollation a item) == some .eq
      if found then pure (intValue !negated)
      else if vs.any (·.isNull) then pure .null
      else pure (intValue negated)
    | .inQuery a q negated => do
      let x ← eval f env group a
      let rows ← runQuery f env q
      if rows.isEmpty then return intValue negated
      if x.isNull then return .null
      let vs := rows.map fun r => (r.head?).getD .null
      let found := vs.any fun v => compareWith x v a.affinity? none ((a.collation? 100).getD .binary) == some .eq
      if found then pure (intValue !negated)
      else if vs.any (·.isNull) then pure .null
      else pure (intValue negated)
    | .exists q => do
      let rows ← runQuery f env q
      pure (intValue !rows.isEmpty)
    | .scalar q => do
      let rows ← runQuery f env q
      pure (((rows.head?).bind List.head?).getD .null)
    | .call name args star distinct =>
      if isAggregateCall name (if star then 0 else args.length) || (nameKey name == "count" && star) then
        match group with
        | some rows => do
          let values ← rows.mapM fun r =>
            args.mapM (eval f { env with frames := r :: env.frames.drop 1 } none)
          let values := if distinct then dedupRows values else values
          if nameKey name == "json_group_array" || nameKey name == "json_group_object" then
            jsonAggregate name (values.map fun vs =>
              (args.zip vs).map fun (e, v) => ({ value := v, isJson := e.yieldsJson v } : JsonArg))
          else aggregateCall name star values ((args.head?.bind (·.collation? 100)).getD .binary)
        | none => .error { message := "misuse of aggregate function " ++ name ++ "()" }
      else if nameKey name == "iif" then do
        -- conditions and values in pairs, a last odd one the value otherwise
        let mut result : Option Value := none
        let mut rest := args
        for _ in args do
          if result.isNone then
            match rest with
            | c :: v :: more =>
              if (← eval f env group c).truth? == some true then result := some (← eval f env group v)
              rest := more
            | [d] =>
              result := some (← eval f env group d)
              rest := []
            | [] => pure ()
        pure (result.getD .null)
      else do
        let vs ← args.mapM (eval f env group)
        if isJsonFunction name then
          jsonCall name ((args.zip vs).map fun (e, v) => { value := v, isJson := e.yieldsJson v })
        else if isDateFunction name then pure (dateCall env.db.clock name vs)
        else scalarCall name vs
    | .cast a t => do
      let v ← eval f env group a
      let aff := Affinity.ofDeclared t
      pure (match aff, v with
        | _, .null => .null
        | .integer, v => match v.toNumber with
          | .real x => .int x.trunc
          | n => n
        | .real, v => match v.toNumber with
          | .int i => .real (Binary64.ofInt i)
          | n => n
        | .numeric, v => (v.toNumber).withAffinity .numeric
        | .text, v => .text (v.asText?.getD "")
        | .blob, .text s => .blob s.toUTF8.toList
        | .blob, v => v)
    | .between a lo hi negated => do
      let x ← eval f env group a
      let l ← eval f env group lo
      let h ← eval f env group hi
      let ge := (compareWith x l a.affinity? lo.affinity? (comparisonCollation a lo)).map (· != .lt)
      let le := (compareWith x h a.affinity? hi.affinity? (comparisonCollation a hi)).map (· != .gt)
      pure (match ge, le with
        | some false, _ | _, some false => intValue negated
        | some true, some true => intValue !negated
        | _, _ => .null)
    | .like a p escape glob negated => do
      let x ← eval f env group a
      let pat ← eval f env group p
      let esc ← escape.mapM (eval f env group)
      if x.isNull || pat.isNull then return .null
      let escChar := esc.bind fun v => (textChars v).head?
      let hit := if glob then globMatch 100000 (textChars pat) (textChars x)
        else likeMatch escChar 100000 (textChars pat) (textChars x)
      pure (intValue (hit != negated))
    | .cases operand arms otherwise => do
      let base ← operand.mapM (eval f env group)
      let mut chosen : Option Expr := none
      for (c, r) in arms do
        if chosen.isNone then
          let cv ← eval f env group c
          let hit : Bool := match base, operand with
            | some b, some o => compareWith b cv o.affinity? c.affinity? (comparisonCollation o c) == some .eq
            | _, _ => cv.truth? == some true
          if hit then chosen := some r
      match chosen with
      | some r => eval f env group r
      | none => match otherwise with
        | some d => eval f env group d
        | none => pure .null
    | .collate a _ => eval f env group a
    | .raise action message =>
      if !env.inTrigger then .error { message := "RAISE() may only be used within a trigger-program" }
      else if action == .ignore then .error { message := "", ignoreRow := true }
      else .error { message, undo := action.undo }

def runQuery : Nat → Env → Query → Except SqlError (List (List Value))
  | 0, _, _ => .error { message := "expression tree is too large" }
  | f + 1, env, q =>
    match q with
    | .values rows => rows.mapM (·.mapM (eval f env none))
    | .compound first rest orderBy limit offset => do
      let firstRows ← runQuery f env first
      let combined ← rest.foldlM (fun acc (op, part) => do
        let rows ← runQuery f env part
        pure (match op with
          | "UNION ALL" => acc ++ rows
          | "UNION" => dedupRows (acc ++ rows) |>.mergeSort (fun a b => compareRowsBy a b != .gt)
          | "INTERSECT" => (dedupRows acc).filter (fun r => rows.any (compareRowsBy r · == .eq))
              |>.mergeSort (fun a b => compareRowsBy a b != .gt)
          | _ => (dedupRows acc).filter (fun r => !rows.any (compareRowsBy r · == .eq))
              |>.mergeSort (fun a b => compareRowsBy a b != .gt))) firstRows
      let colls := first.resultCollations 100
      let keyOf (row : List Value) : List (Value × SortOrder × Collation) := orderBy.map fun (e, o) =>
        match e with
        | .lit (.int k) => ((row[k.toNat - 1]?).getD .null, o, (colls[k.toNat - 1]?).getD .binary)
        | .collate (.lit (.int k)) c => ((row[k.toNat - 1]?).getD .null, o, (Collation.ofName? c).getD .binary)
        | _ => (.null, o, .binary)
      let sorted := if orderBy.isEmpty then combined else combined.mergeSort fun a b =>
        compareKeys (keyOf a) (keyOf b) != .gt
      let limit ← limit.mapM (fun e => do pure (asInteger (← eval f env none e)))
      let offset ← offset.mapM (fun e => do pure (asInteger (← eval f env none e)))
      pure (limitRows sorted limit offset)
    | .recursive _ _ base step unionAll limit => do
      let limit ← limit.mapM (fun e => do pure (asInteger (← eval f env none e)))
      let bound := match limit with
        | some l => if l < 0 then recursionBound else min l.toNat recursionBound
        | none => recursionBound
      let baseRows ← runQuery f env base
      let start := if unionAll then baseRows else dedupRows baseRows
      -- the rows not yet stepped from are those after `next`, in the order reached
      let mut reached : Array (List Value) := (start.take bound).toArray
      let mut next := 0
      for _ in [0:bound] do
        if h : next < reached.size then
          let r := reached[next]
          next := next + 1
          let found ← runQuery f { env with working := [r] } step
          for x in found do
            if reached.size < bound && (unionAll || !reached.any (compareRowsBy x · == .eq)) then
              reached := reached.push x
        else break
      pure reached.toList
    | .select distinct columns sources filter groupBy having orderBy limit offset => do
      -- each source's rows joined to every combination before it that its condition
      -- holds for; a left join with no such row adds an absent one
      let mut combos : List (List Row) := [[]]
      for item in sources do
        let rows ← itemRows f env item
        match item.spec with
        | .join left _ on _ =>
          combos ← combos.flatMapM fun combo => do
            let matched ← rows.filterM fun r => do
              match on with
              | some c =>
                pure ((← eval f { env with frames := (combo ++ [r]) :: env.frames } none c).truth? == some true)
              | none => pure true
            if left && matched.isEmpty then pure [combo ++ [Row.absent]]
            else pure (matched.map (combo ++ [·]))
      let kept ← combos.filterM fun combo => do
        match filter with
        | some c => pure ((← eval f { env with frames := combo :: env.frames } none c).truth? == some true)
        | none => pure true
      let aggregate := !groupBy.isEmpty || columns.any (fun
          | .expr e _ _ => e.hasAggregate 10000
          | _ => false) || (having.map (·.hasAggregate 10000)).getD false
      -- each output row keeps the frame and group it came from, for ordering
      let contexts : List (List Row × Option (List (List Row))) ← if aggregate then do
          let groups ← if groupBy.isEmpty then pure [kept]
            else do
              let keyed ← kept.mapM fun combo => do
                let ks ← groupBy.mapM (eval f { env with frames := combo :: env.frames } none)
                pure (ks, combo)
              let colls := groupBy.map fun e => (e.collation? 100).getD .binary
              let sorted := keyed.mergeSort fun a b => compareRowsWith colls a.1 b.1 != .gt
              pure (groupRuns colls (sorted.length + 1) sorted)
          let absentFrame := sources.map fun _ => Row.absent
          let withHaving ← groups.filterM fun g => do
            match having with
            | some h =>
              let rep := (g.getLast?).getD absentFrame
              pure ((← eval f { env with frames := rep :: env.frames } (some g) h).truth? == some true)
            | none => pure true
          pure (withHaving.map fun g => ((g.getLast?).getD absentFrame, some g))
        else pure (kept.map fun combo => (combo, none))
      let project (ctx : List Row × Option (List (List Row))) : Except SqlError (List Value) :=
        columns.mapM fun
          | .expr e _ _ => eval f { env with frames := ctx.1 :: env.frames } ctx.2 e
          | _ => pure .null
      let outputs ← contexts.mapM fun ctx => do pure (← project ctx, ctx)
      let columnCollation (i : Nat) : Collation :=
        match columns[i]? with
        | some (.expr e _ _) => (e.collation? 100).getD .binary
        | _ => .binary
      let outputs := if distinct then
          let colls := (List.range columns.length).map columnCollation
          outputs.foldl (fun acc o =>
            if acc.any (fun p => compareRowsWith colls p.1 o.1 == .eq) then acc else acc ++ [o]) []
        else outputs
      let aliasIndex (n : String) : Option Nat := columns.findIdx? fun
        | .expr _ (some a) _ => sameName a n
        | _ => false
      let keyed ← outputs.mapM fun (row, ctx) => do
        let ks ← orderBy.mapM fun (e, o) => do
          match e with
          | .lit (.int k) => pure ((row[k.toNat - 1]?).getD .null, o, columnCollation (k.toNat - 1))
          | .column none n _ _ =>
            match aliasIndex n with
            | some i => pure ((row[i]?).getD .null, o, columnCollation i)
            | none => pure (.null, o, .binary)
          | _ => pure (← eval f { env with frames := ctx.1 :: env.frames } ctx.2 e, o,
              (e.collation? 100).getD .binary)
        pure (row, ks)
      let sorted := if orderBy.isEmpty then keyed else keyed.mergeSort fun a b =>
        compareKeys a.2 b.2 != .gt
      let limit ← limit.mapM (fun e => do pure (asInteger (← eval f env none e)))
      let offset ← offset.mapM (fun e => do pure (asInteger (← eval f env none e)))
      pure ((limitRows sorted limit offset).map (·.1))

def itemRows : Nat → Env → FromItem → Except SqlError (List Row)
  | 0, _, _ => .error { message := "too many levels of views" }
  | f + 1, env, item =>
    match item with
    | .table t _ _ => rowsOf f env t
    | .query q _ _ _ => do pure (numberRows (← runQuery f env q))
    | .working .. => pure (numberRows env.working)

def rowsOf : Nat → Env → String → Except SqlError (List Row)
  | 0, _, _ => .error { message := "too many levels of views" }
  | f + 1, env, table =>
    if isSchemaTable table then .ok (schemaRows env.db)
    else match env.db.findTable? table with
      | some t => .ok t.scanRows
      | none =>
        match env.db.findView? table with
        | some q => do
          let (q', _) ← (resolveQuery f env.db [] q).mapError SqlError.inSchema
          pure (numberRows (← runQuery f { env with frames := [] } q'))
        | none => .error { message := "no such table: " ++ table }

end

end Sql

end KvStore
