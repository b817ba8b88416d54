import KvStore.Sql.ForeignKey

namespace KvStore

namespace Sql

/-- Where a statement runs: at the top, or in a trigger's body for one row. -/
structure Invocation where
  /-- The sources of the trigger's `new` and `old` rows, and the rows. -/
  sources : List Source := []
  rows : List Row := []
  active : List String := []
  /-- The conflict action of the statement that fired the trigger, if it named one. -/
  action : Option ConflictAction := none
  deriving Inhabited

namespace Invocation

def inTrigger (inv : Invocation) : Bool := !inv.active.isEmpty

def scope (inv : Invocation) : List (List Source) := if inv.sources.isEmpty then [] else [inv.sources]

def frames (inv : Invocation) : List (List Row) := if inv.sources.isEmpty then [] else [inv.rows]

def actionFor (inv : Invocation) (own : Option ConflictAction) : Option ConflictAction :=
  match inv.action with
  | some a => some a
  | none => own

def env (inv : Invocation) (db : Database) (params : List Value) (frames : List (List Row)) : Env :=
  { db, params, frames := frames ++ inv.frames, inTrigger := inv.inTrigger }

end Invocation

def triggerDepth : Nat := 1000

abbrev StepRunner := Invocation → Database → Statement → Except SqlError Database

def TriggerEvent.covers (watched write : TriggerEvent) : Bool :=
  match watched, write with
  | .insert, .insert | .delete, .delete => true
  | .update cols, .update set => cols.isEmpty || cols.any fun c => set.any (sameName c ·)
  | _, _ => false

/-- The triggers a write on a table runs at the given time, in the order they run,
those in `active` left out. -/
def Database.firing (db : Database) (active : List String) (table : String) (timing : TriggerTiming)
    (write : TriggerEvent) : List Trigger :=
  (db.triggersOf table).reverse.filter fun t =>
    t.timing == timing && t.event.covers write && !active.any (sameName · t.name)

def rowSources (t : Table) (old new : Option Row) : List Source × List Row :=
  let source (n : String) : Source := { tableSource t (some n) with qualifiedOnly := true }
  let both := (new.map fun r => [(source "new", r)]).getD [] ++ (old.map fun r => [(source "old", r)]).getD []
  (both.map (·.1), both.map (·.2))

/-- Runs the triggers of a write of one row. Gives the database after them and whether
a `RAISE(IGNORE)` abandoned the row. -/
def fireTriggers (run : StepRunner) (inv : Invocation) (db : Database) (t : Table)
    (timing : TriggerTiming) (write : TriggerEvent) (action : Option ConflictAction)
    (old new : Option Row) : Except SqlError (Database × Bool) := do
  let (sources, rows) := rowSources t old new
  let mut db := db
  for trigger in db.firing inv.active t.name timing write do
    let inner : Invocation := { sources, rows, active := trigger.name :: inv.active, action }
    let holds ← match trigger.condition with
      | some c => do
        let c' ← (resolveExpr evalFuel db [sources] c).mapError SqlError.inSchema
        pure ((← eval evalFuel (inner.env db [] []) none c').truth? == some true)
      | none => pure true
    if holds then
      for step in trigger.body do
        match run inner db step with
        | .ok db' => db := db'
        | .error e => if e.ignoreRow then return (db, true) else throw e.inSchema
  pure (db, false)

/-- Resolves the names of a statement of a trigger's body in the scope of its row,
reporting the first error. -/
def checkStatement (db : Database) (scope : List (List Source)) : Statement → Except SqlError Unit
  | .query q => do discard (resolveQuery evalFuel db scope q)
  | .insert table _ _ source _ upsert => do
    let t ← tableNow db table
    match source with
    | .rows rows => for r in rows do for e in r do discard (resolveExpr evalFuel db scope e)
    | .query q => discard (resolveQuery evalFuel db scope q)
    | .defaults => pure ()
    if let some u := upsert then
      let inner := [tableSource t none] :: [excludedSource t] :: scope
      if let some (sets, cond) := u.update then
        for (_, e) in sets do discard (resolveExpr evalFuel db inner e)
        if let some c := cond then discard (resolveExpr evalFuel db inner c)
  | .update table asName _ sets filter => do
    let t ← tableNow db table
    let inner := [tableSource t asName] :: scope
    for (_, e) in sets do discard (resolveExpr evalFuel db inner e)
    if let some c := filter then discard (resolveExpr evalFuel db inner c)
  | .delete table asName filter => do
    let t ← tableNow db table
    if let some c := filter then discard (resolveExpr evalFuel db ([tableSource t asName] :: scope) c)
  | _ => pure ()

def triggerSources (db : Database) (tr : Trigger) : Except SqlError (List Source) := do
  let t ← triggerTable db tr.table
  pure (rowSources t
    (if tr.event == .insert then none else some default)
    (if tr.event == .delete then none else some default)).1

def checkTrigger (db : Database) (tr : Trigger) : Except SqlError Unit := do
  let sources ← triggerSources db tr
  if let some c := tr.condition then discard (resolveExpr evalFuel db [sources] c)
  for step in tr.body do checkStatement db [sources] step

def Statement.writes : Statement → List (String × TriggerEvent)
  | .insert table _ _ _ _ upsert =>
    (table, .insert) :: match upsert.bind (·.update) with
      | some (sets, _) => [(table, .update (sets.map (·.1)))]
      | none => []
  | .update table _ _ sets _ => [(table, .update (sets.map (·.1)))]
  | .delete table _ _ => [(table, .delete)]
  | _ => []

/-- Resolves, before a write runs, the triggers it may run at the given time, and in
turn those their statements may run, each trigger once; the first that does not
resolve fails the write. `depth` bounds the nesting. -/
def prepareTriggers : Nat → Database → List String → String → TriggerTiming → TriggerEvent →
    Except SqlError Unit
  | 0, _, _, _, _, _ => .ok ()
  | depth + 1, db, active, table, timing, write => do
    for tr in db.firing active table timing write do
      let inner := tr.name :: active
      let sources ← (triggerSources db tr).mapError SqlError.inSchema
      if let some c := tr.condition then
        discard ((resolveExpr evalFuel db [sources] c).mapError SqlError.inSchema)
      for step in tr.body do
        (checkStatement db [sources] step).mapError SqlError.inSchema
        for (target, event) in step.writes do
          prepareTriggers depth db inner target .before event
          prepareTriggers depth db inner target .after event

end Sql

end KvStore
