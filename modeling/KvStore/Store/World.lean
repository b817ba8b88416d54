import KvStore.Host.Basic
import KvStore.Sql.Schema
import KvStore.Store.Pool
import KvStore.Store.Metrics
import KvStore.Logging.Event

namespace KvStore

structure World where
  host : Host
  databases : List (Nat × Sql.Database) := []
  pools : List Pool := []
  registry : List (PoolKey × Nat) := []
  metrics : Metrics := {}
  /-- Whether the PostgreSQL and Redis parts of the library are built in. -/
  fullFeatures : Bool := false
  unique : Nat := 0
  log : List LogEvent := []
  deriving Inhabited

abbrev Act := ExceptT Error (StateM World)

namespace World

def database (w : World) (id : Nat) : Sql.Database :=
  { ((w.databases.find? (·.1 == id)).map (·.2)).getD {} with clock := w.host.nowMillis }

def setDatabase (w : World) (id : Nat) (db : Sql.Database) : World :=
  if w.databases.any (·.1 == id) then
    { w with databases := w.databases.map fun (k, d) => if k == id then (k, db) else (k, d) }
  else { w with databases := w.databases ++ [(id, db)] }

def newDatabase (w : World) : World × Nat :=
  let id := w.databases.length
  ({ w with databases := w.databases ++ [(id, {})] }, id)

def pool (w : World) (id : Nat) : Pool := (w.pools[id]?).getD default

def record (w : World) (e : LogEvent) : World := { w with log := e :: w.log }

def setPool (w : World) (id : Nat) (p : Pool) : World :=
  { w with pools := w.pools.set id p }

def nowMillis (w : World) : Nat := w.host.nowMillis

/-- Closes and forgets the pool registered under a key, if any. Closing takes a
SQLite connection out of its pool. -/
def release (w : World) (key : PoolKey) : World :=
  match w.registry.find? (·.1 == key) with
  | none => w
  | some (_, id) =>
    let w := { w with registry := w.registry.filter (·.1 != key) }
    let p := w.pool id
    if p.closed then w
    else
      let w := w.setPool id p.close
      { w with metrics := w.metrics.add "storage_pools_closed_total" [("backend", p.connection.kind.name)] 1 }

def releaseAll (w : World) : World := w.registry.foldl (fun w e => w.release e.1) w

end World

namespace Act

def world : Act World := get

def modifyWorld (f : World → World) : Act Unit := modify f

def host : Act Host := do pure (← get).host

def setHost (h : Host) : Act Unit := modify fun w => { w with host := h }

def countOperation (backend operation status : String) : Act Unit :=
  modify fun w => { w with metrics := w.metrics.operation backend operation status }

def count (name : String) (labels : List (String × String)) (n : Nat) : Act Unit :=
  modify fun w => { w with metrics := w.metrics.add name labels n }

def log (level : LogLevel) (target message : String) (fields : List String := [])
    (span : Option LogSpan := none) : Act Unit :=
  modify (·.record { level, target, message, fields, span })

def fresh : Act Nat := do
  let w ← get
  set { w with unique := w.unique + 1 }
  pure w.unique

def attempt {α : Type} (a : Act α) : Act (Outcome α) :=
  ExceptT.mk do
    let r ← a.run
    pure (.ok r)

end Act

end KvStore
