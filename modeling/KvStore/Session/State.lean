import KvStore.Session.Command
import KvStore.Session.Dump
import KvStore.Store.Iterator
import KvStore.Store.Open

namespace KvStore

namespace Session

/-- An event receiver that keeps events of one type, or of every other type. -/
structure Filter where
  slot : Nat
  receiver : Receiver
  eventType : String
  /-- Keep events of `eventType` (true) or events of any other type (false). -/
  sameType : Bool
  deriving Inhabited

structure State where
  world : World
  specs : List StoreSpec
  stores : List Store := []
  opened : List (String × Nat) := []
  receivers : List (Nat × Receiver) := []
  iterators : List (String × (Nat × KeysetIterator)) := []
  filters : List (String × Filter) := []
  deriving Inhabited

def errorJson (e : Error) : Json := .obj [("error", .str e.kindName), ("message", .str e.message)]

def sessionError (kind message : String) : Json := .obj [("error", .str kind), ("message", .str message)]

def okJson (v : Json) : Json := .obj [("ok", v)]

def outcomeJson {α : Type} (f : α → Json) : Outcome α → Json
  | .ok a => okJson (f a)
  | .error e => errorJson e

def setAt {α : Type} (xs : List (String × α)) (k : String) (v : α) : List (String × α) :=
  if xs.any (·.1 == k) then xs.map fun (k', v') => if k' == k then (k', v) else (k', v') else xs ++ [(k, v)]

namespace State

def store (st : State) (slot : Nat) : Store := (st.stores[slot]?).getD default

def onWorld {α : Type} (st : State) (a : Act α) : State × Outcome α :=
  let (r, w) := a.run.run st.world
  ({ st with world := w }, r)

def onStore {α : Type} (st : State) (slot : Nat) (a : StoreAct α) : State × Outcome α :=
  let (r, (w, s)) := a.run.run (st.world, st.store slot)
  ({ st with world := w, stores := st.stores.set slot s }, r)

def slotOf (st : State) (name : String) : Option Nat := (st.opened.find? (·.1 == name)).map (·.2)

def openFamily (spec : StoreSpec) : Act Store :=
  match spec.family with
  | .sqlite => openSqliteStore spec.config
  | .bucket => openDocumentStore spec.config
  | .postgres => openPostgresStore spec.config

/-- Opens a store of the session, bootstrapping it at once when it connects, and
subscribes the session to its events. -/
def openSpec (st : State) (spec : StoreSpec) : State × Outcome Unit :=
  let (st, r) := st.onWorld (openFamily spec)
  match r with
  | .error e => (st, .error e)
  | .ok store =>
    let slot := st.stores.length
    let st := { st with stores := st.stores ++ [store] }
    let (st, ready) := if spec.connect then st.onStore slot Store.ready else (st, .ok ())
    match ready with
    | .error e => ({ st with stores := st.stores.dropLast }, .error e)
    | .ok () =>
      let s := st.store slot
      let (bus, receiver) := s.bus.subscribe
      ({ st with stores := st.stores.set slot { s with bus },
                 opened := setAt st.opened spec.name slot,
                 receivers := st.receivers ++ [(slot, receiver)] }, .ok ())

def nextDue (st : State) : Option (Nat × Nat) :=
  ((List.range st.stores.length).zip st.stores).foldl (fun best (slot, s) =>
    match s.reaper, best with
    | some r, some (_, d) => if r.due < d then some (slot, r.due) else best
    | some r, none => some (slot, r.due)
    | none, _ => best) none

def sweep (st : State) (slot : Nat) : State :=
  match (st.store slot).reaper with
  | none => st
  | some r =>
    let (st, goesOn) := st.onStore slot Store.sweep
    let next := match goesOn with
      | .ok true => some { r with due := r.due + r.interval * 1000000 }
      | _ => none
    let s' := st.store slot
    -- a reaper the sweep itself replaced stays
    if s'.reaper == some r then { st with stores := st.stores.set slot { s' with reaper := next } } else st

def setClock (st : State) (t : Nat) : State :=
  { st with world := { st.world with host := { st.world.host with clock := max t st.world.host.clock } } }

def advance : Nat → State → Nat → State
  | 0, st, target => st.setClock target
  | fuel + 1, st, target =>
    match st.nextDue with
    | some (slot, due) =>
      if due ≤ target then advance fuel ((st.setClock due).sweep slot) target
      else st.setClock target
    | none => st.setClock target

def sleep (st : State) (ms : Nat) : State :=
  advance 100000 st (st.world.host.clock + ms * 1000000)

end State

end Session

end KvStore
