import KvStore.Json.Value

namespace KvStore

inductive StoreEvent where
  | bootstrapped (backend table : String)
  | error (backend operation message : String)
  | reaped (backend : String) (removed : Nat)
  | disconnected (backend : String)
  deriving Repr, BEq, Inhabited

namespace StoreEvent

def typeName : StoreEvent → String
  | .bootstrapped _ _ => "bootstrapped"
  | .error _ _ _ => "error"
  | .reaped _ _ => "reaped"
  | .disconnected _ => "disconnected"

def toJson : StoreEvent → Json
  | .bootstrapped b t => .obj [("backend", .str b), ("table", .str t), ("type", .str "bootstrapped")]
  | .error b o m =>
    .obj [("backend", .str b), ("message", .str m), ("operation", .str o), ("type", .str "error")]
  | .reaped b n => .obj [("backend", .str b), ("removed", Json.nat n), ("type", .str "reaped")]
  | .disconnected b => .obj [("backend", .str b), ("type", .str "disconnected")]

end StoreEvent

structure EventBus where
  capacity : Nat := 256
  tail : Nat := 0
  held : List (Nat × StoreEvent) := []
  listeners : Nat := 0
  deriving Inhabited

structure Receiver where
  next : Nat
  deriving Repr, BEq, Inhabited

/-- What a receiver gets: an event, or the count of events it missed. -/
inductive Received where
  | event (e : StoreEvent)
  | lagged (missed : Nat)
  deriving Repr, BEq, Inhabited

namespace EventBus

def publish (bus : EventBus) (e : StoreEvent) : EventBus × Bool :=
  if bus.listeners = 0 then (bus, false)
  else
    let held := bus.held ++ [(bus.tail, e)]
    ({ bus with tail := bus.tail + 1, held := held.drop (held.length - bus.capacity) }, true)

def subscribe (bus : EventBus) : EventBus × Receiver :=
  ({ bus with listeners := bus.listeners + 1 }, ⟨bus.tail⟩)

def oldest (bus : EventBus) : Nat := ((bus.held.head?).map (·.1)).getD bus.tail

def receive (bus : EventBus) (r : Receiver) : Option Received × Receiver :=
  if bus.tail ≤ r.next then (none, r)
  else if r.next < bus.oldest then (some (.lagged (bus.oldest - r.next)), ⟨bus.oldest⟩)
  else
    match bus.held.find? (·.1 == r.next) with
    | some (_, e) => (some (.event e), ⟨r.next + 1⟩)
    | none => (none, r)

def drain (bus : EventBus) (r : Receiver) : List Received × Receiver :=
  go (bus.tail - r.next + 2) r []
where
  go : Nat → Receiver → List Received → List Received × Receiver
    | 0, r, acc => (acc.reverse, r)
    | fuel + 1, r, acc =>
      match bus.receive r with
      | (some x, r') => go fuel r' (x :: acc)
      | (none, r') => (acc.reverse, r')

end EventBus

end KvStore
