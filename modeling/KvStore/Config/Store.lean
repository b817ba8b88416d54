import KvStore.Config.Pool

namespace KvStore

def maxU64 : Nat := Nat.pow 2 64 - 1

structure StoreConfig where
  uri : String
  table : String := "keyv"
  schema : Option String := none
  namespaceName : Option String := none
  keyLength : Nat := 255
  namespaceLength : Nat := 255
  iterationLimit : Nat := 10
  clearExpiredInterval : Option Nat := none
  unlogged : Bool := false
  pool : PoolOptions := {}
  deriving Repr, Inhabited

namespace StoreConfig

def defaultIterationLimit : Nat := 10

def ofUri (uri : String) : StoreConfig := { uri }

def backendKind (c : StoreConfig) : Outcome BackendKind := BackendKind.ofUri c.uri

def effectiveIterationLimit (c : StoreConfig) : Nat :=
  if c.iterationLimit = 0 then defaultIterationLimit else c.iterationLimit

def options (c : StoreConfig) : List (String × Json) :=
  let dialect := match c.backendKind with
    | .ok k => k.name
    | .error _ => "unknown"
  let base : List (String × Json) := [("dialect", .str dialect), ("table", .str c.table)]
  let add (k : String) (v : Json) (m : List (String × Json)) := Json.insertSorted k v m
  let m := base.foldl (fun m (k, v) => add k v m) []
  let m := match c.schema with | some s => add "schema" (.str s) m | none => m
  let m := match c.namespaceName with | some s => add "namespace" (.str s) m | none => m
  let m := add "keyLength" (Json.nat c.keyLength) m
  let m := add "namespaceLength" (Json.nat c.namespaceLength) m
  let m := add "iterationLimit" (Json.nat c.effectiveIterationLimit) m
  let m := match c.clearExpiredInterval with
    | some ms => add "clearExpiredInterval" (Json.nat (min ms maxU64)) m
    | none => m
  let m := match c.pool.maxSize with | some n => add "max" (Json.nat n) m | none => m
  c.pool.driverOptions.foldl (fun m (k, v) => add k (.str v) m) m

end StoreConfig

end KvStore
