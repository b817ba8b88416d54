import KvStore.Config.Backend
import KvStore.Json.Write

namespace KvStore

structure PoolOptions where
  maxSize : Option Nat := none
  /-- Options passed to the database driver, sorted by name, one per name. -/
  driverOptions : List (String × String) := []
  deriving Repr, BEq, Inhabited

namespace PoolOptions

def insertOption (key value : String) : List (String × String) → List (String × String)
  | [] => [(key, value)]
  | (k, v) :: rest =>
    if key = k then (key, value) :: rest
    else if key < k then (key, value) :: (k, v) :: rest
    else (k, v) :: insertOption key value rest

def withDriverOption (p : PoolOptions) (key value : String) : PoolOptions :=
  { p with driverOptions := insertOption key value p.driverOptions }

def ofDriverOptions (maxSize : Option Nat) (options : List (String × String)) : PoolOptions :=
  options.foldl (fun p (k, v) => p.withDriverOption k v) { maxSize }

def validate (p : PoolOptions) (kind : BackendKind) : Outcome Unit :=
  match p.driverOptions.find? (fun (k, _) => !kind.allowedDriverOptions.contains k) with
  | some (k, _) =>
    .error (.invalidInput ("driver option '" ++ k ++ "' is not supported by the " ++
      kind.name ++ " backend"))
  | none => .ok ()

def toJson (p : PoolOptions) : Json :=
  let options := Json.obj (p.driverOptions.map fun (k, v) => (k, .str v))
  match p.maxSize with
  | some n => .obj [("max_size", Json.nat n), ("driver_options", options)]
  | none => .obj [("driver_options", options)]

def cacheKey (p : PoolOptions) : String := p.toJson.render

end PoolOptions

end KvStore
