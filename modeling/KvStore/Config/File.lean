import KvStore.Config.Store
import KvStore.Toml.Read
import KvStore.Text.Quoted
import KvStore.Decimal.Shortest

namespace KvStore

namespace Toml

def Value.unexpected : Value → String
  | .str s _ => "string " ++ Text.quoted s
  | .int i _ => "integer `" ++ toString i ++ "`"
  | .float x _ => "floating point `" ++ FloatStyle.plain.render x ++ "`"
  | .bool b _ => "boolean `" ++ toString b ++ "`"
  | .datetime _ _ | .table _ _ => "map"
  | .arr _ _ => "sequence"

def Value.invalidType (v : Value) (expected : String) : Failure :=
  { message := "invalid type: " ++ v.unexpected ++ ", expected " ++ expected, span := v.span }

def Value.asString (v : Value) : Except Failure String :=
  match v with
  | .str s _ => .ok s
  | _ => .error (v.invalidType "a string")

def Value.asBool (v : Value) : Except Failure Bool :=
  match v with
  | .bool b _ => .ok b
  | _ => .error (v.invalidType "a boolean")

/-- An unsigned integer of at most `bound`, named `name` in failures. Integers are
offered as the first of a signed or unsigned 64-bit or 128-bit integer that holds
them; the 128-bit forms are refused as the wrong type. -/
def Value.asUnsigned (v : Value) (bound : Nat) (name : String) : Except Failure Nat :=
  match v with
  | .int i sp =>
    let wide : Int := Int.ofNat (Nat.pow 2 64)
    let fits64 := -(Int.ofNat (Nat.pow 2 63)) ≤ i ∧ i < wide
    if fits64 then
      if 0 ≤ i ∧ i ≤ (bound : Int) then .ok i.toNat
      else .error { message := "invalid value: integer `" ++ toString i ++ "`, expected " ++ name,
                    span := sp }
    else
      let width := if -(Int.ofNat (Nat.pow 2 127)) ≤ i ∧ i < Int.ofNat (Nat.pow 2 127) then "i128"
        else "u128"
      if i < -(Int.ofNat (Nat.pow 2 127)) ∨ Int.ofNat (Nat.pow 2 128) ≤ i then
        .error { message := "integer number overflowed", span := sp }
      else
        .error { message := "invalid type: integer `" ++ toString i ++ "` as " ++ width ++
                   ", expected " ++ name, span := sp }
  | _ => .error (v.invalidType name)

/-- The entries of a map of strings. A date or time reads as a map of one entry
holding its text. -/
def Value.asStringMap (v : Value) : Except Failure (List (String × String)) :=
  match v with
  | .table fields _ => fields.mapM fun (name, y) => do pure (name, ← y.asString)
  | .datetime text _ => .ok [("$__toml_private_datetime", text)]
  | _ => .error (v.invalidType "a map")

end Toml

open Toml

def maxU32 : Nat := Nat.pow 2 32 - 1

structure ConfigFile where
  uri : Option String := none
  table : Option String := none
  schema : Option String := none
  namespaceName : Option String := none
  keyLength : Option Nat := none
  namespaceLength : Option Nat := none
  iterationLimit : Option Nat := none
  clearExpiredIntervalSecs : Option Nat := none
  unlogged : Option Bool := none
  pool : Option PoolOptions := none
  deriving Repr, Inhabited

namespace ConfigFile

def setPoolField (p : PoolOptions) (key : String) (x : Value) : Except Failure PoolOptions :=
  match key with
  | "max_size" => do pure { p with maxSize := some (← x.asUnsigned maxU64 "usize") }
  | "driver_options" => do
    let options ← x.asStringMap
    pure { p with driverOptions := (PoolOptions.ofDriverOptions none options).driverOptions }
  | _ => pure p

/-- Pool options from a TOML value: a table of its keys, or an array holding the
maximum size and then the driver options, either of which may be left out. A date or
time reads as a map with no known key. -/
def poolOf (v : Value) : Except Failure PoolOptions :=
  match v with
  | .table fields _ => fields.foldlM (fun p (k, x) => setPoolField p k x) {}
  | .arr items _ => do
    let p : PoolOptions := {}
    let p ← match items with
      | x :: _ => setPoolField p "max_size" x
      | [] => pure p
    match items with
    | _ :: y :: _ => setPoolField p "driver_options" y
    | _ => pure p
  | .datetime _ _ => .ok {}
  | _ => .error (v.invalidType "struct PoolOptions")

def setField (f : ConfigFile) (key : String) (v : Value) : Except Failure ConfigFile :=
  match key with
  | "uri" => do pure { f with uri := some (← v.asString) }
  | "table" => do pure { f with table := some (← v.asString) }
  | "schema" => do pure { f with schema := some (← v.asString) }
  | "namespace" => do pure { f with namespaceName := some (← v.asString) }
  | "key_length" => do pure { f with keyLength := some (← v.asUnsigned maxU32 "u32") }
  | "namespace_length" => do pure { f with namespaceLength := some (← v.asUnsigned maxU32 "u32") }
  | "iteration_limit" => do pure { f with iterationLimit := some (← v.asUnsigned maxU64 "usize") }
  | "clear_expired_interval_secs" => do
    pure { f with clearExpiredIntervalSecs := some (← v.asUnsigned maxU64 "u64") }
  | "unlogged" => do pure { f with unlogged := some (← v.asBool) }
  | "pool" => do pure { f with pool := some (← poolOf v) }
  | _ => pure f

def ofToml (fields : List (String × Value)) : Except Failure ConfigFile :=
  fields.foldlM (fun f (k, v) => f.setField k v) {}

def parse (source : String) : Except String ConfigFile :=
  match Toml.parse source >>= ofToml with
  | .ok f => .ok f
  | .error e => .error (e.render source)

/-- The store configuration a file describes; it must name a URI. A sweep interval
of zero seconds means no sweep. -/
def toConfig (f : ConfigFile) : Outcome StoreConfig :=
  match f.uri with
  | none => .error (.invalidInput "config file has no 'uri'")
  | some uri =>
    let c := StoreConfig.ofUri uri
    .ok { c with
      table := f.table.getD c.table
      schema := f.schema
      namespaceName := f.namespaceName
      keyLength := f.keyLength.getD c.keyLength
      namespaceLength := f.namespaceLength.getD c.namespaceLength
      iterationLimit := f.iterationLimit.getD c.iterationLimit
      clearExpiredInterval := (f.clearExpiredIntervalSecs.filter (· > 0)).map (· * 1000)
      unlogged := f.unlogged.getD c.unlogged
      pool := f.pool.getD c.pool }

end ConfigFile

end KvStore
