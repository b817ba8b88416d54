import KvStore.Json.Read
import KvStore.Json.Write

namespace KvStore

inductive Payload where
  | text (s : String)
  | structured (v : Json)
  deriving Inhabited

def minI64 : Int := -(Int.pow 2 63)

def maxI64 : Int := Int.pow 2 63 - 1

def clampI64 (i : Int) : Int := max minI64 (min maxI64 i)

def expiryOfFloat (x : Binary64) : Option Int :=
  if x.isFinite && x.compareMagnitudePowTwo 63 != .gt then some (clampI64 x.trunc) else none

def expiryOf (v : Json) : Option Int :=
  match v with
  | .obj _ =>
    match v.field? "expires" with
    | some (.num (.nat n)) => if (n : Int) ≤ maxI64 then some n else expiryOfFloat (Binary64.ofNat n)
    | some (.num (.negInt i)) => some i
    | some (.num (.float x)) => expiryOfFloat x
    | _ => none
  | _ => none

namespace Payload

def expires : Payload → Option Int
  | .text s => match Json.parse s with
    | .ok v => expiryOf v
    | .error _ => none
  | .structured v => expiryOf v

def stored : Payload → String
  | .text s => s
  | .structured v => v.render

end Payload

/-- A row ready to be written: the key without prefix, the stored text, the expiry. -/
structure StoredEntry where
  key : String
  value : String
  expires : Option Int
  deriving Repr, BEq, Inhabited

def StoredEntry.ofPayload (key : String) (p : Payload) : StoredEntry :=
  { key, value := p.stored, expires := p.expires }

end KvStore
