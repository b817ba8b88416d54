import KvStore.Decimal.Binary64

namespace KvStore

inductive JsonNumber where
  | nat (n : Nat)
  | negInt (i : Int)
  | float (x : Binary64)
  deriving BEq, Repr, Inhabited

inductive Json where
  | null
  | bool (b : Bool)
  | num (n : JsonNumber)
  | str (s : String)
  | arr (items : List Json)
  | obj (fields : List (String × Json))
  deriving Repr, Inhabited

namespace Json

def int (i : Int) : Json :=
  if 0 ≤ i then .num (.nat i.toNat) else .num (.negInt i)

def nat (n : Nat) : Json := .num (.nat n)

def opt {α : Type} (f : α → Json) : Option α → Json
  | some a => f a
  | none => .null

def field? (j : Json) (key : String) : Option Json :=
  match j with
  | .obj fields => (fields.reverse.find? (·.1 == key)).map (·.2)
  | _ => none

def getStr? : Json → Option String
  | .str s => some s
  | _ => none

def getBool? : Json → Option Bool
  | .bool b => some b
  | _ => none

def getArr? : Json → Option (List Json)
  | .arr xs => some xs
  | _ => none

def getObj? : Json → Option (List (String × Json))
  | .obj fs => some fs
  | _ => none

def getInt? : Json → Option Int
  | .num (.nat n) => some n
  | .num (.negInt i) => some i
  | _ => none

def getNat? : Json → Option Nat
  | .num (.nat n) => some n
  | _ => none

def isNull : Json → Bool
  | .null => true
  | _ => false

def str? (j : Json) (key : String) : Option String := (j.field? key).bind getStr?

def nat? (j : Json) (key : String) : Option Nat := (j.field? key).bind getNat?

def intField? (j : Json) (key : String) : Option Int := (j.field? key).bind getInt?

def bool? (j : Json) (key : String) : Option Bool := (j.field? key).bind getBool?

def arr? (j : Json) (key : String) : Option (List Json) := (j.field? key).bind getArr?

def insertSorted (key : String) (v : Json) : List (String × Json) → List (String × Json)
  | [] => [(key, v)]
  | (k, w) :: rest =>
    if key = k then (key, v) :: rest
    else if key < k then (key, v) :: (k, w) :: rest
    else (k, w) :: insertSorted key v rest

end Json

end KvStore
