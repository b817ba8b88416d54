import KvStore.Sql.Resolve

namespace KvStore

namespace Sql

def intValue (b : Bool) : Value := .int (if b then 1 else 0)

def comparisonOperands (a b : Value) (aa ab : Option Affinity) : Value × Value :=
  let numeric (x : Option Affinity) := x == some .integer || x == some .real || x == some .numeric
  if numeric aa && !numeric ab then (a, b.withAffinity .numeric)
  else if numeric ab && !numeric aa then (a.withAffinity .numeric, b)
  else if aa == some .text && ab.isNone then (a, b.withAffinity .text)
  else if ab == some .text && aa.isNone then (a.withAffinity .text, b)
  else (a, b)

def compareWith (a b : Value) (aa ab : Option Affinity) (c : Collation := .binary) : Option Ordering :=
  if a.isNull || b.isNull then none
  else
    let (x, y) := comparisonOperands a b aa ab
    some (Value.orderBy c x y)

def orderingHolds (op : BinaryOp) (o : Ordering) : Bool :=
  match op with
  | .eq | .is => o == .eq
  | .ne | .isNot => o != .eq
  | .lt => o == .lt
  | .le => o != .gt
  | .gt => o == .gt
  | .ge => o != .lt
  | _ => false

def arithmetic (op : BinaryOp) (a b : Value) : Value :=
  match a.toNumber, b.toNumber with
  | .null, _ | _, .null => .null
  | .int x, .int y =>
    match op with
    | .add => let r := x + y; if minInt ≤ r ∧ r ≤ maxInt then .int r else .real (Binary64.ofInt r)
    | .sub => let r := x - y; if minInt ≤ r ∧ r ≤ maxInt then .int r else .real (Binary64.ofInt r)
    | .mul => let r := x * y; if minInt ≤ r ∧ r ≤ maxInt then .int r else .real (Binary64.ofInt r)
    | .div => if y = 0 then .null else .int (x.tdiv y)
    | .rem => if y = 0 then .null else .int (x.tmod y)
    | _ => .null
  | x, y =>
    let real : Value → Binary64
      | .int i => Binary64.ofInt i
      | .real r => r
      | _ => Binary64.zero false
    let (p, q) := (real x, real y)
    match op with
    | .add => .real (p.add q)
    | .sub => .real (p.add q.neg)
    | .mul => .real (p.mul q)
    | .div => if q.isZero then .null else .real (p.div q)
    | .rem =>
      let (i, j) := (p.trunc, q.trunc)
      if j = 0 then .null else .real (Binary64.ofInt (i.tmod j))
    | _ => .null

def bitOperation (op : BinaryOp) (a b : Value) : Value :=
  let asInt : Value → Option Int
    | .int i => some i
    | .real r => some r.trunc
    | .null => none
    | v => match v.toNumber with
      | .int i => some i
      | .real r => some r.trunc
      | _ => some 0
  match asInt a, asInt b with
  | some x, some y =>
    let wrap (n : Int) : Int := Int.bmod n (Nat.pow 2 64)
    let ux := (wrap x).toNat % Nat.pow 2 64
    let uy := (wrap y).toNat % Nat.pow 2 64
    let ux := if x < 0 then ((x + Int.pow 2 64).toNat) else ux
    let uy := if y < 0 then ((y + Int.pow 2 64).toNat) else uy
    let signed (n : Nat) : Int := if n ≥ Nat.pow 2 63 then (n : Int) - Int.pow 2 64 else n
    match op with
    | .bitAnd => .int (signed (ux &&& uy))
    | .bitOr => .int (signed (ux ||| uy))
    | .shl => if y ≥ 64 then .int 0 else if y < 0 then .int (x / Int.pow 2 (-y).toNat)
      else .int (signed ((ux <<< y.toNat) % Nat.pow 2 64))
    | .shr => if y < 0 then .int (signed ((ux <<< (-y).toNat) % Nat.pow 2 64))
      else .int (x / Int.pow 2 (min y.toNat 64))
    | _ => .null
  | _, _ => .null

/-- Whether text matches a `LIKE` pattern: `%` any run, `_` one character, ASCII
letters in either case; `escape` makes the next character literal. -/
def likeMatch (escape : Option Char) : Nat → List Char → List Char → Bool
  | 0, _, _ => false
  | f + 1, p, s =>
    match p, s with
    | [], s => s.isEmpty
    | c :: rest, s =>
      if some c == escape then
        match rest, s with
        | d :: rest', e :: s' => d.toLower == e.toLower && likeMatch escape f rest' s'
        | _, _ => false
      else if c == '%' then
        likeMatch escape f rest s || (match s with
          | _ :: s' => likeMatch escape f p s'
          | [] => false)
      else match s with
        | e :: s' => (c == '_' || c.toLower == e.toLower) && likeMatch escape f rest s'
        | [] => false

def globMatch : Nat → List Char → List Char → Bool
  | 0, _, _ => false
  | f + 1, p, s =>
    match p, s with
    | [], s => s.isEmpty
    | '*' :: rest, s => globMatch f rest s || (match s with
        | _ :: s' => globMatch f p s'
        | [] => false)
    | '?' :: rest, _ :: s' => globMatch f rest s'
    | '[' :: rest, e :: s' =>
      let (negate, body) := match rest with
        | '^' :: b => (true, b)
        | b => (false, b)
      let cls := body.takeWhile (· != ']')
      let after := body.drop (cls.length + 1)
      let rec inClass : List Char → Bool
        | a :: '-' :: b :: more => (a ≤ e && e ≤ b) || inClass more
        | a :: more => a == e || inClass more
        | [] => false
      (inClass cls != negate) && globMatch f after s'
    | c :: rest, e :: s' => c == e && globMatch f rest s'
    | _, [] => false

end Sql

end KvStore
