import KvStore.Decimal.Significant
import KvStore.Text.Hex

namespace KvStore

namespace Sql

inductive Value where
  | null
  | int (i : Int)
  | real (x : Binary64)
  | text (s : String)
  | blob (bytes : List UInt8)
  deriving Repr, BEq, Inhabited

inductive Affinity where
  | text
  | numeric
  | integer
  | real
  | blob
  deriving Repr, BEq, DecidableEq, Inhabited

def minInt : Int := -(Int.pow 2 63)
def maxInt : Int := Int.pow 2 63 - 1

def Affinity.ofDeclared (declType : String) : Affinity :=
  let t := String.ofList (declType.toList.map Char.toUpper)
  let has (w : String) := (t.splitOn w).length > 1
  if has "INT" then .integer
  else if has "CHAR" || has "CLOB" || has "TEXT" then .text
  else if has "BLOB" || t.isEmpty then .blob
  else if has "REAL" || has "FLOA" || has "DOUB" then .real
  else .numeric

namespace Value

def realText (x : Binary64) : String :=
  if x.isNaN then "NaN"
  else if !x.isFinite then (if x.negative then "-Inf" else "Inf")
  else x.generalText 15 true

def typeName : Value → String
  | .null => "null"
  | .int _ => "integer"
  | .real _ => "real"
  | .text _ => "text"
  | .blob _ => "blob"

def asText? : Value → Option String
  | .null => none
  | .int i => some (toString i)
  | .real x => some (realText x)
  | .text s => some s
  | .blob b => some ((String.fromUTF8? (ByteArray.mk b.toArray)).getD "")

/-- Reads the numeric prefix of a text: sign, digits, fraction and exponent. Returns
the number and whether the whole text (blanks around it apart) was that number. -/
def numericPrefix (s : String) : Value × Bool :=
  let isSpace (c : Char) := c == ' ' || c == '\t' || c == '\n' || c == '\r' || c == '\x0b' || c == '\x0c'
  let cs := s.toList.dropWhile isSpace
  let (neg, cs) := match cs with
    | '-' :: r => (true, r)
    | '+' :: r => (false, r)
    | _ => (false, cs)
  let intDigits := cs.takeWhile Char.isDigit
  let cs := cs.drop intDigits.length
  let (fracDigits, cs, hasPoint) := match cs with
    | '.' :: r => let f := r.takeWhile Char.isDigit; (f, r.drop f.length, true)
    | _ => ([], cs, false)
  let (expo, cs, hasExp) := match cs with
    | 'e' :: r | 'E' :: r =>
      let (eneg, r') := match r with
        | '-' :: q => (true, q)
        | '+' :: q => (false, q)
        | _ => (false, r)
      let ds := r'.takeWhile Char.isDigit
      if ds.isEmpty then ((0 : Int), cs, false)
      else
        let v : Int := (ds.foldl (fun n (d : Char) => n * 10 + (d.toNat - 48)) 0 : Nat)
        (if eneg then -v else v, r'.drop ds.length, true)
    | _ => (0, cs, false)
  let whole := (cs.dropWhile isSpace).isEmpty
  if intDigits.isEmpty && fracDigits.isEmpty then (.int 0, false)
  else
    let digitValue (ds : List Char) : Nat := ds.foldl (fun n (d : Char) => n * 10 + (d.toNat - 48)) 0
    if !hasPoint && !hasExp then
      let n := digitValue intDigits
      let i : Int := if neg then -(n : Int) else n
      if minInt ≤ i ∧ i ≤ maxInt then (.int i, whole)
      else (.real (Binary64.ofRatio neg n 1), whole)
    else
      let m := digitValue (intDigits ++ fracDigits)
      let e10 : Int := expo - fracDigits.length
      let x := if 0 ≤ e10 then Binary64.ofRatio neg (m * Nat.pow 10 e10.toNat) 1
        else Binary64.ofRatio neg m (Nat.pow 10 (-e10).toNat)
      (.real x, whole)

def integralReal (x : Binary64) : Option Int :=
  if x.isFinite && x.isIntegral then
    let i := x.trunc
    if minInt ≤ i ∧ i ≤ maxInt then some i else none
  else none

def withAffinity (a : Affinity) (v : Value) : Value :=
  match a, v with
  | .text, .int _ | .text, .real _ => .text (v.asText?.getD "")
  | .real, .int i => .real (Binary64.ofInt i)
  | .real, .text s =>
    match numericPrefix s with
    | (.int i, true) => .real (Binary64.ofInt i)
    | (.real x, true) => .real x
    | _ => v
  | .numeric, .text s | .integer, .text s =>
    match numericPrefix s with
    | (.int i, true) => .int i
    | (.real x, true) => match integralReal x with
      | some i => .int i
      | none => .real x
    | _ => v
  | .numeric, .real x | .integer, .real x =>
    match integralReal x with
    | some i => .int i
    | none => v
  | _, _ => v

def toNumber : Value → Value
  | .int i => .int i
  | .real x => .real x
  | .text s => (numericPrefix s).1
  | .blob b => (numericPrefix ((String.fromUTF8? (ByteArray.mk b.toArray)).getD "")).1
  | .null => .null

def truth? (v : Value) : Option Bool :=
  match v.toNumber with
  | .null => none
  | .int i => some (i != 0)
  | .real x => some (!x.isZero)
  | _ => some false

def compareBytes : List UInt8 → List UInt8 → Ordering
  | [], [] => .eq
  | [], _ :: _ => .lt
  | _ :: _, [] => .gt
  | a :: as, b :: bs => (compare a b).then (compareBytes as bs)

def classRank : Value → Nat
  | .null => 0
  | .int _ | .real _ => 1
  | .text _ => 2
  | .blob _ => 3

def order (a b : Value) : Ordering :=
  match a, b with
  | .null, .null => .eq
  | .int i, .int j => compare i j
  | .int i, .real y => (y.compareInt i).swap
  | .real x, .int j => x.compareInt j
  | .real x, .real y => x.compareValue y
  | .text s, .text t => compareBytes s.toUTF8.toList t.toUTF8.toList
  | .blob s, .blob t => compareBytes s t
  | _, _ => compare a.classRank b.classRank

def isNull : Value → Bool
  | .null => true
  | _ => false

end Value

inductive Collation where
  | binary
  | nocase
  | rtrim
  deriving Repr, BEq, DecidableEq, Inhabited

namespace Collation

def ofName? (s : String) : Option Collation :=
  match String.ofList (s.toList.map Char.toUpper) with
  | "BINARY" => some .binary
  | "NOCASE" => some .nocase
  | "RTRIM" => some .rtrim
  | _ => none

def name : Collation → String
  | .binary => "BINARY"
  | .nocase => "NOCASE"
  | .rtrim => "RTRIM"

def key (c : Collation) (s : String) : List UInt8 :=
  let bytes := s.toUTF8.toList
  match c with
  | .binary => bytes
  | .nocase => bytes.map fun b => if 65 ≤ b && b ≤ 90 then b + 32 else b
  | .rtrim => (bytes.reverse.dropWhile (· == 32)).reverse

end Collation

def Value.orderBy (c : Collation) (a b : Value) : Ordering :=
  match a, b with
  | .text s, .text t => Value.compareBytes (c.key s) (c.key t)
  | _, _ => Value.order a b

end Sql

end KvStore
