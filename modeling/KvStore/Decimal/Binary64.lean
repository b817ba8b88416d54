namespace KvStore

structure Binary64 where
  bits : UInt64
  deriving BEq, DecidableEq, Inhabited, Repr

namespace Binary64

def negative (x : Binary64) : Bool := x.bits >>> 63 == 1

def biasedExponent (x : Binary64) : Nat := ((x.bits >>> 52) &&& 0x7FF).toNat

def fraction (x : Binary64) : Nat := (x.bits &&& 0xFFFFFFFFFFFFF).toNat

def isFinite (x : Binary64) : Bool := x.biasedExponent != 0x7FF

def isNaN (x : Binary64) : Bool := x.biasedExponent == 0x7FF && x.fraction != 0

def isZero (x : Binary64) : Bool := x.biasedExponent == 0 && x.fraction == 0

def decode (x : Binary64) : Nat × Int :=
  if x.biasedExponent = 0 then (x.fraction, -1074)
  else (x.fraction + Nat.pow 2 52, (x.biasedExponent : Int) - 1075)

def signBit (neg : Bool) : UInt64 := if neg then 0x8000000000000000 else 0

def zero (neg : Bool) : Binary64 := ⟨signBit neg⟩

def infinity (neg : Bool) : Binary64 := ⟨signBit neg ||| 0x7FF0000000000000⟩

def powTwo (e : Int) : Nat × Nat :=
  if 0 ≤ e then (Nat.pow 2 e.toNat, 1) else (1, Nat.pow 2 (-e).toNat)

def divRoundEven (num den : Nat) : Nat :=
  let q := num / den
  let r := num % den
  if 2 * r > den then q + 1
  else if 2 * r = den then (if q % 2 = 1 then q + 1 else q)
  else q

def floorLog2 (num den : Nat) : Int :=
  let k : Int := (num.log2 : Int) - (den.log2 : Int)
  let (n, d) := powTwo k
  -- `num / den < 2 ^ k` exactly when `num * d < den * n`
  if num * d < den * n then k - 1 else k

def ofRatio (neg : Bool) (num den : Nat) : Binary64 :=
  if num = 0 ∨ den = 0 then zero neg
  else
    let k := floorLog2 num den
    if k < -1022 then
      -- subnormal range: units of 2 ^ -1074
      let q := divRoundEven (num * Nat.pow 2 1074) den
      ⟨signBit neg ||| UInt64.ofNat q⟩
    else
      let (n, d) := powTwo (52 - k)
      let q := divRoundEven (num * n) (den * d)
      let (q, k) := if q = Nat.pow 2 53 then (Nat.pow 2 52, k + 1) else (q, k)
      if k > 1023 then infinity neg
      else ⟨signBit neg ||| UInt64.ofNat (((k + 1023).toNat <<< 52) + (q - Nat.pow 2 52))⟩

def ofScaled (neg : Bool) (m : Nat) (e : Int) : Binary64 :=
  let (n, d) := powTwo e
  ofRatio neg (m * n) d

def ofNat (n : Nat) : Binary64 := ofRatio false n 1

def ofInt (i : Int) : Binary64 := ofRatio (i < 0) i.natAbs 1

def neg (x : Binary64) : Binary64 := ⟨x.bits ^^^ 0x8000000000000000⟩

def mul (x y : Binary64) : Binary64 :=
  let (m1, e1) := x.decode
  let (m2, e2) := y.decode
  ofScaled (x.negative != y.negative) (m1 * m2) (e1 + e2)

def div (x y : Binary64) : Binary64 :=
  let (m1, e1) := x.decode
  let (m2, e2) := y.decode
  let (n, d) := powTwo (e1 - e2)
  ofRatio (x.negative != y.negative) (m1 * n) (m2 * d)

def powTen (i : Nat) : Binary64 := ofNat (Nat.pow 10 i)

def truncMagnitude (x : Binary64) : Nat :=
  let (m, e) := x.decode
  if 0 ≤ e then m <<< e.toNat else m >>> (-e).toNat

def trunc (x : Binary64) : Int :=
  if x.negative then -(x.truncMagnitude : Int) else x.truncMagnitude

def compareMagnitudePowTwo (x : Binary64) (p : Nat) : Ordering :=
  let (m, e) := x.decode
  let (n, d) := powTwo e
  compare (m * n) (Nat.pow 2 p * d)

def toRatio (x : Binary64) : Bool × Nat × Nat :=
  let (m, e) := x.decode
  let (n, d) := powTwo e
  (x.negative, m * n, d)

def compareValue (x y : Binary64) : Ordering :=
  let (sx, nx, dx) := x.toRatio
  let (sy, ny, dy) := y.toRatio
  let ix : Int := if sx then -((nx * dy : Nat) : Int) else ((nx * dy : Nat) : Int)
  let iy : Int := if sy then -((ny * dx : Nat) : Int) else ((ny * dx : Nat) : Int)
  compare ix iy

def compareInt (x : Binary64) (i : Int) : Ordering :=
  let (s, n, d) := x.toRatio
  let lhs : Int := if s then -((n : Nat) : Int) else (n : Int)
  compare lhs (i * (d : Int))

def toFloat (x : Binary64) : Float := Float.ofBits x.bits

def ofFloat (f : Float) : Binary64 := ⟨f.toBits⟩

def isIntegral (x : Binary64) : Bool :=
  let (_, n, d) := x.toRatio
  n % d == 0

end Binary64

end KvStore
