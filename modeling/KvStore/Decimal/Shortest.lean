import KvStore.Decimal.Binary64

namespace KvStore

/-- A positive decimal `0.d₁d₂…dₙ × 10 ^ point`, its digits without trailing zeros. -/
structure DecimalDigits where
  digits : List Nat
  point : Int
  deriving Repr, BEq, Inhabited

def decimalLength (n : Nat) : Nat :=
  if h : n = 0 then 0 else decimalLength (n / 10) + 1
termination_by n
decreasing_by exact Nat.div_lt_self (Nat.pos_of_ne_zero h) (by decide)

def digitsOf (n : Nat) : List Nat :=
  if n < 10 then [n] else digitsOf (n / 10) ++ [n % 10]
termination_by n
decreasing_by omega

def dropTrailingZeros (ds : List Nat) : List Nat :=
  (ds.reverse.dropWhile (· == 0)).reverse

def powTenRatio (e : Int) : Nat × Nat :=
  if 0 ≤ e then (Nat.pow 10 e.toNat, 1) else (1, Nat.pow 10 (-e).toNat)

def floorLog10 (num den : Nat) : Int :=
  if den ≤ num then (decimalLength (num / den) : Int) - 1
  else
    -- the least `j` with `10 ^ j * num ≥ den`
    let q := den / num
    let target := if den % num = 0 then q else q + 1
    Int.neg (decimalLength (target - 1))

namespace Binary64

/-- The interval of reals that read back as a finite positive number: bounds as
numerators over the common denominator `4 * 2 ^ -e`, and whether they are included. -/
def roundingInterval (x : Binary64) : Nat × Nat × Nat × Int × Bool :=
  let (m, e) := x.decode
  let lowerGap := if x.fraction = 0 ∧ x.biasedExponent > 1 then 1 else 2
  (4 * m - lowerGap, 4 * m, 4 * m + 2, e - 2, m % 2 == 0)

def readsBack (x : Binary64) (c : Nat) (k : Int) : Bool :=
  let (lo, _, hi, e, inclusive) := x.roundingInterval
  -- compare c * 10 ^ k against bound * 2 ^ e
  let (tn, td) := powTenRatio k
  let (bn, bd) := powTwo e
  let v := c * tn * bd
  let scale := td * bn
  if inclusive then lo * scale ≤ v ∧ v ≤ hi * scale
  else lo * scale < v ∧ v < hi * scale

def distance (x : Binary64) (c : Nat) (k : Int) : Nat :=
  let (_, mid, _, e, _) := x.roundingInterval
  let (tn, td) := powTenRatio k
  let (bn, bd) := powTwo e
  let v := c * tn * bd
  let w := mid * td * bn
  if v ≤ w then w - v else v - w

def shortestFrom (x : Binary64) (top : Int) : Nat → Nat → Option (Nat × Int)
  | 0, _ => none
  | fuel + 1, n =>
    let k := top - n + 1
    let (_, mid, _, e, _) := x.roundingInterval
    let (bn, bd) := powTwo e
    let (tn, td) := powTenRatio k
    -- floor of x / 10 ^ k
    let below := (mid * bn * td) / (bd * tn)
    let above := below + 1
    match x.readsBack below k, x.readsBack above k with
    | true, true =>
      let db := x.distance below k
      let da := x.distance above k
      if db < da then some (below, k)
      else if da < db then some (above, k)
      else if below % 2 = 0 then some (below, k) else some (above, k)
    | true, false => some (below, k)
    | false, true => some (above, k)
    | false, false => shortestFrom x top fuel (n + 1)

def shortest (x : Binary64) : DecimalDigits :=
  let (m, e) := x.decode
  let (bn, bd) := powTwo e
  let top := floorLog10 (m * bn) bd
  match x.shortestFrom top 17 1 with
  | some (c, k) =>
    let ds := digitsOf c
    { digits := dropTrailingZeros ds, point := k + ds.length }
  | none => { digits := [0], point := 1 }

end Binary64

/-- How a number's shortest digits are laid out as text. -/
structure FloatStyle where
  /-- Positional notation is used for decimal exponents `lowest ≤ d < highest`. -/
  lowest : Int
  highest : Int
  pointZero : Bool
  plusSign : Bool
  infinite : String
  notANumber : String

namespace FloatStyle

def digitText (ds : List Nat) : String :=
  String.ofList (ds.map fun d => Char.ofNat (48 + d))

def positional (s : FloatStyle) (ds : List Nat) (point : Int) : String :=
  if point ≤ 0 then
    "0." ++ String.ofList (List.replicate (-point).toNat '0') ++ digitText ds
  else
    let p := point.toNat
    if ds.length ≤ p then
      digitText ds ++ String.ofList (List.replicate (p - ds.length) '0') ++
        (if s.pointZero then ".0" else "")
    else
      digitText (ds.take p) ++ "." ++ digitText (ds.drop p)

def scientific (s : FloatStyle) (ds : List Nat) (point : Int) : String :=
  let exp := point - 1
  let mantissa := match ds with
    | [] => "0"
    | [d] => digitText [d]
    | d :: rest => digitText [d] ++ "." ++ digitText rest
  let sign := if exp < 0 then "-" else if s.plusSign then "+" else ""
  mantissa ++ "e" ++ sign ++ toString exp.natAbs

def render (s : FloatStyle) (x : Binary64) : String :=
  let sign := if x.negative then "-" else ""
  if x.isNaN then s.notANumber
  else if !x.isFinite then sign ++ s.infinite
  else if x.isZero then sign ++ (if s.pointZero then "0.0" else "0")
  else
    let d := x.shortest
    let exp := d.point - 1
    if s.lowest ≤ exp ∧ exp < s.highest then sign ++ s.positional d.digits d.point
    else sign ++ s.scientific d.digits d.point

end FloatStyle

/-- JSON text of a number: positional for decimal exponents in `[-5, 16)`, with a
fractional part always shown; otherwise scientific with the exponent's sign. -/
def FloatStyle.json : FloatStyle :=
  { lowest := -5, highest := 16, pointZero := true, plusSign := true,
    infinite := "null", notANumber := "null" }

/-- Debugging text of a number: positional for decimal exponents in `[-4, 16)`, a
fractional part always shown; otherwise scientific with a bare exponent. -/
def FloatStyle.debug : FloatStyle :=
  { lowest := -4, highest := 16, pointZero := true, plusSign := false,
    infinite := "inf", notANumber := "NaN" }

def FloatStyle.plain : FloatStyle :=
  { lowest := -100000, highest := 100000, pointZero := true, plusSign := false,
    infinite := "inf", notANumber := "NaN" }

end KvStore
