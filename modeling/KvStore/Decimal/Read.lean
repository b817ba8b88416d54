import KvStore.Decimal.Shortest

namespace KvStore

namespace Binary64

def nan : Binary64 := ⟨0x7FF8000000000000⟩

/-- The nearest binary64 to `m × 10 ^ e`, negated when `neg`. A value with more than
310 digits before the point is past the largest float and one below `10 ^ -330` is
under half the least, so neither power is computed. -/
def ofDecimal (neg : Bool) (m : Nat) (e : Int) : Binary64 :=
  if m = 0 then zero neg
  else
    let top := (decimalLength m : Int) + e
    if top > 310 then infinity neg
    else if top < -330 then zero neg
    else if 0 ≤ e then ofRatio neg (m * Nat.pow 10 e.toNat) 1
    else ofRatio neg m (Nat.pow 10 (-e).toNat)

def digitValue (ds : List Char) : Nat := ds.foldl (fun n d => n * 10 + (d.toNat - 48)) 0

def readExponent (cs : List Char) : Option Int :=
  let (neg, ds) := match cs with
    | '-' :: r => (true, r)
    | '+' :: r => (false, r)
    | r => (false, r)
  if ds.isEmpty || !ds.all Char.isDigit then none
  else
    let v : Int := digitValue ds
    some (if neg then -v else v)

def readFloat? (s : String) : Option Binary64 :=
  let (neg, body) := match s.toList with
    | '-' :: r => (true, r)
    | '+' :: r => (false, r)
    | cs => (false, cs)
  let word := String.ofList (body.map Char.toLower)
  if word == "inf" || word == "infinity" then some (infinity neg)
  else if word == "nan" then some (if neg then nan.neg else nan)
  else
    let whole := body.takeWhile Char.isDigit
    let afterWhole := body.drop whole.length
    let (frac, rest) := match afterWhole with
      | '.' :: r => (r.takeWhile Char.isDigit, r.drop (r.takeWhile Char.isDigit).length)
      | r => ([], r)
    if whole.isEmpty && frac.isEmpty then none
    else
      let expo := match rest with
        | [] => some 0
        | 'e' :: r | 'E' :: r => readExponent r
        | _ => none
      expo.map fun e => ofDecimal neg (digitValue (whole ++ frac)) (e - frac.length)

end Binary64

end KvStore
