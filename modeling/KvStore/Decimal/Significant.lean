import KvStore.Decimal.Shortest

namespace KvStore

namespace Binary64

def add (x y : Binary64) : Binary64 :=
  let (sx, nx, dx) := x.toRatio
  let (sy, ny, dy) := y.toRatio
  let ix : Int := if sx then -((nx * dy : Nat) : Int) else ((nx * dy : Nat) : Int)
  let iy : Int := if sy then -((ny * dx : Nat) : Int) else ((ny * dx : Nat) : Int)
  let total := ix + iy
  if total = 0 then zero (sx && sy) else ofRatio (total < 0) total.natAbs (dx * dy)

/-- The first `n` significant digits of a finite nonzero number's magnitude, rounded to
nearest with ties away from zero (a digit of `5` or more after them rounds up), and
the decimal exponent of the first digit. -/
def significant (x : Binary64) (n : Nat) : List Nat × Int :=
  let (_, num, den) := x.toRatio
  let e := floorLog10 num den
  let k : Int := (n : Int) - 1 - e
  let (sn, sd) := if 0 ≤ k then (num * Nat.pow 10 k.toNat, den) else (num, den * Nat.pow 10 (-k).toNat)
  let q := (2 * sn + sd) / (2 * sd)
  if q ≥ Nat.pow 10 n then (digitsOf (Nat.pow 10 (n - 1)), e + 1) else (digitsOf q, e)

/-- The `%g` text of a finite number with `precision` significant digits. With
`keepPoint`, a number without a fractional part still shows `.0`. Zero has no sign. -/
def generalText (x : Binary64) (precision : Nat) (keepPoint : Bool) : String :=
  let sign := if x.negative then "-" else ""
  if x.isZero then (if keepPoint then "0.0" else "0")
  else
    let (ds, e) := x.significant precision
    let ds := dropTrailingZeros ds
    let text (d : List Nat) := String.ofList (d.map fun d => Char.ofNat (48 + d))
    if e < -4 ∨ e ≥ (precision : Int) then
      let mantissa := match ds with
        | [] => "0"
        | [d] => text [d] ++ (if keepPoint then ".0" else "")
        | d :: rest => text [d] ++ "." ++ text rest
      let expDigits := toString e.natAbs
      let expDigits := if expDigits.length < 2 then "0" ++ expDigits else expDigits
      sign ++ mantissa ++ "e" ++ (if e < 0 then "-" else "+") ++ expDigits
    else if e < 0 then
      sign ++ "0." ++ String.ofList (List.replicate ((-e).toNat - 1) '0') ++ text ds
    else
      let whole := e.toNat + 1
      if ds.length ≤ whole then
        sign ++ text ds ++ String.ofList (List.replicate (whole - ds.length) '0') ++
          (if keepPoint then ".0" else "")
      else sign ++ text (ds.take whole) ++ "." ++ text (ds.drop whole)

end Binary64

end KvStore
