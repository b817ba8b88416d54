import KvStore.Sql.Operator
import KvStore.Decimal.Significant

namespace KvStore

namespace Sql

namespace Value

/-- The integer a function reads from a value: a real truncated and clamped to 64
bits, a text or blob by its leading decimal integer (clamped), else `0`. -/
def asInt64 : Value → Int
  | .int i => i
  | .real x =>
    if !x.isFinite then (if x.isNaN then minInt else if x.negative then minInt else maxInt)
    else
      let t := x.trunc
      if t < -9223372036854774784 then minInt
      else if t > 9223372036854774784 then maxInt
      else t
  | .null => 0
  | v =>
    let isSpace (c : Char) := c == ' ' || c == '\t' || c == '\n' || c == '\r' || c == '\x0b' || c == '\x0c'
    let cs := ((v.asText?.getD "").toList).dropWhile isSpace
    let (neg, cs) := match cs with
      | '-' :: r => (true, r)
      | '+' :: r => (false, r)
      | _ => (false, cs)
    let ds := cs.takeWhile Char.isDigit
    let n : Nat := ds.foldl (fun n (d : Char) => n * 10 + (d.toNat - 48)) 0
    let i : Int := if neg then -(n : Int) else n
    if i < minInt then minInt else if i > maxInt then maxInt else i

/-- The real a function reads from a value: text and blobs by their numeric prefix,
null and other text as `0`. -/
def asReal (v : Value) : Binary64 :=
  match v.toNumber with
  | .int i => Binary64.ofInt i
  | .real x => x
  | _ => Binary64.zero false

end Value

structure Conversion where
  leftJustify : Bool := false
  /-- The character shown before a positive number: `+`, a blank, or none. -/
  signChar : Option Char := none
  alternate : Bool := false
  zeroPad : Bool := false
  thousands : Bool := false
  /-- The `!` flag: widths and precisions count characters, reals keep more digits. -/
  wide : Bool := false
  width : Nat := 0
  precision : Option Nat := none
  deriving Inhabited

/-- The arguments of a format, with how many have been used. -/
structure FormatArgs where
  values : List Value
  used : Nat := 0

namespace FormatArgs

def next (a : FormatArgs) : Value × FormatArgs :=
  ((a.values[a.used]?).getD .null, { a with used := a.used + 1 })

end FormatArgs

/-- Decimal digits of a finite number for formatting: its first nineteen significant
digits and the position of the decimal point (`0.d₁d₂… × 10 ^ point`), rounded half up
at digit `round` (a count of significant digits when positive, of digits after the
point when not), keeping at most `most` digits; trailing zeros dropped. -/
def formatDigits (x : Binary64) (round : Int) (most : Nat) : List Nat × Int :=
  if x.isZero then ([0], 1)
  else
    let (_, num, den) := x.toRatio
    let e := floorLog10 num den
    let k : Int := 18 - e
    let (sn, sd) := if 0 ≤ k then (num * Nat.pow 10 k.toNat, den) else (num, den * Nat.pow 10 (-k).toNat)
    let digits := digitsOf (sn / sd)
    let point := e + 1
    let (digits, point, round) :=
      if round ≤ 0 then
        let r := point - round
        if r == 0 && (digits.headD 0) ≥ 5 then (0 :: digits, point + 1, (1 : Int)) else (digits, point, r)
      else (digits, point, round)
    let n := digits.length
    let (digits, point) :=
      if round > 0 && (round.toNat < n || n > most) then
        let r := min round.toNat most
        let kept := digits.take r
        if (digits[r]?).getD 0 ≥ 5 then
          -- add one to the kept digits, carrying
          let (carried, carry) := kept.foldr (fun d (acc : List Nat × Bool) =>
            if acc.2 then (if d == 9 then (0 :: acc.1, true) else ((d + 1) :: acc.1, false))
            else (d :: acc.1, false)) ([], true)
          if carry then (1 :: carried, point + 1) else (carried, point)
        else (kept, point)
      else (digits, point)
    let trimmed := dropTrailingZeros digits
    (if trimmed.isEmpty then [0] else trimmed, point)

def digitAt (ds : List Nat) (j : Nat) : Char := Char.ofNat (48 + (ds[j]?).getD 0)

def formatReal (c : Conversion) (kind : Char) (x : Binary64) : String :=
  if x.isNaN then (if c.zeroPad then "null" else "NaN")
  else if !x.isFinite && !c.zeroPad then
    if x.negative then "-Inf" else match c.signChar with
      | some s => s.toString ++ "Inf"
      | none => "Inf"
  else
    let lead : Option Char := if x.negative && !x.isZero then some '-' else c.signChar
    let precision : Nat := c.precision.getD 6
    let generic := kind == 'g' || kind == 'G'
    let expo := kind == 'e' || kind == 'E'
    let precision := if generic && precision == 0 then 1 else precision
    let round : Int := if generic then precision else if expo then precision + 1 else -(precision : Int)
    let (digits, point) :=
      if !x.isFinite then ([9], (1000 : Int))
      else formatDigits x round (if c.wide then 26 else 16)
    let exp := point - 1
    let precision := if generic && precision > 0 then precision - 1 else precision
    let (useExp, precision, stripZeros) :=
      if generic then
        if exp < -4 || exp > precision then (true, precision, !c.alternate)
        else (false, (precision - exp).toNat, !c.alternate)
      else (expo, precision, c.wide)
    let e2 : Int := if useExp then 0 else point - 1
    let hasPoint := precision > 0 || c.alternate || c.wide
    let sep := c.thousands
    -- digits before the point
    let (before, j) : List Char × Nat :=
      if e2 < 0 then (['0'], 0)
      else (List.range (e2.toNat + 1)).foldl (fun (acc : List Char × Nat) (k : Nat) =>
        let left : Int := e2 - (k : Int)
        let d := digitAt digits acc.2
        let out := acc.1 ++ [d] ++ (if sep && left % 3 == 0 && left > 1 then [','] else [])
        (out, acc.2 + 1)) ([], 0)
    let leading : Nat := if e2 < 0 then min ((-(e2 + 1)).toNat) precision else 0
    let rest := precision - leading
    let after := List.replicate leading '0' ++ (List.range rest).map (fun k => digitAt digits (j + k))
    let body := before ++ (if hasPoint then ['.'] else []) ++ after
    let body :=
      if stripZeros && hasPoint then
        let stripped := (body.reverse.dropWhile (· == '0')).reverse
        match stripped.getLast? with
        | some '.' => if c.wide then stripped ++ ['0'] else stripped.dropLast
        | _ => stripped
      else body
    let suffix :=
      if useExp then
        let letter := if kind == 'E' || kind == 'G' then 'E' else 'e'
        let n := exp.natAbs
        let ds := if n ≥ 100 then [Char.ofNat (48 + n / 100), Char.ofNat (48 + n / 10 % 10), Char.ofNat (48 + n % 10)]
          else [Char.ofNat (48 + n / 10), Char.ofNat (48 + n % 10)]
        [letter, if exp < 0 then '-' else '+'] ++ ds
      else []
    let text := (lead.map (fun p => [p])).getD [] ++ body ++ suffix
    if c.zeroPad && !c.leftJustify && text.length < c.width then
      let pad := List.replicate (c.width - text.length) '0'
      match lead with
      | some p => String.ofList (p :: pad ++ text.drop 1)
      | none => String.ofList (pad ++ text)
    else String.ofList text

def radixDigits (base : Nat) (upper : Bool) (n : Nat) : List Char :=
  let digit (d : Nat) : Char :=
    if d < 10 then Char.ofNat (48 + d) else Char.ofNat ((if upper then 55 else 87) + d)
  let rec go : Nat → Nat → List Char → List Char
    | 0, _, acc => acc
    | f + 1, m, acc => if m < base then digit m :: acc else go f (m / base) (digit (m % base) :: acc)
  go 70 n []

def formatInteger (c : Conversion) (kind : Char) (v : Int) : String :=
  let signed := kind == 'd' || kind == 'i'
  let (magnitude, lead) : Nat × Option Char :=
    if signed then (if v < 0 then (v.natAbs, some '-') else (v.toNat, c.signChar))
    else (if v < 0 then ((v + Int.pow 2 64).toNat, none) else (v.toNat, none))
  let alternate := c.alternate && magnitude != 0
  let base := if kind == 'x' || kind == 'X' then 16 else if kind == 'o' then 8 else 10
  let thousands := c.thousands && base == 10
  let precision := c.precision.getD 0
  let precision := if c.zeroPad && precision + (if lead.isSome then 1 else 0) < c.width then
      c.width - (if lead.isSome then 1 else 0) else precision
  let ds := radixDigits base (kind == 'X') magnitude
  let ds := List.replicate (precision - ds.length) '0' ++ ds
  let ds := if thousands then
      let n := ds.length
      (List.range n).foldl (fun acc k =>
        let left := n - k
        acc ++ [(ds[k]?).getD '0'] ++ (if left > 1 && (left - 1) % 3 == 0 then [','] else [])) []
    else ds
  let ds := (lead.map (fun p => [p])).getD [] ++ ds
  let ds := if alternate then
      (if kind == 'x' then ['0', 'x'] else if kind == 'X' then ['0', 'X'] else if kind == 'o' then ['0'] else []) ++ ds
    else ds
  String.ofList ds

def cutText (c : Conversion) (s : String) : String :=
  match c.precision with
  | none => s
  | some p => if c.wide then String.ofList (s.toList.take p)
    else
      let bytes := s.toUTF8.toList.take p
      (String.fromUTF8? (ByteArray.mk bytes.toArray)).getD (String.ofList (s.toList.take p))

/-- Pads a converted text to the width with blanks, on the left unless left-justified.
The width counts bytes, or characters with `!`. -/
def padToWidth (c : Conversion) (s : String) : String :=
  let length := if c.wide then s.length else s.utf8ByteSize
  if length ≥ c.width then s
  else
    let pad := String.ofList (List.replicate (c.width - length) ' ')
    if c.leftJustify then s ++ pad else pad ++ s

/-- What may follow in a conversion: flags and the rest (`flags`), after a width only a
precision or the letter (`width`), after a precision only the letter (`precision`). -/
inductive ConversionPhase where
  | flags
  | width
  | precision
  deriving BEq

/-- Reads the flags, width and precision of a conversion after its `%`, taking `*`
values from the arguments. Returns the conversion, its letter (if any) and the rest. -/
def readConversion (args : FormatArgs) : Nat → ConversionPhase → Conversion → List Char →
    Conversion × Option Char × List Char × FormatArgs
  | 0, _, c, cs => (c, none, cs, args)
  | fuel + 1, phase, c, cs =>
    let number (ds : List Char) : Nat := ds.foldl (fun n (d : Char) => n * 10 + (d.toNat - 48)) 0
    match cs with
    | [] => (c, none, [], args)
    | 'l' :: 'l' :: k :: rest | 'l' :: k :: rest => (c, some k, rest, args)
    | '.' :: rest =>
      if phase == .precision then (c, some '.', rest, args)
      else match rest with
        | '*' :: more =>
          let (v, args) := args.next
          readConversion args fuel .precision { c with precision := some (v.asInt64.natAbs % Nat.pow 2 31) } more
        | _ =>
          let ds := rest.takeWhile Char.isDigit
          readConversion args fuel .precision { c with precision := some (number ds % Nat.pow 2 31) }
            (rest.drop ds.length)
    | k :: rest =>
      if phase != .flags then (c, some k, rest, args)
      else if k == '-' then readConversion args fuel .flags { c with leftJustify := true } rest
      else if k == '+' then readConversion args fuel .flags { c with signChar := some '+' } rest
      else if k == ' ' then readConversion args fuel .flags { c with signChar := some ' ' } rest
      else if k == '#' then readConversion args fuel .flags { c with alternate := true } rest
      else if k == '!' then readConversion args fuel .flags { c with wide := true } rest
      else if k == '0' then readConversion args fuel .flags { c with zeroPad := true } rest
      else if k == ',' then readConversion args fuel .flags { c with thousands := true } rest
      else if k == '*' then
        let (v, args) := args.next
        let w := v.asInt64
        let c := if w < 0 then { c with leftJustify := true, width := w.natAbs % Nat.pow 2 31 }
          else { c with width := w.toNat % Nat.pow 2 31 }
        readConversion args fuel .width c rest
      else if k.isDigit then
        let ds := (k :: rest).takeWhile Char.isDigit
        readConversion args fuel .width { c with width := number ds % Nat.pow 2 31 } ((k :: rest).drop ds.length)
      else (c, some k, rest, args)

/-- Quotes a text for `q`, `Q` or `w`: the quote character doubled; `Q` adds the
quotes around it, and writes a null as `NULL`. -/
def quoteText (c : Conversion) (kind : Char) (v : Value) : String :=
  let q := if kind == 'w' then '"' else '\''
  match v.asText? with
  | none => if kind == 'Q' then "NULL" else "(NULL)"
  | some s =>
    let s := cutText c s
    let body := String.join (s.toList.map fun ch => if ch == q then String.ofList [ch, ch] else ch.toString)
    if kind == 'Q' then q.toString ++ body ++ q.toString else body

def formatWith : Nat → List Char → FormatArgs → String
  | 0, _, _ => ""
  | fuel + 1, cs, args =>
    match cs with
    | [] => ""
    | '%' :: rest =>
      let (c, kind, rest, args) := readConversion args (rest.length + 1) .flags {} rest
      match kind with
      | none => ""
      | some k =>
        let emit (s : String) (args : FormatArgs) : String := padToWidth c s ++ formatWith fuel rest args
        if k == 'd' || k == 'i' || k == 'u' || k == 'x' || k == 'X' || k == 'o' || k == 'p' then
          let (v, args) := args.next
          emit (formatInteger c (if k == 'p' then 'X' else k) v.asInt64) args
        else if k == 'f' || k == 'e' || k == 'E' || k == 'g' || k == 'G' then
          let (v, args) := args.next
          emit (formatReal c k v.asReal) args
        else if k == 's' || k == 'z' then
          let (v, args) := args.next
          emit (cutText c (v.asText?.getD "")) args
        else if k == 'q' || k == 'Q' || k == 'w' then
          let (v, args) := args.next
          emit (quoteText c k v) args
        else if k == 'c' then
          let (v, args) := args.next
          let ch := ((v.asText?.getD "").toList.head?).map (·.toString) |>.getD ""
          let n := max 1 (c.precision.getD 1)
          padToWidth { c with wide := true } (String.join (List.replicate n ch)) ++ formatWith fuel rest args
        else if k == '%' then emit "%" args
        else if k == 'n' then formatWith fuel rest args
        else ""
    | ch :: rest => ch.toString ++ formatWith fuel rest args

def printfCall (args : List Value) : Value :=
  match args with
  | [] => .null
  | fmt :: rest =>
    match fmt.asText? with
    | none => .null
    | some f => .text (formatWith (f.length + 1) f.toList { values := rest })

end Sql

end KvStore
