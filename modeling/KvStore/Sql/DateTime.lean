import KvStore.Sql.Printf

namespace KvStore

namespace Sql

/-- A moment while the date functions read and change it. -/
structure Moment where
  jd : Int := 0
  year : Int := 0
  month : Int := 0
  day : Int := 0
  hour : Int := 0
  minute : Int := 0
  zone : Int := 0
  seconds : Float := 0
  validJD : Bool := false
  validDate : Bool := false
  validTime : Bool := false
  /-- Days a `floor` modifier takes back when the day overflowed its month. -/
  floorDays : Int := 0
  /-- The moment is still the bare number it was given as (held in `seconds`). -/
  raw : Bool := false
  failed : Bool := false
  subsec : Bool := false
  utc : Bool := false
  localTime : Bool := false

namespace Moment

def validDay (jd : Int) : Bool := 0 ≤ jd && jd ≤ 464269060799999

def unixEpoch : Int := 210866760000000

def truncate (x : Float) : Int := x.toInt64.toInt

def broken : Moment := { failed := true }

def withFloor (p : Moment) : Moment :=
  let d := p.day
  let m := p.month
  let floorDays :=
    if d ≤ 28 then 0
    else if m ≥ 0 && (Nat.shiftLeft 1 m.toNat &&& 0x15aa) != 0 then 0
    else if m != 2 then (if d == 31 then 1 else 0)
    else if p.year.tmod 4 != 0 || (p.year.tmod 100 == 0 && p.year.tmod 400 != 0) then d - 28
    else d - 29
  { p with floorDays }

/-- Computes the Julian day from the date (2000-01-01 when there is none) and time.
A time zone is folded into the day, which is then UTC. -/
def computeJD (p : Moment) : Moment :=
  if p.validJD then p
  else
    let (y, m, d) := if p.validDate then (p.year, p.month, p.day) else (2000, 1, 1)
    if y < -4713 || y > 9999 || p.raw then broken
    else
      let (y, m) := if m ≤ 2 then (y - 1, m + 12) else (y, m)
      let a := (y + 4800).tdiv 100
      let b := 38 - a + a.tdiv 4
      let x1 := (36525 * (y + 4716)).tdiv 100
      let x2 := (306001 * (m + 1)).tdiv 10000
      let jd := (x1 + x2 + d + b) * 86400000 - 131716800000
      let p := { p with jd, validJD := true }
      if p.validTime then
        let jd := p.jd + p.hour * 3600000 + p.minute * 60000 + truncate (p.seconds * 1000 + 0.5)
        if p.zone != 0 then
          { p with jd := jd - p.zone * 60000, validDate := false, validTime := false, zone := 0,
                   utc := true, localTime := false }
        else { p with jd }
      else p

def computeDate (p : Moment) : Moment :=
  if p.validDate then p
  else if !p.validJD then { p with year := 2000, month := 1, day := 1, validDate := true }
  else if !validDay p.jd then broken
  else
    let z := (p.jd + 43200000).tdiv 86400000
    let alpha := truncate ((Float.ofInt z + 32044.75) / 36524.25) - 52
    let a := z + 1 + alpha - (alpha + 100).tdiv 4 + 25
    let b := a + 1524
    let c := truncate ((Float.ofInt b - 122.1) / 365.25)
    let d := ((36525 * (c.toNat % 32768) / 100 : Nat) : Int)
    let e := truncate (Float.ofInt (b - d) / 30.6001)
    let x1 := truncate (30.6001 * Float.ofInt e)
    let month := if e < 14 then e - 1 else e - 13
    { p with day := b - d - x1, month, year := if month > 2 then c - 4716 else c - 4715,
             validDate := true }

def computeTime (p : Moment) : Moment :=
  if p.validTime then p
  else
    let p := computeJD p
    let dayMs := (p.jd + 43200000).tmod 86400000
    let dayMin := dayMs.tdiv 60000
    { p with seconds := Float.ofInt (dayMs.tmod 60000) / 1000.0, minute := dayMin.tmod 60,
             hour := dayMin.tdiv 60, raw := false, validTime := true }

def computeDateTime (p : Moment) : Moment := computeTime (computeDate p)

def clearParts (p : Moment) : Moment := { p with validDate := false, validTime := false, zone := 0 }

def ofNumber (r : Float) : Moment :=
  let p : Moment := { seconds := r, raw := true }
  if r ≥ 0 && r < 5373484.5 then { p with jd := truncate (r * 86400000.0 + 0.5), validJD := true }
  else p

def ofClock (clockMs : Int) : Moment :=
  { jd := clockMs + unixEpoch, validJD := true, utc := true }

end Moment

def isDateSpace (c : Char) : Bool :=
  c == ' ' || c == '\t' || c == '\n' || c == '\x0b' || c == '\x0c' || c == '\r'

def fixedDigits (n : Nat) (lo hi : Int) (cs : List Char) : Option (Int × List Char) :=
  let ds := cs.take n
  if ds.length == n && ds.all Char.isDigit then
    let v : Int := (ds.foldl (fun acc c => acc * 10 + (c.toNat - 48)) 0 : Nat)
    if lo ≤ v && v ≤ hi then some (v, cs.drop n) else none
  else none

def digitPair (n : Nat) (lo hi : Int) (sep : Char) (m : Nat) (lo2 hi2 : Int) (cs : List Char) :
    Option (Int × Int × List Char) := do
  let (a, rest) ← fixedDigits n lo hi cs
  match rest with
  | c :: rest =>
    if c != sep then none
    else
      let (b, rest) ← fixedDigits m lo2 hi2 rest
      pure (a, b, rest)
  | [] => none

def readZone (cs : List Char) (p : Moment) : Option Moment :=
  let cs := cs.dropWhile isDateSpace
  let finish (rest : List Char) (p : Moment) : Option Moment :=
    if (rest.dropWhile isDateSpace).isEmpty then some p else none
  match cs with
  | [] => some { p with zone := 0 }
  | 'Z' :: rest | 'z' :: rest => finish rest { p with zone := 0, localTime := false, utc := true }
  | c :: rest =>
    if c == '-' || c == '+' then
      match digitPair 2 0 14 ':' 2 0 59 rest with
      | some (h, m, rest) =>
        let sign : Int := if c == '-' then -1 else 1
        finish rest { p with zone := sign * (m + h * 60) }
      | none => none
    else none

def readTime (cs : List Char) (p : Moment) : Option Moment := do
  let (h, m, rest) ← digitPair 2 0 24 ':' 2 0 59 cs
  let (s, frac, rest) ← match rest with
    | ':' :: rest => do
      let (s, rest) ← fixedDigits 2 0 59 rest
      match rest with
      | '.' :: d :: more =>
        if d.isDigit then
          let ds := (d :: more).takeWhile Char.isDigit
          let (ms, scale) := ds.foldl (fun (acc : Float × Float) c =>
            (acc.1 * 10.0 + Float.ofNat (c.toNat - 48), acc.2 * 10.0)) (0.0, 1.0)
          let ms := ms / scale
          pure (s, if ms > 0.999 then 0.999 else ms, (d :: more).drop ds.length)
        else pure (s, 0.0, rest)
      | _ => pure (s, 0.0, rest)
    | _ => pure (0, 0.0, rest)
  let p := { p with validJD := false, raw := false, validTime := true, hour := h, minute := m,
                    seconds := Float.ofInt s + frac }
  readZone rest p

def readDate (cs : List Char) (p : Moment) : Option Moment := do
  let (neg, cs) := match cs with
    | '-' :: rest => (true, rest)
    | _ => (false, cs)
  let (y, rest) ← fixedDigits 4 0 14712 cs
  let rest ← match rest with
    | '-' :: rest => some rest
    | _ => none
  let (m, d, rest) ← digitPair 2 1 12 '-' 2 1 31 rest
  let rest := rest.dropWhile fun c => isDateSpace c || c == 'T'
  let p ← match readTime rest p with
    | some q => some q
    | none => if rest.isEmpty then some { p with validTime := false } else none
  let p := Moment.withFloor { p with validJD := false, validDate := true, year := if neg then -y else y,
                                     month := m, day := d }
  pure (if p.zone != 0 then p.computeJD else p)

def wholeNumber? (s : String) : Option Float :=
  match Value.numericPrefix s with
  | (v, true) =>
    match v with
    | .int i => some (Float.ofInt i)
    | .real x => some x.toFloat
    | _ => none
  | _ => none

def readMoment (clockMs : Int) (s : String) : Option Moment :=
  let cs := s.toList
  match readDate cs {} with
  | some p => some p
  | none =>
    match readTime cs {} with
    | some p => some p
    | none =>
      let lower := s.toLower
      if lower == "now" then some (Moment.ofClock clockMs)
      else match wholeNumber? s with
        | some r => some (Moment.ofNumber r)
        | none =>
          if lower == "subsec" || lower == "subsecond" then
            some { Moment.ofClock clockMs with subsec := true }
          else none

def dateUnits : List (String × Float × Float) :=
  [("second", 464269992787968.0, 1.0), ("minute", 7737900007424.0, 60.0),
   ("hour", 128969998336.0, 3600.0), ("day", 5373485.0, 86400.0),
   ("month", 176546.0, 2592000.0), ("year", 14713.0, 31536000.0)]

def Moment.normalizeMonth (p : Moment) : Moment :=
  let x := if p.month > 0 then (p.month - 1).tdiv 12 else (p.month - 12).tdiv 12
  { p with year := p.year + x, month := p.month - x * 12 }

def applyUnits (p : Moment) (r : Float) (unit : String) : Option Moment :=
  let p := { p.computeJD with floorDays := 0 }
  let rounder : Float := if r < 0 then -0.5 else 0.5
  let found := dateUnits.find? fun (name, limit, _) =>
    name == unit.toLower && r > -limit && r < limit
  match found with
  | none => none
  | some (name, _, perUnit) =>
    let (p, r) :=
      if name == "month" then
        let q := p.computeDateTime
        let q := Moment.normalizeMonth { q with month := q.month + Moment.truncate r }
        (Moment.withFloor { q with validJD := false }, r - Float.ofInt (Moment.truncate r))
      else if name == "year" then
        let q := p.computeDateTime
        (Moment.withFloor { q with year := q.year + Moment.truncate r, validJD := false },
          r - Float.ofInt (Moment.truncate r))
      else (p, r)
    let p := p.computeJD
    some (Moment.clearParts { p with jd := p.jd + Moment.truncate (r * 1000.0 * perUnit + rounder) })

def applyClockShift (p : Moment) (negative : Bool) (text : List Char) : Option Moment := do
  let tx ← readTime text {}
  let tx := tx.computeJD
  let ms := tx.jd - 43200000
  let ms := ms - ms.tdiv 86400000 * 86400000
  let ms := if negative then -ms else ms
  let p := p.computeJD
  pure { Moment.clearParts p with jd := p.jd + ms }

def applyShift (p : Moment) (z : List Char) : Option Moment := do
  let sign := z.headD ' '
  let signed := sign == '+' || sign == '-'
  -- the number ends at a colon or blank, or at the dash after a four- or five-digit year
  let rec numberEnd : Nat → List Char → Nat → Nat
    | 0, _, n => n
    | f + 1, cs, n =>
      match cs with
      | [] => n
      | c :: rest =>
        if c == ':' || isDateSpace c then n
        else if c == '-' && ((n == 5 && (fixedDigits 4 0 14712 (z.drop 1)).isSome) ||
            (n == 6 && (fixedDigits 5 0 14712 (z.drop 1)).isSome)) then n
        else numberEnd f rest (n + 1)
  let n := numberEnd z.length (z.drop 1) 1
  let r ← wholeNumber? (String.ofList (z.take n))
  let after := z.drop n
  match after with
  | '-' :: _ =>
    if !signed then none
    let width := n - 1
    let (y, mo, d, rest) ← do
      let (y, rest) ← fixedDigits width 0 14712 (z.drop 1)
      let rest ← match rest with
        | '-' :: rest => some rest
        | _ => none
      let (mo, d, rest) ← digitPair 2 0 12 '-' 2 0 31 rest
      pure (y, mo, d, rest)
    if mo ≥ 12 || d ≥ 31 then none
    let q := p.computeDateTime
    let q := { q with validJD := false }
    let (q, d) := if sign == '-' then ({ q with year := q.year - y, month := q.month - mo }, -d)
      else ({ q with year := q.year + y, month := q.month + mo }, d)
    let q := (Moment.withFloor (Moment.normalizeMonth q)).computeJD
    let q := { q with validTime := false, validDate := false, jd := q.jd + d * 86400000 }
    match rest with
    | [] => pure q
    | c :: timeText =>
      if isDateSpace c && (digitPair 2 0 24 ':' 2 0 59 timeText).isSome then
        applyClockShift q (sign == '-') timeText
      else none
  | ':' :: _ =>
    applyClockShift p (sign == '-') (if sign.isDigit then z else z.drop 1)
  | _ =>
    let unit := String.ofList (after.dropWhile isDateSpace)
    let n := unit.length
    if n < 3 || n > 10 then none
    let unit := if unit.toLower.endsWith "s" then (unit.dropEnd 1).toString else unit
    applyUnits p r unit

def applyModifier (p : Moment) (index : Nat) (text : String) : Option Moment :=
  let lower := text.toLower
  let z := text.toList
  match lower.toList.headD ' ' with
  | 'a' =>
    if lower != "auto" || index > 1 then none
    else if !p.raw || p.validJD then some { p with raw := false }
    else if p.seconds ≥ -210866760000.0 && p.seconds ≤ 253402300799.0 then
      let r := p.seconds * 1000.0 + 210866760000000.0
      some { Moment.clearParts p with jd := Moment.truncate (r + 0.5), validJD := true, raw := false }
    else none
  | 'c' =>
    if lower != "ceiling" then none
    else some { Moment.clearParts p.computeJD with floorDays := 0 }
  | 'f' =>
    if lower != "floor" then none
    else
      let q := p.computeJD
      some (Moment.clearParts { q with jd := q.jd - q.floorDays * 86400000 })
  | 'j' =>
    if lower != "julianday" || index > 1 then none
    else if p.validJD && p.raw then some { p with raw := false }
    else none
  | 'l' =>
    if lower != "localtime" then none
    else if p.localTime then some { p with utc := false, localTime := true }
    else
      let q := p.computeJD
      let t := q.computeDateTime
      let ms := q.jd.tmod 1000
      some { t with seconds := Float.ofInt (Moment.truncate t.seconds) + Float.ofInt ms * 0.001,
                    validJD := false, raw := false, zone := 0, failed := false,
                    utc := false, localTime := true }
  | 'u' =>
    if lower == "unixepoch" && p.raw then
      if index > 1 then none
      else
        let r := p.seconds * 1000.0 + 210866760000000.0
        if r ≥ 0.0 && r < 464269060800000.0 then
          some { Moment.clearParts p with jd := Moment.truncate (r + 0.5), validJD := true, raw := false }
        else none
    else if lower == "utc" then
      if p.utc then some p
      else some { jd := p.computeJD.jd, validJD := true, utc := true }
    else none
  | 'w' =>
    if !lower.startsWith "weekday " then none
    else match wholeNumber? (String.ofList (z.drop 8)) with
      | some r =>
        let n := Moment.truncate r
        if r ≥ 0.0 && r < 7.0 && Float.ofInt n == r then
          let q := { p.computeDateTime with zone := 0, validJD := false }.computeJD
          let day := ((q.jd + 129600000).tdiv 86400000).tmod 7
          let day := if day > n then day - 7 else day
          some (Moment.clearParts { q with jd := q.jd + (n - day) * 86400000 })
        else none
      | none => none
  | 's' =>
    if !lower.startsWith "start of " then
      if lower == "subsec" || lower == "subsecond" then some { p with subsec := true } else none
    else if !p.validJD && !p.validDate && !p.validTime then none
    else
      let q := p.computeDate
      let q := { q with validTime := true, hour := 0, minute := 0, seconds := 0, raw := false,
                        zone := 0, validJD := false }
      match (lower.drop 9).toString with
      | "month" => some { q with day := 1 }
      | "year" => some { q with month := 1, day := 1 }
      | "day" => some q
      | _ => none
  | c =>
    if c == '+' || c == '-' || c.isDigit then applyShift p z else none

/-- Reads the arguments of a date function into a moment: the first names it (none
means now), the rest modify it. `none` when any does not read or the moment leaves the
range of days. -/
def readArguments (clockMs : Int) (args : List Value) : Option Moment := do
  let p ← match args with
    | [] => some (Moment.ofClock clockMs)
    | first :: _ =>
      match first with
      | .null => none
      | .int i => some (Moment.ofNumber (Float.ofInt i))
      | .real x => some (Moment.ofNumber x.toFloat)
      | v => readMoment clockMs (v.asText?.getD "")
  let mut q := p
  let mut index := 1
  for m in args.drop 1 do
    match m with
    | .null => none
    | v => q ← applyModifier q index (v.asText?.getD "")
    index := index + 1
  let p := q.computeJD
  if p.failed || !Moment.validDay p.jd then none
  else if args.length == 1 && p.validDate && p.day > 28 then some { p with validDate := false }
  else some p

def twoDigits (n : Int) : String :=
  let n := n.natAbs
  String.ofList [Char.ofNat (48 + n / 10 % 10), Char.ofNat (48 + n % 10)]

def yearText (y : Int) : String :=
  let n := y.natAbs
  let body := String.ofList [Char.ofNat (48 + n / 1000 % 10), Char.ofNat (48 + n / 100 % 10),
    Char.ofNat (48 + n / 10 % 10), Char.ofNat (48 + n % 10)]
  if y < 0 then "-" ++ body else body

def Moment.dateText (p : Moment) : String :=
  yearText p.year ++ "-" ++ twoDigits p.month ++ "-" ++ twoDigits p.day

def Moment.timeText (p : Moment) : String :=
  let seconds :=
    if p.subsec then
      let s := (Moment.truncate (1000.0 * p.seconds + 0.5)).natAbs
      String.ofList [Char.ofNat (48 + s / 10000 % 10), Char.ofNat (48 + s / 1000 % 10), '.',
        Char.ofNat (48 + s / 100 % 10), Char.ofNat (48 + s / 10 % 10), Char.ofNat (48 + s % 10)]
    else twoDigits (Moment.truncate p.seconds)
  twoDigits p.hour ++ ":" ++ twoDigits p.minute ++ ":" ++ seconds

def formatOne (format : String) (v : Value) : String :=
  match printfCall [.text format, v] with
  | .text s => s
  | _ => ""

def Moment.julianDay (p : Moment) : Binary64 := Binary64.ofRatio (p.jd < 0) p.jd.natAbs 86400000

def Moment.daysAfterMonday (p : Moment) : Int := ((p.jd + 43200000).tdiv 86400000).tmod 7
def Moment.daysAfterSunday (p : Moment) : Int := ((p.jd + 129600000).tdiv 86400000).tmod 7
def Moment.daysAfterJan01 (p : Moment) : Int :=
  let jan01 := ({ p with validJD := false, month := 1, day := 1 } : Moment).computeJD
  (p.jd - jan01.jd + 43200000).tdiv 86400000

def Moment.weekThursday (p : Moment) : Moment :=
  ({ p with jd := p.jd + (3 - p.daysAfterMonday) * 86400000, validDate := false } : Moment).computeDate

def strftimeField (p : Moment) (c : Char) : Option String :=
  let int (fmt : String) (n : Int) : String := formatOne fmt (.int n)
  match c with
  | 'd' => some (int "%02d" p.day)
  | 'e' => some (int "%2d" p.day)
  | 'f' =>
    let s := if p.seconds > 59.999 then 59.999 else p.seconds
    some (formatOne "%06.3f" (.real (Binary64.ofFloat s)))
  | 'F' => some (int "%04d" p.year ++ "-" ++ int "%02d" p.month ++ "-" ++ int "%02d" p.day)
  | 'G' => some (int "%04d" p.weekThursday.year)
  | 'g' => some (int "%02d" (p.weekThursday.year.tmod 100))
  | 'H' => some (int "%02d" p.hour)
  | 'k' => some (int "%2d" p.hour)
  | 'I' | 'l' =>
    let h := if p.hour > 12 then p.hour - 12 else p.hour
    let h := if h == 0 then 12 else h
    some (int (if c == 'I' then "%02d" else "%2d") h)
  | 'j' => some (int "%03d" (p.daysAfterJan01 + 1))
  | 'J' => some (formatOne "%.16g" (.real p.julianDay))
  | 'm' => some (int "%02d" p.month)
  | 'M' => some (int "%02d" p.minute)
  | 'p' => some (if p.hour ≥ 12 then "PM" else "AM")
  | 'P' => some (if p.hour ≥ 12 then "pm" else "am")
  | 'R' => some (int "%02d" p.hour ++ ":" ++ int "%02d" p.minute)
  | 's' =>
    if p.subsec then
      some (formatOne "%.3f" (.real (Binary64.ofRatio (p.jd < Moment.unixEpoch)
        (p.jd - Moment.unixEpoch).natAbs 1000)))
    else some (toString ((p.jd.tdiv 1000) - Moment.unixEpoch / 1000))
  | 'S' => some (int "%02d" (Moment.truncate p.seconds))
  | 'T' => some (int "%02d" p.hour ++ ":" ++ int "%02d" p.minute ++ ":" ++
      int "%02d" (Moment.truncate p.seconds))
  | 'u' =>
    let d := p.daysAfterSunday
    some (toString (if d == 0 then 7 else d))
  | 'w' => some (toString p.daysAfterSunday)
  | 'U' => some (int "%02d" ((p.daysAfterJan01 - p.daysAfterSunday + 7).tdiv 7))
  | 'V' => some (int "%02d" (p.weekThursday.daysAfterJan01.tdiv 7 + 1))
  | 'W' => some (int "%02d" ((p.daysAfterJan01 - p.daysAfterMonday + 7).tdiv 7))
  | 'Y' => some (int "%04d" p.year)
  | '%' => some "%"
  | _ => none

def strftimeText (p : Moment) : List Char → Option String
  | [] => some ""
  | '%' :: c :: rest => do pure ((← strftimeField p c) ++ (← strftimeText p rest))
  | ['%'] => none
  | c :: rest => do pure (String.singleton c ++ (← strftimeText p rest))

def dateFunctionNames : List String :=
  ["date", "time", "datetime", "julianday", "unixepoch", "strftime", "current_date",
    "current_time", "current_timestamp"]

def isDateFunction (name : String) : Bool := dateFunctionNames.contains (nameKey name)

def dateCall (clockMs : Int) (name : String) (args : List Value) : Value :=
  let orNull (r : Option Value) : Value := r.getD .null
  match nameKey name with
  | "date" | "current_date" =>
    orNull ((readArguments clockMs args).map fun p => .text p.computeDate.dateText)
  | "time" | "current_time" =>
    orNull ((readArguments clockMs args).map fun p => .text p.computeTime.timeText)
  | "datetime" | "current_timestamp" =>
    orNull ((readArguments clockMs args).map fun p =>
      let p := p.computeDateTime
      .text (p.dateText ++ " " ++ p.timeText))
  | "julianday" => orNull ((readArguments clockMs args).map fun p => .real p.julianDay)
  | "unixepoch" =>
    orNull ((readArguments clockMs args).map fun p =>
      if p.subsec then
        .real (Binary64.ofRatio (p.jd < Moment.unixEpoch) (p.jd - Moment.unixEpoch).natAbs 1000)
      else .int (p.jd.tdiv 1000 - Moment.unixEpoch / 1000))
  | "strftime" =>
    match args with
    | [] => .null
    | format :: rest =>
      match format with
      | .null => .null
      | f =>
        orNull do
          let p ← readArguments clockMs rest
          let p := p.computeDateTime
          let text ← strftimeText p (f.asText?.getD "").toList
          pure (.text text)
  | _ => .null

end Sql

end KvStore
