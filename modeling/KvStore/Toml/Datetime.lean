namespace KvStore

namespace Toml

inductive DateToken where
  | digits (ds : List Char)
  | dash
  | colon
  | dot
  | plus
  | zulu
  | tee
  | space
  | other
  deriving Repr, BEq, Inhabited

def dateTokens : Nat → List Char → List DateToken
  | 0, _ => []
  | _, [] => []
  | fuel + 1, c :: rest =>
    if c.isDigit then
      let ds := (c :: rest).takeWhile Char.isDigit
      .digits ds :: dateTokens fuel ((c :: rest).drop ds.length)
    else match c with
      | '-' => .dash :: dateTokens fuel rest
      | ':' => .colon :: dateTokens fuel rest
      | '.' => .dot :: dateTokens fuel rest
      | '+' => .plus :: dateTokens fuel rest
      | 'Z' | 'z' => .zulu :: dateTokens fuel rest
      | 'T' | 't' => .tee :: dateTokens fuel rest
      | ' ' => .space :: dateTokens fuel rest
      | _ => [.other]

def dateFailure (what : Option String) (expected : Option String) : String :=
  match what, expected with
  | none, none => "failed to parse datetime"
  | some w, none => "invalid " ++ w
  | none, some e => "invalid datetime, expected " ++ e
  | some w, some e => "invalid " ++ w ++ ", expected " ++ e

def digitsValue (ds : List Char) : Nat := ds.foldl (fun n d => n * 10 + (d.toNat - 48)) 0

def takeDigits (what expected : String) : List DateToken → Except String (List Char × List DateToken)
  | .digits ds :: rest => .ok (ds, rest)
  | _ => .error (dateFailure (some what) (some expected))

def takeToken (t : DateToken) (what expected : String) : List DateToken → Except String (List DateToken)
  | u :: rest => if u == t then .ok rest else .error (dateFailure (some what) (some expected))
  | [] => .error (dateFailure (some what) (some expected))

def monthDays (year month : Nat) : Nat :=
  let leap := year % 4 == 0 && (year % 100 != 0 || year % 400 == 0)
  match month with
  | 2 => if leap then 29 else 28
  | 4 | 6 | 9 | 11 => 30
  | _ => 31

def checkDate (ts : List DateToken) : Except String (List DateToken) := do
  let (year, ts) ← match ts with
    | .digits ds :: rest => pure (ds, rest)
    | _ => throw (dateFailure none (some "year or hour"))
  let ts ← match ts with
    | .dash :: rest => pure rest
    | _ => throw (dateFailure none (some "`-` (YYYY-MM) or `:` (HH:MM)"))
  let (month, ts) ← takeDigits "date" "month" ts
  let ts ← takeToken .dash "date" "`-` (MM-DD)" ts
  let (day, ts) ← takeDigits "date" "day" ts
  if year.length != 4 then throw (dateFailure (some "date") (some "a four-digit year (YYYY)"))
  if month.length != 2 then throw (dateFailure (some "date") (some "a two-digit month (MM)"))
  if day.length != 2 then throw (dateFailure (some "date") (some "a two-digit day (DD)"))
  let m := digitsValue month
  if m < 1 || m > 12 then throw (dateFailure (some "date") (some "month between 01 and 12"))
  let most := monthDays (digitsValue year) m
  let d := digitsValue day
  if d < 1 || d > most then
    throw (dateFailure (some "date") (some ("day between 01 and " ++ toString most)))
  pure ts

def checkTime (ts : List DateToken) : Except String (List DateToken) := do
  let (hour, ts) ← takeDigits "time" "hour" ts
  let ts ← takeToken .colon "time" "`:` (HH:MM)" ts
  let (minute, ts) ← takeDigits "time" "minute" ts
  let (second, ts) ← match ts with
    | .colon :: rest => do
      let (s, rest) ← takeDigits "time" "second" rest
      pure (some s, rest)
    | _ => pure (none, ts)
  let ts ← match second, ts with
    | some _, .dot :: rest => do
      let (_, rest) ← takeDigits "time" "nanosecond" rest
      pure rest
    | _, _ => pure ts
  if hour.length != 2 then throw (dateFailure (some "time") (some "a two-digit hour (HH)"))
  if minute.length != 2 then throw (dateFailure (some "time") (some "a two-digit minute (MM)"))
  if (second.map (·.length != 2)).getD false then
    throw (dateFailure (some "time") (some "a two-digit second (SS)"))
  if digitsValue hour > 23 then throw (dateFailure (some "time") (some "hour between 00 and 23"))
  if digitsValue minute > 59 then throw (dateFailure (some "time") (some "minute between 00 and 59"))
  if digitsValue (second.getD []) > 60 then
    throw (dateFailure (some "time") (some "second between 00 and 60"))
  pure ts

def checkOffset (ts : List DateToken) : Except String (List DateToken) := do
  match ts with
  | [] => pure []
  | .zulu :: rest => pure rest
  | .plus :: rest | .dash :: rest => do
    let (hours, rest) ← takeDigits "offset" "hour" rest
    let rest ← takeToken .colon "offset" "`:` (HH:MM)" rest
    let (minutes, rest) ← takeDigits "offset" "minute" rest
    if hours.length != 2 then throw (dateFailure (some "offset") (some "a two-digit hour (HH)"))
    if minutes.length != 2 then throw (dateFailure (some "offset") (some "a two-digit minute (MM)"))
    if digitsValue hours > 23 then throw (dateFailure (some "offset") (some "hours between 00 and 23"))
    if digitsValue minutes > 59 then
      throw (dateFailure (some "offset") (some "minutes between 00 and 59"))
    pure rest
  | _ => throw (dateFailure (some "offset") (some "`Z`, +OFFSET, -OFFSET"))

def datetimeProblem (text : String) : Option String :=
  let ts := dateTokens (text.length + 1) text.toList
  let result : Except String Unit := do
    match ts with
    | .digits _ :: .colon :: _ =>
      let rest ← checkTime ts
      if !rest.isEmpty then throw (dateFailure none none)
    | _ =>
      let rest ← checkDate ts
      match rest with
      | .tee :: more | .space :: more =>
        let rest ← checkTime more
        let rest ← checkOffset rest
        if !rest.isEmpty then throw (dateFailure none none)
      | [] => pure ()
      | _ => throw (dateFailure none none)
  match result with
  | .ok () => none
  | .error e => some e

end Toml

end KvStore
