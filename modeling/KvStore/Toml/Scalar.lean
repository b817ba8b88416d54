import KvStore.Toml.Syntax
import KvStore.Toml.Datetime
import KvStore.Decimal.Read

namespace KvStore

namespace Toml

inductive Scalar where
  | str (s : String)
  | int (i : Int)
  | float (x : Binary64)
  | bool (b : Bool)
  | datetime (text : String)
  deriving Repr, Inhabited

def failure (message : String) (start stop : Nat) : Failure := { message, span := ⟨start, stop⟩ }

def slice (b : ByteArray) (start stop : Nat) : List UInt8 := (b.extract start stop).toList

def utf8Of (c : Nat) : List UInt8 :=
  if c < 0x80 then [c.toUInt8]
  else if c < 0x800 then [(0xC0 + c / 64).toUInt8, (0x80 + c % 64).toUInt8]
  else if c < 0x10000 then
    [(0xE0 + c / 4096).toUInt8, (0x80 + (c / 64) % 64).toUInt8, (0x80 + c % 64).toUInt8]
  else
    [(0xF0 + c / 262144).toUInt8, (0x80 + (c / 4096) % 64).toUInt8,
      (0x80 + (c / 64) % 64).toUInt8, (0x80 + c % 64).toUInt8]

def hexByteValue (c : UInt8) : Option Nat :=
  if 48 ≤ c && c ≤ 57 then some (c - 48).toNat
  else if 97 ≤ c && c ≤ 102 then some (c - 87).toNat
  else if 65 ≤ c && c ≤ 70 then some (c - 55).toNat
  else none

def escapeFailure : String :=
  "missing escaped value, expected `b`, `e`, `f`, `n`, `r`, `\\`, `\"`, `x`, `u`, `U`"

/-- A string body being read: the bytes left, the offset of the first of them, and
the bytes of the value so far, last first. -/
structure StringScan where
  rest : List UInt8
  at_ : Nat
  out : List UInt8

def hexEscape (width : Nat) (digitsAt : Nat) (rest : List UInt8) : Except Failure (List UInt8 × List UInt8) :=
  let ds := (rest.take width).takeWhile (fun c => (hexByteValue c).isSome)
  if ds.length < width then
    .error (failure "too few unicode value digits, expected unicode hexadecimal value"
      (digitsAt + ds.length) (digitsAt + ds.length))
  else
    let v := ds.foldl (fun n c => n * 16 + (hexByteValue c).getD 0) 0
    if v > 0x10FFFF || (0xD800 ≤ v && v ≤ 0xDFFF) then
      .error (failure "invalid value, expected unicode hexadecimal value" digitsAt digitsAt)
    else .ok (utf8Of v, rest.drop width)

def isStringByte (c : UInt8) : Bool := c == 9 || (c ≥ 0x20 && c != 0x7F)

def endsLine (cs : List UInt8) : Bool :=
  match cs.dropWhile (fun c => c == 32 || c == 9) with
  | 10 :: _ | 13 :: 10 :: _ => true
  | _ => false

def basicBody (name : String) (multi : Bool) : Nat → StringScan → Except Failure (List UInt8)
  | 0, s => .ok s.out.reverse
  | fuel + 1, s =>
    match s.rest with
    | [] => .ok s.out.reverse
    | 92 :: rest =>
      let at_ := s.at_
      match rest with
      | [] => .error (failure escapeFailure (at_ + 1) (at_ + 1))
      | c :: more =>
        let simple (b : UInt8) := basicBody name multi fuel ⟨more, at_ + 2, b :: s.out⟩
        if c == 98 then simple 8
        else if c == 116 then simple 9
        else if c == 110 then simple 10
        else if c == 102 then simple 12
        else if c == 114 then simple 13
        else if c == 101 then simple 27
        else if c == 34 then simple 34
        else if c == 92 then simple 92
        else if c == 120 || c == 117 || c == 85 then
          let width := if c == 120 then 2 else if c == 117 then 4 else 8
          match hexEscape width (at_ + 2) more with
          | .ok (bytes, after) =>
            basicBody name multi fuel ⟨after, at_ + 2 + width, bytes.reverse ++ s.out⟩
          | .error e => .error e
        else if multi && endsLine rest then
          let skipped := rest.dropWhile (fun c => c == 32 || c == 9 || c == 10 || c == 13)
          basicBody name multi fuel ⟨skipped, at_ + 1 + (rest.length - skipped.length), s.out⟩
        else .error (failure escapeFailure (at_ + 1) (at_ + 1))
    | c :: rest =>
      let ok := isStringByte c || (multi && (c == 10 || (c == 13 && rest.head? == some 10)))
      if ok && c != 34 || (multi && c == 34) then
        basicBody name multi fuel ⟨rest, s.at_ + 1, c :: s.out⟩
      else .error (failure (name ++ ", expected non-double-quote visible characters") s.at_ s.at_)

def literalBody (name : String) (multi : Bool) (start : Nat) (body : List UInt8) : Except Failure (List UInt8) :=
  let bad := (List.range body.length).find? fun k =>
    let c := body.getD k 0
    let next := body.getD (k + 1) 0
    !(isStringByte c && (multi || c != 39) || (multi && (c == 10 || (c == 13 && next == 10))))
  match bad with
  | some k => .error (failure (name ++ ", expected non-single-quote visible characters") (start + k) (start + k))
  | none => .ok body

def dropFirstBreak (body : List UInt8) : Nat × List UInt8 :=
  match body with
  | 10 :: rest => (1, rest)
  | 13 :: 10 :: rest => (2, rest)
  | _ => (0, body)

def quotedText (b : ByteArray) (start stop : Nat) (q : Quoting) : Except Failure String := do
  let raw := slice b start stop
  let (width, closing, name) := match q with
    | .basic => (1, (34 : UInt8), "invalid basic string")
    | .literal => (1, 39, "invalid literal string")
    | .multiBasic => (3, 34, "invalid multi-line basic string")
    | .multiLiteral => (3, 39, "invalid multi-line literal string")
  let closed := raw.length ≥ 2 * width && (raw.drop (raw.length - width)).all (· == closing)
  if !closed then
    throw (failure (name ++ ", expected `" ++ String.singleton (Char.ofNat closing.toNat) ++ "`") stop stop)
  let body := (raw.drop width).take (raw.length - 2 * width)
  let multi := q == .multiBasic || q == .multiLiteral
  let (dropped, body) := if multi then dropFirstBreak body else (0, body)
  let bodyStart := start + width + dropped
  let bytes ← match q with
    | .basic | .multiBasic => basicBody name multi (body.length + 1) ⟨body, bodyStart, []⟩
    | .literal | .multiLiteral => literalBody name multi bodyStart body
  pure ((String.fromUTF8? (ByteArray.mk bytes.toArray)).getD "")

def isBareKeyByte (c : UInt8) : Bool :=
  (65 ≤ c && c ≤ 90) || (97 ≤ c && c ≤ 122) || (48 ≤ c && c ≤ 57) || c == 95 || c == 45

def keyText (b : ByteArray) (k : KeyPart) : Except Failure String :=
  match k.quoting with
  | some q => quotedText b k.start k.stop q
  | none =>
    let raw := slice b k.start k.stop
    let expected := ", expected letters, numbers, `-`, `_`"
    if raw.isEmpty then .error (failure ("unquoted keys cannot be empty" ++ expected) k.start k.stop)
    else if !raw.all isBareKeyByte then .error (failure ("invalid unquoted key" ++ expected) k.start k.stop)
    else .ok ((String.fromUTF8? (ByteArray.mk raw.toArray)).getD "")

def unquoted (start stop : Nat) : Failure :=
  failure "string values must be quoted, expected literal string" start stop

/-- Checks a run of decimal digits and underscores at the front of `cs`, which starts
at byte `at_`; returns what follows. `zeroOk` allows a leading zero. -/
def checkDigits (what : String) (zeroOk : Bool) (at_ : Nat) (cs : List Char) : Except Failure (List Char) :=
  let run := cs.takeWhile (fun c => c.isDigit || c == '_')
  let count := (run.filter Char.isDigit).length
  if count == 0 then .error (failure (what ++ ", expected digits") at_ at_)
  else if count ≥ 2 && run.head? == some '0' && !zeroOk then
    .error (failure "unexpected leading zero, expected nothing" at_ (at_ + 1))
  else .ok (cs.drop run.length)

def checkFloat (at_ : Nat) (cs : List Char) : Except Failure Unit := do
  let rest ← checkDigits "invalid mantissa" false at_ cs
  let rest ← match rest with
    | '.' :: r => checkDigits "invalid fraction" true (at_ + (cs.length - r.length)) r
    | _ => pure rest
  let rest ← match rest with
    | 'e' :: r | 'E' :: r =>
      let r := match r with
        | '+' :: x | '-' :: x => x
        | x => x
      checkDigits "invalid exponent" true (at_ + (cs.length - r.length)) r
    | _ => pure rest
  if !rest.isEmpty then
    throw (failure "invalid float, expected nothing" (at_ + (cs.length - rest.length)) (at_ + cs.length))

def checkUnderscores (isDigit : Char → Bool) (at_ : Nat) (cs : List Char) : Except Failure Unit :=
  let bad := (List.range cs.length).find? fun k =>
    cs.getD k ' ' == '_' &&
      !(k > 0 && isDigit (cs.getD (k - 1) ' ') && isDigit (cs.getD (k + 1) ' '))
  match bad with
  | some k => .error (failure "`_` may only go between digits, expected nothing" (at_ + k) (at_ + k + 1))
  | none => .ok ()

def isHexDigit (c : Char) : Bool := c.isDigit || ('a' ≤ c && c ≤ 'f') || ('A' ≤ c && c ≤ 'F')

def radixInteger (base : Nat) (name : String) (at_ : Nat) (digits : List Char) : Except Failure Scalar := do
  let isDigit : Char → Bool := fun c =>
    if base == 16 then isHexDigit c else if base == 8 then '0' ≤ c && c ≤ '7' else c == '0' || c == '1'
  let clean := digits.filter (· != '_')
  if clean.isEmpty then throw (failure ("invalid " ++ name ++ ", expected digits") (at_ + 2) (at_ + 2))
  match (List.range digits.length).find? (fun k => let c := digits.getD k ' '; c != '_' && !isDigit c) with
  | some k =>
    throw (failure ("invalid " ++ name ++ ", expected digits") (at_ + 2 + k) (at_ + 2 + k + 1))
  | none => pure ()
  checkUnderscores isDigit (at_ + 2) digits
  let v := clean.foldl (fun n c => n * base + ((hexByteValue c.toNat.toUInt8).getD 0)) 0
  pure (.int v)

def numberValue (isFloat : Bool) (text : List Char) : Scalar :=
  let clean := text.filter (· != '_')
  if isFloat then .float ((Binary64.readFloat? (String.ofList clean)).getD (Binary64.zero false))
  else match clean with
    | '-' :: ds => .int (-(Binary64.digitValue ds : Int))
    | '+' :: ds => .int (Binary64.digitValue ds)
    | ds => .int (Binary64.digitValue ds)

/-- Reads a decimal integer or float: `cs`, starting at byte `at_`, is checked, and
`text` is the whole value read. -/
def decimalNumber (isFloat : Bool) (start stop at_ : Nat) (cs text : List Char) : Except Failure Scalar := do
  if isFloat then checkFloat at_ cs
  else
    let rest ← checkDigits "invalid integer" false at_ cs
    if !rest.isEmpty then throw (unquoted start stop)
  checkUnderscores Char.isDigit at_ cs
  pure (numberValue isFloat text)

/-- Reads a symbol such as `true` or `inf`; other casings and spellings are refused
with the kind of value they look like, over `[from, stop)`. Unsigned, a text with a
blank is no symbol at all. -/
def symbol (word kind : String) (value : Scalar) (signed : Bool) (start stop from_ : Nat)
    (cs : List Char) : Except Failure Scalar :=
  if String.ofList cs == word then .ok value
  else if !signed && cs.contains ' ' then .error (unquoted start stop)
  else .error (failure ("invalid " ++ kind ++ ", expected `" ++ word ++ "`") from_ stop)

def isFloatTail (rest : List Char) : Bool :=
  match rest.dropWhile (fun c => c.isDigit || c == '_') with
  | '.' :: _ | 'e' :: _ | 'E' :: _ => true
  | _ => false

/-- Reads a number, date or time whose digits `cs` start at byte `at_` of the value
`text` spanning `[start, stop)`. A date or time is checked as the whole text. -/
def numberOrDate (start stop at_ : Nat) (cs text : List Char) : Except Failure Scalar := do
  let rest := cs.dropWhile Char.isDigit
  match rest with
  | [] => decimalNumber false start stop at_ cs text
  | c :: _ =>
    if c == '-' || c == ':' then
      let whole := String.ofList text
      match datetimeProblem whole with
      | some p => throw (failure p start stop)
      | none => pure (.datetime whole)
    else if rest.contains ' ' then throw (unquoted start stop)
    else if isFloatTail rest then decimalNumber true start stop at_ cs text
    else if c == '_' then decimalNumber false start stop at_ cs text
    else throw (unquoted start stop)

/-- Reads a number with a leading zero, at byte `at_` of the value `text` spanning
`[start, stop)`; `signed` tells whether a sign stands before it. -/
def zeroPrefixed (signed : Bool) (start stop at_ : Nat) (cs text : List Char) : Except Failure Scalar := do
  match cs with
  | ['0'] => pure (numberValue false text)
  | '0' :: c :: more =>
    let radix : Option (Nat × String) := match c.toLower with
      | 'x' => some (16, "hexadecimal integer")
      | 'o' => some (8, "octal integer")
      | 'b' => some (2, "binary integer")
      | _ => none
    match radix with
    | some (base, name) =>
      if signed then throw (failure "integers with a radix cannot be signed, expected nothing" start (start + 1))
      if c.isUpper then
        throw (failure ("radix must be lowercase, expected `0" ++ String.singleton c.toLower ++ "`") at_ (at_ + 2))
      if more.head? == some '+' || more.head? == some '-' then
        throw (failure "unexpected sign, expected nothing" (at_ + 2) (at_ + 3))
      radixInteger base name at_ more
    | none =>
      if c == '.' || c == 'e' || c == 'E' then decimalNumber true start stop at_ cs text
      else if c.isDigit then
        let rest := cs.dropWhile Char.isDigit
        if rest.head? == some '-' || rest.head? == some ':' then numberOrDate start stop at_ cs text
        else throw (failure "unexpected leading zero, expected nothing" at_ (at_ + 1))
      else if c == '_' then throw (failure "unexpected leading zero, expected nothing" at_ (at_ + 1))
      else throw (unquoted start stop)
  | _ => throw (unquoted start stop)

def bareValue (b : ByteArray) (start stop : Nat) : Except Failure Scalar :=
  let text := ((String.fromUTF8? (ByteArray.mk (slice b start stop).toArray)).getD "").toList
  let body (signed : Bool) (at_ : Nat) (cs : List Char) : Except Failure Scalar :=
    let neg := text.head? == some '-'
    match cs with
    | [] => .error (unquoted start stop)
    | c :: _ =>
      if c == '+' || c == '-' then .error (failure "redundant numeric sign, expected nothing" at_ (at_ + 1))
      else if c == '0' then zeroPrefixed signed start stop at_ cs text
      else if c.isDigit || c == '_' then numberOrDate start stop at_ cs text
      else if c == '.' then decimalNumber true start stop start text text
      else if c == 'i' || c == 'I' then
        symbol "inf" "float" (.float (Binary64.infinity neg)) signed start stop at_ cs
      else if c == 'n' || c == 'N' then
        symbol "nan" "float" (.float (if neg then Binary64.nan.neg else Binary64.nan)) signed start stop at_ cs
      else if !signed && (c == 't' || c == 'T') then
        symbol "true" "boolean" (.bool true) false start stop at_ cs
      else if !signed && (c == 'f' || c == 'F') then
        symbol "false" "boolean" (.bool false) false start stop at_ cs
      else .error (unquoted start stop)
  match text with
  | [] => .error (unquoted start stop)
  | '+' :: rest | '-' :: rest => body true (start + 1) rest
  | cs => body false start cs

def scalarValue (b : ByteArray) (start stop : Nat) (quoting : Option Quoting) : Except Failure Scalar :=
  match quoting with
  | some q => (quotedText b start stop q).map .str
  | none => bareValue b start stop

end Toml

end KvStore
