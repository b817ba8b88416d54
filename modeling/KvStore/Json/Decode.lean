import KvStore.Json.Read
import KvStore.Text.Quoted
import KvStore.Decimal.Shortest

namespace KvStore

namespace Json

open Reader

def floatText (x : Binary64) : String := FloatStyle.json.render x

def numberFound : JsonNumber → String
  | .nat n => "integer `" ++ toString n ++ "`"
  | .negInt i => "integer `" ++ toString i ++ "`"
  | .float x => "floating point `" ++ floatText x ++ "`"

def invalidType (found expected : String) : String :=
  "invalid type: " ++ found ++ ", expected " ++ expected

def wrongKind {α : Type} (expected : String) : Reader α := do
  match ← peek with
  | some 110 => eat; keyword [117, 108, 108]; fail (invalidType "null" expected)
  | some 116 => eat; keyword [114, 117, 101]; fail (invalidType "boolean `true`" expected)
  | some 102 => eat; keyword [97, 108, 115, 101]; fail (invalidType "boolean `false`" expected)
  | some 45 =>
    eat
    let n ← readNumber false
    fail (invalidType (numberFound n) expected)
  | some 34 =>
    eat
    let s ← string
    fail (invalidType ("string " ++ Text.quoted s) expected)
  | some 91 => fail (invalidType "sequence" expected)
  | some 123 => fail (invalidType "map" expected)
  | some c =>
    if isDigit c then
      let n ← readNumber true
      fail (invalidType (numberFound n) expected)
    else failAhead "expected value"
  | none => failAhead "expected value"

def readString : Reader String := do
  match ← skipBlanks with
  | none => failAhead "EOF while parsing a value"
  | some 34 => eat; string
  | some _ => wrongKind "a string"

def maxI64 : Nat := Nat.pow 2 63 - 1

def readI64 : Reader Int := do
  match ← skipBlanks with
  | none => failAhead "EOF while parsing a value"
  | some c =>
    if c == 45 || isDigit c then
      if c == 45 then eat
      match ← readNumber (c != 45) with
      | .nat n =>
        if n ≤ maxI64 then pure n
        else fail ("invalid value: integer `" ++ toString n ++ "`, expected i64")
      | .negInt i => pure i
      | .float x => fail (invalidType ("floating point `" ++ floatText x ++ "`") "i64")
    else wrongKind "i64"

def readOptionalI64 : Reader (Option Int) := do
  match ← skipBlanks with
  | some 110 => eat; keyword [117, 108, 108]; pure none
  | _ => some <$> readI64

def skipValue : Reader Unit := do
  let b ← read
  skipAny (2 * b.size + 4)

/-- Reads the members of an object, its brace eaten: `field` reads the value of a known
key into the record, other values are dropped. The answer is the record, or the error
of a key given twice, which has no place yet. -/
def recordMembers {σ : Type} (known : List String) (field : String → σ → Reader σ) :
    Nat → Bool → List String → σ → Reader (Except String σ)
  | 0, _, _, acc => pure (.ok acc)
  | fuel + 1, first, seen, acc => do
    let c ← skipBlanks
    let more ← match c with
      | some 125 => pure false
      | some 44 =>
        if first then failAhead "key must be a string"
        else
          eat
          match ← skipBlanks with
          | some 34 => pure true
          | some 125 => failAhead "trailing comma"
          | some _ => failAhead "key must be a string"
          | none => failAhead "EOF while parsing a value"
      | some 34 => if first then pure true else failAhead "expected `,` or `\x7d`"
      | some _ => if first then failAhead "key must be a string" else failAhead "expected `,` or `\x7d`"
      | none => failAhead "EOF while parsing an object"
    if !more then return .ok acc
    eat
    let k ← string
    if known.contains k && seen.contains k then return .error ("duplicate field `" ++ k ++ "`")
    match ← skipBlanks with
    | some 58 => eat
    | some _ => failAhead "expected `:`"
    | none => failAhead "EOF while parsing an object"
    if known.contains k then
      let acc ← field k acc
      recordMembers known field fuel false (k :: seen) acc
    else
      skipValue
      recordMembers known field fuel false seen acc

def hasElement (first : Bool) : Reader Bool := do
  match ← skipBlanks with
  | none => failAhead "EOF while parsing a list"
  | some 93 => pure false
  | some c =>
    if first then pure true
    else if c == 44 then
      eat
      match ← skipBlanks with
      | some 93 => failAhead "trailing comma"
      | some _ => pure true
      | none => failAhead "EOF while parsing a value"
    else failAhead "expected `,` or `]`"

def endSequence : Reader Unit := do
  match ← skipBlanks with
  | some 93 => eat
  | some 44 =>
    eat
    match ← skipBlanks with
    | some 93 => failAhead "trailing comma"
    | _ => failAhead "trailing characters"
  | some _ => failAhead "trailing characters"
  | none => failAhead "EOF while parsing a list"

def invalidLength (index : Nat) (expected : String) : String :=
  "invalid length " ++ toString index ++ ", expected " ++ expected

/-- Reads a record named `name` from an object, or from a sequence of its fields in
order. From an object, `finish` turns the filled record into the value or names the
field that is missing; from a sequence, `elements` reads the fields, its brackets
aside, or tells where the sequence was too short. -/
def readRecord {σ α : Type} (name : String) (known : List String) (init : σ)
    (field : String → σ → Reader σ) (finish : σ → Except String α)
    (elements : Reader (Except String α)) : Reader α := do
  match ← skipBlanks with
  | none => failAhead "EOF while parsing a value"
  | some 123 =>
    eat
    let b ← read
    let r ← recordMembers known field (b.size + 1) true [] init
    -- the closing brace is read before an error without a place gets one
    if (← skipBlanks) == some 125 then eat
    match r with
    | .error e => fail e
    | .ok acc =>
      match finish acc with
      | .ok a => pure a
      | .error e => fail e
  | some 91 =>
    eat
    let r ← elements
    endSequence
    match r with
    | .ok a => pure a
    | .error e => fail e
  | some _ => wrongKind ("struct " ++ name)

def missingField (name : String) : String := "missing field `" ++ name ++ "`"

def decodeBytes {α : Type} (r : Reader α) (b : ByteArray) : Except ReadError α :=
  let whole : Reader α := do
    let v ← r
    match ← skipBlanks with
    | some _ => failAhead "trailing characters"
    | none => pure v
  (whole.run b |>.run 0).map (·.1)

end Json

end KvStore
