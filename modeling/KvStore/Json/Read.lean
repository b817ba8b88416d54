import KvStore.Json.Value

namespace KvStore

namespace Json

/-- A reading failure and where it was found; line `0` means no position yet. -/
structure ReadError where
  message : String
  line : Nat
  column : Nat
  deriving Repr, BEq, Inhabited

def ReadError.render (e : ReadError) : String :=
  if e.line = 0 then e.message
  else e.message ++ " at line " ++ toString e.line ++ " column " ++ toString e.column

def positionOf (b : ByteArray) (i : Nat) : Nat × Nat :=
  let pre := (b.extract 0 i).toList
  let breaks := pre.foldl (fun (n, at_, k) c => if c == 10 then (n + 1, k + 1, k + 1) else (n, at_, k + 1))
    (0, 0, 0)
  (breaks.1 + 1, i - breaks.2.1)

abbrev Reader := ReaderT ByteArray (StateT Nat (Except ReadError))

namespace Reader

def peek : Reader (Option UInt8) := do
  let b ← read
  let i ← get
  pure (if h : i < b.size then some b[i] else none)

def eat : Reader Unit := modify (· + 1)

def next : Reader (Option UInt8) := do
  let c ← peek
  if c.isSome then eat
  pure c

def fail {α : Type} (message : String) : Reader α := do
  let b ← read
  let i ← get
  let (line, column) := positionOf b i
  throw { message, line, column }

def failAhead {α : Type} (message : String) : Reader α := do
  let b ← read
  let i ← get
  let (line, column) := positionOf b (min (i + 1) b.size)
  throw { message, line, column }

def placed {α : Type} (r : Reader α) : Reader α := fun b i =>
  match r b i with
  | .error e =>
    if e.line = 0 then
      let (line, column) := positionOf b i
      .error { e with line, column }
    else .error e
  | ok => ok

def isBlank (c : UInt8) : Bool := c == 32 || c == 10 || c == 9 || c == 13

def isDigit (c : UInt8) : Bool := 48 ≤ c && c ≤ 57

def blankEnd (b : ByteArray) (i : Nat) : Nat :=
  if h : i < b.size then
    if isBlank b[i] then blankEnd b (i + 1) else i
  else i
termination_by b.size - i

def skipBlanks : Reader (Option UInt8) := do
  let b ← read
  let i ← get
  set (blankEnd b i)
  peek

def digitRun (b : ByteArray) (i : Nat) : List Nat × Nat :=
  if h : i < b.size then
    if isDigit b[i] then
      let (ds, j) := digitRun b (i + 1)
      ((b[i] - 48).toNat :: ds, j)
    else ([], i)
  else ([], i)
termination_by b.size - i

def digits : Reader (List Nat) := do
  let b ← read
  let i ← get
  let (ds, j) := digitRun b i
  set j
  pure ds

def keyword (rest : List UInt8) : Reader Unit :=
  match rest with
  | [] => pure ()
  | c :: cs => do
    match ← next with
    | none => fail "EOF while parsing a value"
    | some d => if d == c then keyword cs else fail "expected ident"

end Reader

open Reader

def maxU64 : Nat := Nat.pow 2 64 - 1

def fitU64 (acc : Nat) : List Nat → Nat × List Nat
  | [] => (acc, [])
  | d :: ds => if acc * 10 + d > maxU64 then (acc, d :: ds) else fitU64 (acc * 10 + d) ds

/-- `x * 10 ^ e` from a table power of ten, as a reader scales a significand; `none`
when the result overflows. Exponents beyond the table divide by `1e308` first. -/
def scaleByPowTen (x : Binary64) : Nat → Int → Option Binary64
  | 0, _ => some x
  | fuel + 1, e =>
    if e.natAbs ≤ 308 then
      if 0 ≤ e then
        let y := x.mul (Binary64.powTen e.natAbs)
        if y.isFinite then some y else none
      else some (x.div (Binary64.powTen e.natAbs))
    else if x.isZero then some x
    else if 0 ≤ e then none
    else scaleByPowTen (x.div (Binary64.powTen 308)) fuel (e + 308)

def i32Max : Int := Int.pow 2 31 - 1

def addI32 (a b : Int) : Int := max (-(Int.pow 2 31)) (min i32Max (a + b))

def floatOfParts (positive : Bool) (sig : Nat) (exp : Int) : Reader Binary64 :=
  match scaleByPowTen (Binary64.ofNat sig) (exp.natAbs / 308 + 2) exp with
  | some x => pure (if positive then x else x.neg)
  | none => fail "number out of range"

def exponentDigits (acc : Int) : List Nat → Option Int
  | [] => some acc
  | d :: ds => if acc * 10 + d > i32Max then none else exponentDigits (acc * 10 + d) ds

def exponentOverflowAt (acc : Int) (k : Nat) : List Nat → Nat
  | [] => k
  | d :: ds => if acc * 10 + d > i32Max then k + 1 else exponentOverflowAt (acc * 10 + d) (k + 1) ds

def readExponent (positive : Bool) (sig : Nat) (start : Int) : Reader Binary64 := do
  eat
  let positiveExp ← do
    match ← peek with
    | some 43 => eat; pure true
    | some 45 => eat; pure false
    | _ => pure true
  match ← next with
  | none => fail "EOF while parsing a value"
  | some c =>
    if !isDigit c then fail "invalid number"
    else
      let b ← read
      let i ← get
      let (ds, j) := digitRun b i
      match exponentDigits (c - 48).toNat ds with
      | some e =>
        set j
        let final := if positiveExp then addI32 start e else addI32 start (-e)
        floatOfParts positive sig final
      | none =>
        if sig != 0 && positiveExp then
          -- the digit that overflows has been read when the error is raised
          set (i + exponentOverflowAt (c - 48).toNat 0 ds)
          fail "number out of range"
        else
          set j
          pure (if positive then Binary64.zero false else Binary64.zero true)

def readFraction (positive : Bool) (sig : Nat) (before : Int) : Reader Binary64 := do
  eat
  let ds ← digits
  if ds.isEmpty then
    match ← peek with
    | some _ => failAhead "invalid number"
    | none => failAhead "EOF while parsing a value"
  else
    let (sig', rest) := fitU64 sig ds
    let exp := before - ((ds.length - rest.length : Nat) : Int)
    match ← peek with
    | some 101 | some 69 => readExponent positive sig' exp
    | _ => floatOfParts positive sig' exp

def readNumberTail (positive : Bool) (sig : Nat) : Reader JsonNumber := do
  match ← peek with
  | some 46 => return .float (← readFraction positive sig 0)
  | some 101 | some 69 => return .float (← readExponent positive sig 0)
  | _ =>
    if positive then return .nat sig
    else if sig = 0 then return .float (Binary64.zero true)
    else if sig > Nat.pow 2 63 then return .float (Binary64.ofNat sig).neg
    else return .negInt (-(sig : Int))

def readNumber (positive : Bool) : Reader JsonNumber := do
  match ← next with
  | none => fail "EOF while parsing a value"
  | some 48 =>
    match ← peek with
    | some c => if isDigit c then failAhead "invalid number" else readNumberTail positive 0
    | none => readNumberTail positive 0
  | some c =>
    if !isDigit c then fail "invalid number"
    else
      let ds ← digits
      let (sig, rest) := fitU64 (c - 48).toNat ds
      if rest.isEmpty then readNumberTail positive sig
      else
        -- the digits beyond 64 bits only raise the exponent
        let exp : Int := rest.length
        match ← peek with
        | some 46 => return .float (← readFraction positive sig exp)
        | some 101 | some 69 => return .float (← readExponent positive sig exp)
        | _ => return .float (← floatOfParts positive sig exp)

def utf8Bytes (c : Nat) : List UInt8 :=
  if c < 0x80 then [c.toUInt8]
  else if c < 0x800 then [(0xC0 + c / 64).toUInt8, (0x80 + c % 64).toUInt8]
  else if c < 0x10000 then
    [(0xE0 + c / 4096).toUInt8, (0x80 + (c / 64) % 64).toUInt8, (0x80 + c % 64).toUInt8]
  else
    [(0xF0 + c / 262144).toUInt8, (0x80 + (c / 4096) % 64).toUInt8,
      (0x80 + (c / 64) % 64).toUInt8, (0x80 + c % 64).toUInt8]

def hexValue (c : UInt8) : Option Nat :=
  if 48 ≤ c && c ≤ 57 then some (c - 48).toNat
  else if 97 ≤ c && c ≤ 102 then some (c - 87).toNat
  else if 65 ≤ c && c ≤ 70 then some (c - 55).toNat
  else none

def hexEscape : Reader Nat := do
  let b ← read
  let i ← get
  if i + 4 ≤ b.size then
    set (i + 4)
    match hexValue b[i]!, hexValue b[i + 1]!, hexValue b[i + 2]!, hexValue b[i + 3]! with
    | some a, some c, some d, some e => pure (((a * 16 + c) * 16 + d) * 16 + e)
    | _, _, _, _ => fail "invalid escape"
  else
    set b.size
    fail "EOF while parsing a string"

def escape : Reader (List UInt8) := do
  match ← next with
  | none => fail "EOF while parsing a string"
  | some 34 => pure [34]
  | some 92 => pure [92]
  | some 47 => pure [47]
  | some 98 => pure [8]
  | some 102 => pure [12]
  | some 110 => pure [10]
  | some 114 => pure [13]
  | some 116 => pure [9]
  | some 117 =>
    let n ← hexEscape
    if 0xDC00 ≤ n ∧ n ≤ 0xDFFF then fail "lone leading surrogate in hex escape"
    else if n < 0xD800 ∨ n > 0xDBFF then pure (utf8Bytes n)
    else
      match ← peek with
      | some 92 =>
        eat
        match ← peek with
        | some 117 =>
          eat
          let n2 ← hexEscape
          if n2 < 0xDC00 ∨ n2 > 0xDFFF then fail "lone leading surrogate in hex escape"
          else pure (utf8Bytes (((n - 0xD800) * 1024 + (n2 - 0xDC00)) + 0x10000))
        | some _ => eat; fail "unexpected end of hex escape"
        | none => fail "EOF while parsing a string"
      | some _ => eat; fail "unexpected end of hex escape"
      | none => fail "EOF while parsing a string"
  | some _ => fail "invalid escape"

def stringBytes : Nat → List UInt8 → Reader (List UInt8)
  | 0, _ => fail "EOF while parsing a string"
  | fuel + 1, acc => do
    match ← next with
    | none => fail "EOF while parsing a string"
    | some 34 => pure acc.reverse
    | some 92 =>
      let bs ← escape
      stringBytes fuel (bs.reverse ++ acc)
    | some c =>
      if c < 32 then fail "control character (\\u0000-\\u001F) found while parsing a string"
      else stringBytes fuel (c :: acc)

def string : Reader String := do
  let b ← read
  let bs ← stringBytes (b.size + 1) []
  match String.fromUTF8? (ByteArray.mk bs.toArray) with
  | some s => pure s
  | none => fail "invalid unicode code point"

mutual

def value : Nat → Nat → Reader Json
  | 0, _ => fail "recursion limit exceeded"
  | fuel + 1, depth => do
    match ← skipBlanks with
    | none => failAhead "EOF while parsing a value"
    | some 110 => eat; keyword [117, 108, 108]; pure .null
    | some 116 => eat; keyword [114, 117, 101]; pure (.bool true)
    | some 102 => eat; keyword [97, 108, 115, 101]; pure (.bool false)
    | some 45 => eat; return .num (← readNumber false)
    | some 34 => eat; return .str (← string)
    | some 91 =>
      if depth ≤ 1 then failAhead "recursion limit exceeded"
      else
        eat
        let items ← elements fuel (depth - 1) true []
        eat
        pure (.arr items)
    | some 123 =>
      if depth ≤ 1 then failAhead "recursion limit exceeded"
      else
        eat
        let fields ← members fuel (depth - 1) true []
        eat
        pure (.obj fields)
    | some c =>
      if isDigit c then return .num (← readNumber true)
      else failAhead "expected value"

def elements : Nat → Nat → Bool → List Json → Reader (List Json)
  | 0, _, _, _ => fail "recursion limit exceeded"
  | fuel + 1, depth, first, acc => do
    match ← skipBlanks with
    | none => failAhead "EOF while parsing a list"
    | some 93 => pure acc.reverse
    | some 44 =>
      if first then failAhead "expected value"
      else
        eat
        match ← skipBlanks with
        | some 93 => failAhead "trailing comma"
        | none => failAhead "EOF while parsing a value"
        | some _ =>
          let v ← value fuel depth
          elements fuel depth false (v :: acc)
    | some _ =>
      if first then
        let v ← value fuel depth
        elements fuel depth false (v :: acc)
      else failAhead "expected `,` or `]`"

def members : Nat → Nat → Bool → List (String × Json) → Reader (List (String × Json))
  | 0, _, _, _ => fail "recursion limit exceeded"
  | fuel + 1, depth, first, acc => do
    let c ← skipBlanks
    let key? ← do
      match c with
      | none => failAhead "EOF while parsing an object"
      | some 125 => pure none
      | some 44 =>
        if first then failAhead "key must be a string"
        else
          eat
          match ← skipBlanks with
          | some 34 => pure (some ())
          | some 125 => failAhead "trailing comma"
          | some _ => failAhead "key must be a string"
          | none => failAhead "EOF while parsing a value"
      | some 34 => if first then pure (some ()) else failAhead "expected `,` or `\x7d`"
      | some _ => if first then failAhead "key must be a string" else failAhead "expected `,` or `\x7d`"
    match key? with
    | none => pure acc
    | some () =>
      eat
      let k ← string
      match ← skipBlanks with
      | some 58 => eat
      | some _ => failAhead "expected `:`"
      | none => failAhead "EOF while parsing an object"
      let v ← value fuel depth
      members fuel depth false (insertSorted k v acc)

end

/-- Reads past an escape of a string being dropped, the backslash eaten: its form is
checked, not the code point it names. -/
def skipEscape : Reader Unit := do
  match ← next with
  | none => fail "EOF while parsing a string"
  | some c =>
    if [34, 92, 47, 98, 102, 110, 114, 116].contains c then pure ()
    else if c == 117 then discard hexEscape
    else fail "invalid escape"

/-- Reads past the body of a string being dropped, the opening quote eaten. A control
character fails before it is taken. -/
def skipString : Nat → Reader Unit
  | 0 => fail "EOF while parsing a string"
  | fuel + 1 => do
    match ← peek with
    | none => fail "EOF while parsing a string"
    | some 34 => eat
    | some 92 => eat; skipEscape; skipString fuel
    | some c =>
      if c < 32 then fail "control character (\\u0000-\\u001F) found while parsing a string"
      else eat; skipString fuel

def skipDigits : Reader Unit := do
  let b ← read
  let i ← get
  set (digitRun b i).2

def skipExponent : Reader Unit := do
  eat
  if (← peek) == some 43 || (← peek) == some 45 then eat
  match ← next with
  | some c => if isDigit c then skipDigits else fail "invalid number"
  | none => fail "invalid number"

def skipNumber : Reader Unit := do
  match ← next with
  | some 48 =>
    if ((← peek).map isDigit).getD false then failAhead "invalid number"
  | some c => if isDigit c then skipDigits else fail "invalid number"
  | none => fail "invalid number"
  match ← peek with
  | some 46 =>
    eat
    let b ← read
    let i ← get
    if !((← peek).map isDigit).getD false then failAhead "invalid number"
    set (digitRun b i).2
    if (← peek) == some 101 || (← peek) == some 69 then skipExponent
  | some 101 | some 69 => skipExponent
  | _ => pure ()

mutual

/-- Reads past one value being dropped. Nesting has no limit here, strings are not
decoded and numbers are not converted. -/
def skipAny : Nat → Reader Unit
  | 0 => fail "recursion limit exceeded"
  | fuel + 1 => do
    let b ← read
    match ← skipBlanks with
    | none => failAhead "EOF while parsing a value"
    | some 110 => eat; keyword [117, 108, 108]
    | some 116 => eat; keyword [114, 117, 101]
    | some 102 => eat; keyword [97, 108, 115, 101]
    | some 45 => eat; skipNumber
    | some 34 => eat; skipString (b.size + 1)
    | some 91 => eat; skipElements fuel true
    | some 123 => eat; skipMembers fuel true
    | some c => if isDigit c then skipNumber else failAhead "expected value"

/-- Reads past the elements of a dropped array and its closing bracket. After a comma
a value must follow, so a trailing comma is no value. -/
def skipElements : Nat → Bool → Reader Unit
  | 0, _ => fail "recursion limit exceeded"
  | fuel + 1, first => do
    match ← skipBlanks with
    | none => failAhead "EOF while parsing a list"
    | some 93 => eat
    | some 44 =>
      if first then skipAny fuel
      else eat; skipAny fuel
      skipElements fuel false
    | some _ =>
      if first then skipAny fuel; skipElements fuel false
      else failAhead "expected `,` or `]`"

def skipMember : Nat → Reader Unit
  | 0 => fail "recursion limit exceeded"
  | fuel + 1 => do
    let b ← read
    match ← skipBlanks with
    | some 34 => eat; skipString (b.size + 1)
    | some _ => failAhead "key must be a string"
    | none => failAhead "EOF while parsing an object"
    match ← skipBlanks with
    | some 58 => eat
    | some _ => failAhead "expected `:`"
    | none => failAhead "EOF while parsing an object"
    skipAny fuel

def skipMembers : Nat → Bool → Reader Unit
  | 0, _ => fail "recursion limit exceeded"
  | fuel + 1, first => do
    match ← skipBlanks with
    | none => failAhead "EOF while parsing an object"
    | some 125 => eat
    | some 44 =>
      if first then failAhead "key must be a string"
      else eat; skipMember fuel; skipMembers fuel false
    | some _ =>
      if first then skipMember fuel; skipMembers fuel false
      else failAhead "expected `,` or `\x7d`"

end

def parseBytes (b : ByteArray) : Except ReadError Json :=
  let r : Reader Json := do
    let v ← value (2 * b.size + 4) 128
    match ← skipBlanks with
    | some _ => failAhead "trailing characters"
    | none => pure v
  (r.run b |>.run 0).map (·.1)

def parse (s : String) : Except ReadError Json := parseBytes s.toUTF8

end Json

end KvStore
