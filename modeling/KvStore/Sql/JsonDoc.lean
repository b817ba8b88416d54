import KvStore.Sql.Value
import KvStore.Decimal.Read

namespace KvStore

namespace Sql

/-- A JSON value. A number keeps its canonical text and whether it is an integer; a
string, and an object's key, keep their text between the quotes with its escapes. -/
inductive JsonNode where
  | null
  | bool (b : Bool)
  | number (text : String) (integral : Bool)
  | string (escaped : String)
  | array (items : List JsonNode)
  | object (members : List (String × JsonNode))
  deriving Repr, Inhabited

/-- Reading a JSON text: the characters left, the position of the first of them, and
whether a JSON5 extension was used. -/
structure JsonScan where
  rest : List Char
  at_ : Nat
  extended : Bool := false

abbrev JsonReader := StateT JsonScan (Except Nat)

namespace JsonReader

def fail {α : Type} : JsonReader α := do throw (← get).at_

def peek : JsonReader (Option Char) := do pure (← get).rest.head?

def peekAt (k : Nat) : JsonReader (Option Char) := do pure ((← get).rest.drop k).head?

def skip (n : Nat) : JsonReader Unit :=
  modify fun s => { s with rest := s.rest.drop n, at_ := s.at_ + n }

def extend : JsonReader Unit := modify fun s => { s with extended := true }

def isExtendedBlank (c : Char) : Bool :=
  c == '\x0b' || c == '\x0c' || c.toNat == 0xA0 || c.toNat == 0xFEFF || c.toNat == 0x1680 ||
    (0x2000 ≤ c.toNat && c.toNat ≤ 0x200A) || c.toNat == 0x2028 || c.toNat == 0x2029 ||
    c.toNat == 0x202F || c.toNat == 0x205F || c.toNat == 0x3000

def blockCommentLength : List Char → Option Nat
  | '*' :: '/' :: _ => some 2
  | _ :: rest => (blockCommentLength rest).map (· + 1)
  | [] => none

def blanks : Nat → JsonReader Unit
  | 0 => pure ()
  | f + 1 => do
    match (← get).rest with
    | c :: r =>
      if c == ' ' || c == '\t' || c == '\n' || c == '\r' then skip 1; blanks f
      else if isExtendedBlank c then extend; skip 1; blanks f
      else if c == '/' then
        match r with
        | '/' :: body =>
          extend
          skip (2 + (body.takeWhile (· != '\n')).length)
          blanks f
        | '*' :: body =>
          match blockCommentLength body with
          | some n => extend; skip (2 + n); blanks f
          | none => fail
        | _ => pure ()
      else pure ()
    | [] => pure ()

def hexValue (c : Char) : Option Nat :=
  if c.isDigit then some (c.toNat - 48)
  else if 'a' ≤ c && c ≤ 'f' then some (c.toNat - 87)
  else if 'A' ≤ c && c ≤ 'F' then some (c.toNat - 55)
  else none

def hex2 (n : Nat) : String :=
  let d (k : Nat) : Char := "0123456789abcdef".toList.getD k '0'
  String.ofList [d (n / 16 % 16), d (n % 16)]

def controlEscape (c : Char) : String :=
  match c with
  | '\x08' => "\\b"
  | '\t' => "\\t"
  | '\n' => "\\n"
  | '\x0c' => "\\f"
  | '\r' => "\\r"
  | _ => "\\u00" ++ hex2 c.toNat

/-- Reads a string's body after its opening quote, up to and past the closing one;
returns the body with canonical escapes. -/
def stringBody (quote : Char) : Nat → List Char → JsonReader (List Char)
  | 0, _ => fail
  | f + 1, acc => do
    match (← get).rest with
    | [] => fail
    | c :: r =>
      if c == quote then skip 1; pure acc.reverse
      else if c == '\\' then
        match r with
        | e :: more =>
          if e == '"' || e == '\\' || e == '/' || e == 'b' || e == 'f' || e == 'n' || e == 'r' || e == 't' then
            skip 2; stringBody quote f (e :: '\\' :: acc)
          else if e == 'u' then
            let ds := more.take 4
            if ds.length == 4 && ds.all (fun d => (hexValue d).isSome) then
              skip 6; stringBody quote f (ds.reverse ++ ['u', '\\'] ++ acc)
            else fail
          else if e == '\'' then extend; skip 2; stringBody quote f ('\'' :: acc)
          else if e == 'v' then extend; skip 2; stringBody quote f ("b000u\\".toList ++ acc)
          else if e == 'x' then
            match more with
            | a :: b :: _ =>
              if (hexValue a).isSome && (hexValue b).isSome then
                extend; skip 4; stringBody quote f ([b, a, '0', '0', 'u', '\\'] ++ acc)
              else fail
            | _ => fail
          else if e == '0' && !((more.head?.map Char.isDigit).getD false) then
            extend; skip 2; stringBody quote f ("0000u\\".toList ++ acc)
          else if e == '\n' || e.toNat == 0x2028 || e.toNat == 0x2029 then
            extend; skip 2; stringBody quote f acc
          else if e == '\r' then
            extend; skip (if more.head? == some '\n' then 3 else 2); stringBody quote f acc
          else fail
        | [] => fail
      else if c.toNat == 0 then fail
      else if c.toNat < 0x20 then
        extend; skip 1; stringBody quote f ((controlEscape c).toList.reverse ++ acc)
      else if c == '"' then skip 1; stringBody quote f ('"' :: '\\' :: acc)
      else skip 1; stringBody quote f (c :: acc)

def isKeyChar (c : Char) : Bool := c.isAlphanum || c == '_' || c == '$' || c.toNat ≥ 0x80

def specialWord (cs : List Char) : Option (Nat × Bool) :=
  let lower := cs.map Char.toLower
  let after (n : Nat) : Bool := !((cs.drop n).head?.map Char.isAlphanum).getD false
  if lower.take 8 == "infinity".toList && after 8 then some (8, true)
  else if lower.take 4 == "qnan".toList && after 4 then some (4, false)
  else if lower.take 4 == "snan".toList && after 4 then some (4, false)
  else if lower.take 3 == "inf".toList && after 3 then some (3, true)
  else if lower.take 3 == "nan".toList && after 3 then some (3, false)
  else none

def number (sign : String) : JsonReader JsonNode := do
  let cs := (← get).rest
  match specialWord cs with
  | some (n, isInfinity) =>
    extend
    skip n
    pure (if isInfinity then .number (sign ++ "9e999") false else .null)
  | none =>
    match cs with
    | '0' :: x :: more =>
      if x == 'x' || x == 'X' then
        let ds := more.takeWhile (fun d => (hexValue d).isSome)
        if ds.isEmpty then fail
        extend
        skip (2 + ds.length)
        let v := ds.foldl (fun n d => n * 16 + (hexValue d).getD 0) 0
        pure (.number (sign ++ toString v) true)
      else if x.isDigit then fail
      else decimal cs
    | _ => decimal cs
where
  decimal (cs : List Char) : JsonReader JsonNode := do
    let whole := cs.takeWhile Char.isDigit
    let rest := cs.drop whole.length
    let (frac, rest, point) := match rest with
      | '.' :: r => (r.takeWhile Char.isDigit, r.drop (r.takeWhile Char.isDigit).length, true)
      | r => ([], r, false)
    if whole.isEmpty && frac.isEmpty then fail
    if whole.isEmpty || (point && frac.isEmpty) then extend
    let (expo, rest) := match rest with
      | e :: r =>
        if e == 'e' || e == 'E' then
          let (s, r') := match r with
            | '+' :: q => (['+'], q)
            | '-' :: q => (['-'], q)
            | q => ([], q)
          let ds := r'.takeWhile Char.isDigit
          (some (e :: s ++ ds, ds.isEmpty), r'.drop ds.length)
        else (none, rest)
      | [] => (none, rest)
    match expo with
    | some (_, true) => skip (cs.length - rest.length); fail
    | _ => pure ()
    skip (cs.length - rest.length)
    let wholeText := if whole.isEmpty then ['0'] else whole
    let fracText := if point then '.' :: (if frac.isEmpty then ['0'] else frac) else []
    let expoText := (expo.map (·.1)).getD []
    pure (.number (sign ++ String.ofList (wholeText ++ fracText ++ expoText)) (!point && expo.isNone))

mutual

def value : Nat → JsonReader JsonNode
  | 0 => fail
  | f + 1 => do
    blanks 10000000
    let some c ← peek | fail
    let cs := (← get).rest
    let word (w : String) : Bool :=
      cs.take w.length == w.toList && !(((cs.drop w.length).head?.map Char.isAlphanum).getD false)
    if c == '{' then skip 1; object f []
    else if c == '[' then skip 1; array f []
    else if c == '"' then skip 1; pure (.string (String.ofList (← stringBody '"' 100000000 [])))
    else if c == '\'' then extend; skip 1; pure (.string (String.ofList (← stringBody '\'' 100000000 [])))
    else if word "true" then skip 4; pure (.bool true)
    else if word "false" then skip 5; pure (.bool false)
    else if word "null" then skip 4; pure .null
    else if c == '-' then skip 1; number "-"
    else if c == '+' then extend; skip 1; number ""
    else if c.isDigit || c == '.' || c == 'I' || c == 'i' || c == 'N' || c == 'n' || c == 'Q' || c == 'q' ||
        c == 'S' || c == 's' then number ""
    else fail

def array : Nat → List JsonNode → JsonReader JsonNode
  | 0, _ => fail
  | f + 1, acc => do
    blanks 10000000
    if (← peek) == some ']' then
      if !acc.isEmpty then extend
      skip 1
      return .array acc.reverse
    let v ← value f
    blanks 10000000
    match ← peek with
    | some ',' => skip 1; array f (v :: acc)
    | some ']' => skip 1; pure (.array (v :: acc).reverse)
    | _ => fail

def object : Nat → List (String × JsonNode) → JsonReader JsonNode
  | 0, _ => fail
  | f + 1, acc => do
    blanks 10000000
    let some c ← peek | fail
    if c == '}' then
      if !acc.isEmpty then extend
      skip 1
      return .object acc.reverse
    let k ← if c == '"' then do skip 1; pure (String.ofList (← stringBody '"' 100000000 []))
      else if c == '\'' then do extend; skip 1; pure (String.ofList (← stringBody '\'' 100000000 []))
      else if isKeyChar c && !c.isDigit then do
        let name := (← get).rest.takeWhile isKeyChar
        extend
        skip name.length
        pure (String.ofList name)
      else fail
    blanks 10000000
    if (← peek) != some ':' then fail
    skip 1
    let v ← value f
    blanks 10000000
    match ← peek with
    | some ',' => skip 1; object f ((k, v) :: acc)
    | some '}' => skip 1; pure (.object ((k, v) :: acc).reverse)
    | _ => fail

end

end JsonReader

def jsonDepthLimit : Nat := 1000

/-- Reads a whole JSON text: the value and whether JSON5 extensions were used, or the
position of the first mistake. -/
def readJson (text : String) : Except Nat (JsonNode × Bool) :=
  let run : JsonReader JsonNode := do
    let v ← JsonReader.value (jsonDepthLimit + 1)
    JsonReader.blanks 10000000
    if (← get).rest.isEmpty then pure v else JsonReader.fail
  match run.run { rest := text.toList, at_ := 0 } with
  | .ok (v, s) => .ok (v, s.extended)
  | .error at_ => .error at_

namespace JsonNode

mutual

def render : JsonNode → String
  | .null => "null"
  | .bool b => if b then "true" else "false"
  | .number t _ => t
  | .string s => "\"" ++ s ++ "\""
  | .array items => "[" ++ renderItems items ++ "]"
  | .object members => "\x7b" ++ renderMembers members ++ "\x7d"

def renderItems : List JsonNode → String
  | [] => ""
  | [x] => render x
  | x :: xs => render x ++ "," ++ renderItems xs

def renderMembers : List (String × JsonNode) → String
  | [] => ""
  | [(k, v)] => "\"" ++ k ++ "\":" ++ render v
  | (k, v) :: ms => "\"" ++ k ++ "\":" ++ render v ++ "," ++ renderMembers ms

end

def typeName : JsonNode → String
  | .null => "null"
  | .bool true => "true"
  | .bool false => "false"
  | .number _ true => "integer"
  | .number _ false => "real"
  | .string _ => "text"
  | .array _ => "array"
  | .object _ => "object"

end JsonNode

def codeChar (n : Nat) : Char :=
  if 0xD800 ≤ n && n ≤ 0xDFFF then Char.ofNat 0xFFFD else Char.ofNat n

def unescapeJson : Nat → List Char → List Char
  | 0, _ => []
  | f + 1, cs =>
    match cs with
    | '\\' :: 'u' :: a :: b :: c :: d :: rest =>
      let v := [a, b, c, d].foldl (fun n x => n * 16 + (JsonReader.hexValue x).getD 0) 0
      if 0xD800 ≤ v && v ≤ 0xDBFF then
        match rest with
        | '\\' :: 'u' :: a' :: b' :: c' :: d' :: more =>
          let w := [a', b', c', d'].foldl (fun n x => n * 16 + (JsonReader.hexValue x).getD 0) 0
          if 0xDC00 ≤ w && w ≤ 0xDFFF then
            Char.ofNat (0x10000 + (v - 0xD800) * 0x400 + (w - 0xDC00)) :: unescapeJson f more
          else codeChar v :: unescapeJson f rest
        | _ => codeChar v :: unescapeJson f rest
      else codeChar v :: unescapeJson f rest
    | '\\' :: e :: rest =>
      let c := match e with
        | 'b' => '\x08'
        | 'f' => '\x0c'
        | 'n' => '\n'
        | 'r' => '\r'
        | 't' => '\t'
        | other => other
      c :: unescapeJson f rest
    | c :: rest => c :: unescapeJson f rest
    | [] => []

def jsonText (escaped : String) : String :=
  String.ofList (unescapeJson (escaped.length + 1) escaped.toList)

def escapeJson (s : String) : String :=
  String.join (s.toList.map fun c =>
    if c == '"' then "\\\"" else if c == '\\' then "\\\\"
    else if c.toNat < 0x20 then JsonReader.controlEscape c
    else String.singleton c)

def integerText? (t : String) : Option Int :=
  match t.toList with
  | '-' :: ds => if ds.isEmpty || !ds.all Char.isDigit then none else some (-(Binary64.digitValue ds : Int))
  | ds => if ds.isEmpty || !ds.all Char.isDigit then none else some (Binary64.digitValue ds)

/-- The SQL value a JSON value gives when extracted: null, `1` or `0` for a boolean,
an integer (a real when it does not fit), a real, the text of a string, or the JSON
text of an array or object. -/
def JsonNode.toValue : JsonNode → Value
  | .null => .null
  | .bool b => .int (if b then 1 else 0)
  | .number t integral =>
    let real : Value := match Binary64.readFloat? t with
      | some x => .real x
      | none => .null
    if integral then
      match integerText? t with
      | some i => if minInt ≤ i && i ≤ maxInt then .int i else real
      | none => real
    else real
  | .string s => .text (jsonText s)
  | n => .text n.render

inductive PathStep where
  | label (name : String)
  | index (i : Nat)
  | fromEnd (n : Nat)
  deriving Repr, Inhabited

/-- Reads the first step of what follows `$` in a path: the step and the characters
after it; `none` when the path is malformed there. -/
def pathStep (cs : List Char) : Option (PathStep × List Char) :=
  match cs with
  | '.' :: '"' :: rest =>
    let name := rest.takeWhile (· != '"')
    match rest.drop name.length with
    | '"' :: after => some (.label (jsonText (String.ofList name)), after)
    | _ => none
  | '.' :: rest =>
    let name := rest.takeWhile (fun c => c != '.' && c != '[')
    if name.isEmpty then none else some (.label (String.ofList name), rest.drop name.length)
  | '[' :: rest =>
    let ds := rest.takeWhile Char.isDigit
    match rest.drop ds.length with
    | ']' :: after => if ds.isEmpty then none else some (.index (Binary64.digitValue ds), after)
    | _ =>
      match rest with
      | '#' :: '-' :: more =>
        let ns := more.takeWhile Char.isDigit
        match more.drop ns.length with
        | ']' :: after => if ns.isEmpty then none else some (.fromEnd (Binary64.digitValue ns), after)
        | _ => none
      | '#' :: ']' :: after => some (.fromEnd 0, after)
      | _ => none
  | _ => none

/-- What looking a path up found: the value, nothing, or a malformed path. -/
inductive Found where
  | value (v : JsonNode)
  | missing
  | badPath
  deriving Inhabited

/-- Looks up what follows `$` in a path. A step into a value of the wrong kind finds
nothing, before the rest of the path is read. -/
def lookupPath : Nat → JsonNode → List Char → Found
  | 0, _, _ => .missing
  | _, v, [] => .value v
  | f + 1, v, cs =>
    match cs with
    | '[' :: _ =>
      match v with
      | .array items =>
        match pathStep cs with
        | some (.index i, rest) =>
          match items[i]? with
          | some x => lookupPath f x rest
          | none => .missing
        | some (.fromEnd n, rest) =>
          if n == 0 || n > items.length then .missing
          else match items[items.length - n]? with
            | some x => lookupPath f x rest
            | none => .missing
        | _ => .badPath
      | _ => .missing
    | _ =>
      match pathStep cs with
      | some (.label name, rest) =>
        match v with
        | .object members =>
          match members.find? (fun (k, _) => jsonText k == name) with
          | some (_, x) => lookupPath f x rest
          | none => .missing
        | _ => .missing
      | _ => .badPath

/-- How an edit treats the value a path names: `json_insert` only adds, `json_replace`
only overwrites, `json_set` does both. -/
inductive EditMode where
  | insert
  | replace
  | set
  deriving BEq, Inhabited

/-- The value the rest of a path builds around a new value when the path goes past
where the document ends: an object for a label, an array for an index. -/
def buildPath : Nat → List Char → JsonNode → Option JsonNode
  | 0, _, _ => none
  | _, [], v => some v
  | f + 1, cs, v =>
    match pathStep cs with
    | some (.label name, rest) => (buildPath f rest v).map fun inner => .object [(escapeJson name, inner)]
    | some (.index 0, rest) | some (.fromEnd 0, rest) => (buildPath f rest v).map fun inner => .array [inner]
    | _ => none

def editPath (mode : EditMode) (new : JsonNode) : Nat → JsonNode → List Char → Option JsonNode
  | 0, v, _ => some v
  | _, v, [] => some (if mode == .insert then v else new)
  | f + 1, v, cs =>
    match pathStep cs with
    | none => none
    | some (step, rest) =>
      match step, v with
      | .label name, .object members =>
        match members.findIdx? (fun (k, _) => jsonText k == name) with
        | some i =>
          match members[i]? with
          | some (k, x) => (editPath mode new f x rest).map fun x' => .object (members.set i (k, x'))
          | none => some v
        | none =>
          if mode == .replace then some v
          else match buildPath (f + 1) rest new with
            | some inner => some (.object (members ++ [(escapeJson name, inner)]))
            | none => some v
      | .index i, .array items =>
        match items[i]? with
        | some x => (editPath mode new f x rest).map fun x' => .array (items.set i x')
        | none =>
          if i == items.length && mode != .replace then
            (buildPath (f + 1) rest new).map fun inner => .array (items ++ [inner])
          else some v
      | .fromEnd n, .array items =>
        if n == 0 then
          if mode == .replace then some v
          else (buildPath (f + 1) rest new).map fun inner => .array (items ++ [inner])
        else if n > items.length then some v
        else
          let i := items.length - n
          match items[i]? with
          | some x => (editPath mode new f x rest).map fun x' => .array (items.set i x')
          | none => some v
      | _, _ => some v

/-- Removes the value a path names; `none` for a malformed path, and the whole value
when the path is `$` alone is given as removed by the caller. -/
def removePath : Nat → JsonNode → List Char → Option JsonNode
  | 0, v, _ => some v
  | _, v, [] => some v
  | f + 1, v, cs =>
    match pathStep cs with
    | none => none
    | some (step, rest) =>
      match step, v with
      | .label name, .object members =>
        match members.findIdx? (fun (k, _) => jsonText k == name) with
        | some i =>
          if rest.isEmpty then some (.object (members.eraseIdx i))
          else match members[i]? with
            | some (k, x) => (removePath f x rest).map fun x' => .object (members.set i (k, x'))
            | none => some v
        | none => some v
      | .index i, .array items =>
        if i < items.length then
          if rest.isEmpty then some (.array (items.eraseIdx i))
          else match items[i]? with
            | some x => (removePath f x rest).map fun x' => .array (items.set i x')
            | none => some v
        else some v
      | .fromEnd n, .array items =>
        if n == 0 || n > items.length then some v
        else
          let i := items.length - n
          if rest.isEmpty then some (.array (items.eraseIdx i))
          else match items[i]? with
            | some x => (removePath f x rest).map fun x' => .array (items.set i x')
            | none => some v
      | _, _ => some v

/-- Applies a merge patch (RFC 7396): an object patch sets, merges into, or with null
removes the target's members; any other patch replaces the target. -/
def mergePatch : Nat → JsonNode → JsonNode → JsonNode
  | 0, _, p => p
  | f + 1, target, patch =>
    match patch with
    | .object changes =>
      let members := match target with
        | .object ms => ms
        | _ => []
      let merged := changes.foldl (fun (ms : List (String × JsonNode)) (k, v) =>
        match ms.findIdx? (fun (k', _) => jsonText k' == jsonText k) with
        | some i =>
          match v with
          | .null => ms.eraseIdx i
          | _ => match ms[i]? with
            | some (k', old) => ms.set i (k', mergePatch f old v)
            | none => ms
        | none =>
          match v with
          | .null => ms
          | _ => ms ++ [(k, mergePatch f .null v)]) members
      .object merged
    | p => p

end Sql

end KvStore
