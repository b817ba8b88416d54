import KvStore.Text.Blank
import KvStore.Text.Letter
import KvStore.Text.Pattern
import KvStore.Decimal.Read

namespace KvStore

inductive LevelFilter where
  | off
  | error
  | warn
  | info
  | debug
  | trace
  deriving Repr, BEq, DecidableEq, Inhabited

namespace LevelFilter

def ofNumber (s : String) : Option LevelFilter :=
  let ds := match s.toList with
    | '+' :: rest => rest
    | cs => cs
  if ds.isEmpty || !ds.all Char.isDigit then none
  else match ds.foldl (fun n d => n * 10 + (d.toNat - 48)) 0 with
    | 0 => some .off
    | 1 => some .error
    | 2 => some .warn
    | 3 => some .info
    | 4 => some .debug
    | 5 => some .trace
    | _ => none

def parse (s : String) : Option LevelFilter :=
  match ofNumber s with
  | some l => some l
  | none =>
    match Text.asciiLower s with
    | "" | "error" => some .error
    | "off" => some .off
    | "warn" => some .warn
    | "info" => some .info
    | "debug" => some .debug
    | "trace" => some .trace
    | _ => none

def name : LevelFilter → String
  | .off => "off"
  | .error => "error"
  | .warn => "warn"
  | .info => "info"
  | .debug => "debug"
  | .trace => "trace"

end LevelFilter

inductive FieldValue where
  | bool (b : Bool)
  | float (x : Binary64)
  | nan
  | nat (n : Nat)
  | int (i : Int)
  | pattern (text : String)
  deriving Repr, BEq, Inhabited

namespace FieldValue

def floatStyle : FloatStyle :=
  { lowest := -100000, highest := 100000, pointZero := false, plusSign := false,
    infinite := "inf", notANumber := "NaN" }

def readNat (s : String) : Option Nat :=
  let ds := match s.toList with
    | '+' :: rest => rest
    | cs => cs
  if ds.isEmpty || !ds.all Char.isDigit then none
  else
    let n := ds.foldl (fun n d => n * 10 + (d.toNat - 48)) 0
    if n < Nat.pow 2 64 then some n else none

def readInt (s : String) : Option Int :=
  match s.toList with
  | '-' :: rest =>
    (readNat (String.ofList rest)).bind fun n =>
      if rest.head? == some '+' || n > Nat.pow 2 63 then none else some (-(n : Int))
  | _ => (readNat s).bind fun n => if n < Nat.pow 2 63 then some (n : Int) else none

/-- Reads a value: `true` or `false`, an unsigned integer, a signed one, a float (any
NaN is one value), and otherwise a pattern, which must compile. -/
def parse (s : String) : Option FieldValue :=
  if s == "true" then some (.bool true)
  else if s == "false" then some (.bool false)
  else match readNat s with
    | some n => some (.nat n)
    | none =>
      match readInt s with
      | some i => some (.int i)
      | none =>
        match Binary64.readFloat? s with
        | some x => some (if x.isNaN then .nan else .float x)
        | none => if Pattern.compiles s then some (.pattern s) else none

def render : FieldValue → String
  | .bool b => if b then "true" else "false"
  | .float x => floatStyle.render x
  | .nan => "NaN"
  | .nat n => toString n
  | .int i => toString i
  | .pattern t => t

def rank : FieldValue → Nat
  | .bool _ => 0
  | .float _ => 1
  | .nan => 2
  | .nat _ => 3
  | .int _ => 4
  | .pattern _ => 5

def order : FieldValue → FieldValue → Ordering
  | .bool a, .bool b => compare a.toNat b.toNat
  | .float a, .float b => a.compareValue b
  | .nat a, .nat b => compare a b
  | .int a, .int b => compare a b
  | .pattern a, .pattern b => compare a b
  | a, b => compare a.rank b.rank

end FieldValue

/-- A field a directive names, and the value it must have, if any. -/
structure FieldMatch where
  name : String
  value : Option FieldValue := none
  deriving Repr, BEq, Inhabited

namespace FieldMatch

def parse (s : String) : Option FieldMatch :=
  match s.splitOn "=" with
  | [] => none
  | [name] => some { name }
  | name :: value :: _ => (FieldValue.parse value).map fun v => { name, value := some v }

def render (f : FieldMatch) : String :=
  match f.value with
  | some v => f.name ++ "=" ++ v.render
  | none => f.name

def order (a b : FieldMatch) : Ordering :=
  (compare a.name b.name).then
    (match a.value, b.value with
      | none, none => .eq
      | none, some _ => .lt
      | some _, none => .gt
      | some x, some y => x.order y)

end FieldMatch

structure Directive where
  target : Option String := none
  span : Option String := none
  fields : List FieldMatch := []
  level : LevelFilter
  deriving Repr, BEq, Inhabited

namespace Directive

def isDynamic (d : Directive) : Bool := d.span.isSome || !d.fields.isEmpty

def isStatic (d : Directive) : Bool := d.span.isNone && d.fields.all (·.value.isNone)

def compareOption {α : Type} (cmp : α → α → Ordering) : Option α → Option α → Ordering
  | none, none => .eq
  | none, some _ => .lt
  | some _, none => .gt
  | some a, some b => cmp a b

def compareList {α : Type} (cmp : α → α → Ordering) : List α → List α → Ordering
  | [], [] => .eq
  | [], _ :: _ => .lt
  | _ :: _, [] => .gt
  | a :: as, b :: bs => (cmp a b).then (compareList cmp as bs)

def order (a b : Directive) : Ordering :=
  ((compareOption compare (a.target.map String.utf8ByteSize) (b.target.map String.utf8ByteSize)).then
    ((compare a.span.isSome b.span.isSome).then
    ((compare a.fields.length b.fields.length).then
    ((compareOption compare a.target b.target).then
    ((compareOption compare a.span b.span).then
    (compareList FieldMatch.order a.fields b.fields)))))).swap

def insert (d : Directive) : List Directive → List Directive
  | [] => [d]
  | e :: rest =>
    match order e d with
    | .lt => e :: insert d rest
    | .eq => d :: rest
    | .gt => d :: e :: rest

def render (d : Directive) : String :=
  let fieldText := match d.fields with
    | [] => ""
    | fs => "\x7b" ++ ",".intercalate (fs.map FieldMatch.render) ++ "\x7d"
  let scope := if d.span.isSome || !d.fields.isEmpty then
      "[" ++ d.span.getD "" ++ fieldText ++ "]"
    else ""
  let before := d.target.getD "" ++ scope
  if d.target.isSome || !scope.isEmpty then before ++ "=" ++ d.level.name else d.level.name

def isLeadChar (c : Char) : Bool := Text.isAlphanumeric c || c == '-' || c == ':' || c == '_'

/-- Where the reader of a directive stands; each place keeps the text read there, last
character first. -/
inductive Place where
  | start
  | word (acc : List Char)
  | span (acc : List Char)
  | field (acc : List Char)
  | fieldDone
  | scopeDone
  | level (acc : List Char)
  deriving Repr, BEq, Inhabited

def kept (acc : List Char) : String := String.ofList acc.reverse

def readFrom (target span : Option String) (fields : List FieldMatch) :
    Place → List Char → Option Directive
  | .start, [] => none
  | .start, c :: rest =>
    if c == '[' then readFrom target span fields (.span []) rest
    else if isLeadChar c then readFrom target span fields (.word [c]) rest
    else none
  | .word acc, [] =>
    match LevelFilter.parse (kept acc) with
    | some level => some { level }
    | none => some { target := some (kept acc), level := .trace }
  | .word acc, c :: rest =>
    if c == '=' then readFrom (some (kept acc)) span fields (.level []) rest
    else if c == '[' then readFrom (some (kept acc)) span fields (.span []) rest
    else readFrom target span fields (.word (c :: acc)) rest
  | .span _, [] => none
  | .span acc, c :: rest =>
    if c == ']' then readFrom target (some (kept acc)) fields .scopeDone rest
    else if c == '\x7b' then
      readFrom target (if acc.isEmpty then none else some (kept acc)) fields (.field []) rest
    else readFrom target span fields (.span (c :: acc)) rest
  | .field _, [] => none
  | .field acc, c :: rest =>
    if c == '\x7d' then
      if acc.isEmpty then none
      else match FieldMatch.parse (kept acc) with
        | some f => readFrom target span (fields ++ [f]) .fieldDone rest
        | none => none
    else readFrom target span fields (.field (c :: acc)) rest
  | .fieldDone, ']' :: rest => readFrom target span fields .scopeDone rest
  | .fieldDone, _ => none
  | .scopeDone, [] => some { target, span, fields, level := .trace }
  | .scopeDone, c :: rest =>
    if c == '=' then readFrom target span fields (.level []) rest else none
  | .level acc, [] =>
    if acc.isEmpty then some { target, span, fields, level := .trace }
    else (LevelFilter.parse (kept acc)).map fun level => { target, span, fields, level }
  | .level acc, c :: rest =>
    if c == '=' then none else readFrom target span fields (.level (c :: acc)) rest

def parse (s : String) : Option Directive := readFrom none none [] .start s.toList

end Directive

/-- A log filter: its static and dynamic directive sets, each ordered by specificity. -/
structure LogFilter where
  plain : List Directive := []
  spanned : List Directive := []
  deriving Repr, Inhabited

namespace LogFilter

def add (f : LogFilter) (d : Directive) : LogFilter :=
  let f := if d.isDynamic then { f with spanned := d.insert f.spanned } else f
  if d.isStatic then { f with plain := d.insert f.plain } else f

def parse (s : String) : Option LogFilter := do
  let ds ← ((s.splitOn ",").filter (· != "")).mapM Directive.parse
  pure (ds.foldl add {})

def ofLevel (level : LevelFilter) : LogFilter := add {} { level }

def render (f : LogFilter) : String :=
  ",".intercalate ((f.plain ++ f.spanned).map Directive.render)

end LogFilter

end KvStore
