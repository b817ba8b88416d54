import KvStore.Toml.Scalar

namespace KvStore

namespace Toml

structure TableKind where
  implicit : Bool := false
  dotted : Bool := false
  inline : Bool := false
  deriving Repr, BEq, Inhabited

/-- A value while its document is being read: scalars, arrays (with whether they were
made by `[[...]]` headers) and tables (with how they came to be). -/
inductive Node where
  | scalar (v : Scalar) (span : Span)
  | array (items : List Node) (ofTables : Bool) (span : Span)
  | table (entries : List (String × Node)) (kind : TableKind) (span : Span)
  deriving Repr, Inhabited

/-- A key part read: its text and the bytes it covers. -/
structure Key where
  name : String
  span : Span
  deriving Repr, Inhabited

namespace Node

def typeName : Node → String
  | .scalar (.str _) _ => "string"
  | .scalar (.int _) _ => "integer"
  | .scalar (.float _) _ => "float"
  | .scalar (.bool _) _ => "boolean"
  | .scalar (.datetime _) _ => "datetime"
  | .array _ _ _ => "array"
  | .table _ k _ => if k.inline then "inline table" else "table"

mutual

def toValue : Node → Value
  | .scalar (.str s) sp => .str s sp
  | .scalar (.int i) sp => .int i sp
  | .scalar (.float x) sp => .float x sp
  | .scalar (.bool b) sp => .bool b sp
  | .scalar (.datetime t) sp => .datetime t sp
  | .array items _ sp => .arr (itemValues items) sp
  | .table es _ sp => .table (entryValues es) sp

def itemValues : List Node → List Value
  | [] => []
  | n :: rest => toValue n :: itemValues rest

def entryValues : List (String × Node) → List (String × Value)
  | [] => []
  | (k, n) :: rest => (k, toValue n) :: entryValues rest

end

end Node

def setEntry (es : List (String × Node)) (k : String) (v : Node) : List (String × Node) :=
  match es with
  | [] => [(k, v)]
  | (k', v') :: rest =>
    if k == k' then (k, v) :: rest
    else if k < k' then (k, v) :: (k', v') :: rest
    else (k', v') :: setEntry rest k v

/-- A table being filled: its entries and how it came to be. -/
structure Table where
  entries : List (String × Node) := []
  kind : TableKind := {}
  deriving Repr, Inhabited

namespace Table

def set (t : Table) (k : String) (v : Node) : Table := { t with entries := setEntry t.entries k v }

def duplicate (k : Key) : Failure := { message := "duplicate key", span := k.span }

/-- Runs `f` on the table at `path` below `t` and puts the result back. Missing keys
get implicit tables (dotted ones when `dotted`, spanning their key); the last table of
an array of tables is stepped into. A key holding any other value, or an inline table,
cannot be stepped through, and a dotted key cannot step into a table a header made. -/
def update {α : Type} (dotted : Bool) (f : Table → Except Failure (Table × α)) :
    List Key → Table → Except Failure (Table × α)
  | [], t => f t
  | k :: rest, t =>
    let cannot (what : String) : Failure :=
      { message := "cannot extend value of type " ++ what ++ " with a dotted key", span := k.span }
    match t.entries.lookup k.name with
    | none => do
      let (child, a) ← update dotted f rest { kind := { implicit := true, dotted } }
      pure (t.set k.name (.table child.entries child.kind k.span), a)
    | some (.table es kind sp) =>
      if kind.inline then .error (cannot "inline table")
      else if dotted && !kind.implicit then .error (duplicate k)
      else do
        let (child, a) ← update dotted f rest { entries := es, kind }
        pure (t.set k.name (.table child.entries child.kind sp), a)
    | some (.array items true sp) =>
      match items.getLast? with
      | some (.table es kind itemSpan) => do
        let (child, a) ← update dotted f rest { entries := es, kind }
        let items := items.dropLast ++ [.table child.entries child.kind itemSpan]
        pure (t.set k.name (.array items true sp), a)
      | some other => .error (cannot other.typeName)
      | none => .error (cannot "array")
    | some other => .error (cannot other.typeName)

/-- Sets `path.key = v` in `t`: the table the path leads to must be dotted exactly
when the path is not empty, and must not hold the key yet. -/
def assign (t : Table) (path : List Key) (key : Key) (v : Node) : Except Failure Table := do
  let (t, ()) ← t.update (!path.isEmpty) (fun parent =>
    if parent.kind.dotted == path.isEmpty then .error (duplicate key)
    else match parent.entries.lookup key.name with
      | some _ => .error (duplicate key)
      | none => .ok (parent.set key.name v, ())) path
  pure t

end Table

end Toml

end KvStore
