import KvStore.Toml.Syntax
import KvStore.Toml.Table

namespace KvStore

namespace Toml

/-- The header that opened the current table: its key, whether it is `[[...]]`, and
the bytes it covers. -/
structure Header where
  path : List Key
  many : Bool
  span : Span
  deriving Repr, Inhabited

/-- A document being read: its top-level table, the table being filled, and the
header that opened it (none for the pairs before the first header). -/
structure DocumentState where
  root : Table := {}
  current : Table := {}
  header : Option Header := none
  deriving Repr, Inhabited

def decodeKey (b : ByteArray) (parts : List KeyPart) : Except Failure (List Key) :=
  parts.mapM fun k => do pure ⟨← keyText b k, ⟨k.start, k.stop⟩⟩

def assignPair (t : Table) (keys : List Key) (v : Node) : Except Failure Table :=
  match keys.reverse with
  | [] => .ok t
  | key :: path => t.assign path.reverse key v

mutual

def decodeValue (b : ByteArray) : Syn → Except Failure Node
  | .scalar start stop q => do pure (.scalar (← scalarValue b start stop q) ⟨start, stop⟩)
  | .array items start stop => do pure (.array (← decodeItems b items) false ⟨start, stop⟩)
  | .inline pairs start stop => do
    let t ← decodePairs b pairs {}
    pure (.table t.entries { t.kind with inline := true } ⟨start, stop⟩)

def decodeItems (b : ByteArray) : List Syn → Except Failure (List Node)
  | [] => .ok []
  | v :: rest => do
    let n ← decodeValue b v
    pure (n :: (← decodeItems b rest))

def decodePairs (b : ByteArray) : List (List KeyPart × Syn) → Table → Except Failure Table
  | [], t => .ok t
  | (k, v) :: rest, t => do
    let keys ← decodeKey b k
    let n ← decodeValue b v
    decodePairs b rest (← assignPair t keys n)

end

namespace DocumentState

def finish (st : DocumentState) : Except Failure DocumentState :=
  match st.header with
  | none => .ok { st with root := st.current, current := {} }
  | some h =>
    match h.path.reverse with
    | [] => .ok { st with current := {}, header := none }
    | key :: parents => do
      let node := Node.table st.current.entries st.current.kind h.span
      let (root, ()) ← st.root.update false (fun parent =>
        if h.many then
          match parent.entries.lookup key.name with
          | none => .ok (parent.set key.name (.array [node] true h.span), ())
          | some (.array items true sp) => .ok (parent.set key.name (.array (items ++ [node]) true sp), ())
          | some _ => .error (Table.duplicate key)
        else .ok (parent.set key.name node, ())) parents.reverse
      pure { root, current := {}, header := none }

/-- Opens the table a header names. A `[key]` header takes over an implicit table
left by deeper headers, and fails on any other value already there. -/
def start (st : DocumentState) (h : Header) : Except Failure DocumentState := do
  let current ← if h.many then pure {} else
    match h.path.reverse with
    | [] => pure {}
    | key :: parents => do
      let (_, t) ← st.root.update false (fun parent =>
        match parent.entries.lookup key.name with
        | none => .ok (parent, ({} : Table))
        | some (.table es kind _) =>
          if kind.implicit && !kind.dotted then .ok (parent, { entries := es, kind })
          else .error (Table.duplicate key)
        | some _ => .error (Table.duplicate key)) parents.reverse
      pure t
  pure { st with current := { current with kind := { current.kind with implicit := false, dotted := false } },
                 header := some h }

end DocumentState

def readDocument (b : ByteArray) : List Line → DocumentState → Except Failure DocumentState
  | [], st => st.finish
  | .pair k v :: rest, st => do
    let keys ← decodeKey b k
    let n ← decodeValue b v
    readDocument b rest { st with current := ← assignPair st.current keys n }
  | .table k start stop :: rest, st => do
    let st ← st.finish
    let keys ← decodeKey b k
    readDocument b rest (← st.start ⟨keys, false, ⟨start, stop⟩⟩)
  | .tables k start stop :: rest, st => do
    let st ← st.finish
    let keys ← decodeKey b k
    readDocument b rest (← st.start ⟨keys, true, ⟨start, stop⟩⟩)

def parse (source : String) : Except Failure (List (String × Value)) := do
  let b := source.toUTF8
  let lines ← readLines b
  let st ← readDocument b lines {}
  pure (st.root.entries.map fun (k, n) => (k, n.toValue))

end Toml

end KvStore
