import KvStore.Json.Decode
import KvStore.Json.Write

namespace KvStore

namespace Bucket

structure ObjectMetadata where
  expiresAt : Option Int
  lastAccessed : Int
  namespaceName : String
  deriving Repr, BEq, Inhabited

structure StoredObject where
  key : String
  value : String
  metadata : ObjectMetadata
  deriving Repr, BEq, Inhabited

def quoteJson (s : String) : String := (Json.str s).render

def StoredObject.encode (o : StoredObject) : String :=
  let expires := match o.metadata.expiresAt with
    | some e => toString e
    | none => "null"
  "\x7b\"key\":" ++ quoteJson o.key ++ ",\"value\":" ++ quoteJson o.value ++
    ",\"metadata\":\x7b\"expiresAt\":" ++ expires ++ ",\"lastAccessed\":" ++ toString o.metadata.lastAccessed ++
    ",\"namespace\":" ++ quoteJson o.metadata.namespaceName ++ "\x7d\x7d"

open Json in
def metadataReader : Reader ObjectMetadata :=
  readRecord "ObjectMetadata" ["expiresAt", "lastAccessed", "namespace"]
    ((none, none, none) : Option (Option Int) × Option Int × Option String)
    (fun k (e, l, n) => match k with
      | "expiresAt" => do pure (some (← readOptionalI64), l, n)
      | "lastAccessed" => do pure (e, some (← readI64), n)
      | _ => do pure (e, l, some (← readString)))
    (fun (e, l, n) => match l, n with
      | some l, some n => .ok { expiresAt := e.getD none, lastAccessed := l, namespaceName := n }
      | none, _ => .error (missingField "lastAccessed")
      | _, none => .error (missingField "namespace"))
    (do
      let expected := "struct ObjectMetadata with 3 elements"
      let more ← hasElement true
      let expiresAt ← if more then readOptionalI64 else pure none
      if !(← hasElement !more) then return .error (invalidLength 1 expected)
      let lastAccessed ← readI64
      if !(← hasElement false) then return .error (invalidLength 2 expected)
      let namespaceName ← readString
      pure (.ok { expiresAt, lastAccessed, namespaceName }))

open Json in
def objectReader : Reader StoredObject :=
  readRecord "StoredObject" ["key", "value", "metadata"]
    ((none, none, none) : Option String × Option String × Option ObjectMetadata)
    (fun k (key, v, m) => match k with
      | "key" => do pure (some (← readString), v, m)
      | "value" => do pure (key, some (← readString), m)
      | _ => do pure (key, v, some (← metadataReader)))
    (fun (key, v, m) => match key, v, m with
      | some key, some value, some metadata => .ok { key, value, metadata }
      | none, _, _ => .error (missingField "key")
      | _, none, _ => .error (missingField "value")
      | _, _, none => .error (missingField "metadata"))
    (do
      let expected := "struct StoredObject with 3 elements"
      if !(← hasElement true) then return .error (invalidLength 0 expected)
      let key ← readString
      if !(← hasElement false) then return .error (invalidLength 1 expected)
      let value ← readString
      if !(← hasElement false) then return .error (invalidLength 2 expected)
      let metadata ← metadataReader
      pure (.ok { key, value, metadata }))

def StoredObject.decode (content : String) : Except Json.ReadError StoredObject :=
  Json.decodeBytes objectReader content.toUTF8

end Bucket

end KvStore
