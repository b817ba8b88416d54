import KvStore.Error

namespace KvStore

def stripPrefix? (pfx s : String) : Option String :=
  if pfx.toList.isPrefixOf s.toList then some (String.ofList (s.toList.drop pfx.length)) else none

inductive DatabaseLocation where
  | memory
  | file (path : String)
  deriving Repr, BEq, DecidableEq, Inhabited

namespace DatabaseLocation

def ofUri (uri : String) : Outcome DatabaseLocation :=
  match (stripPrefix? "sqlite://" uri).orElse fun _ => stripPrefix? "sqlite:" uri with
  | none => .error (.invalidInput "expected a sqlite: URI")
  | some "" => .error (.invalidInput "sqlite URI has no path")
  | some ":memory:" => .ok .memory
  | some path => .ok (.file path)

end DatabaseLocation

def bucketRootOfUri (uri : String) : Outcome String :=
  match (stripPrefix? "file://" uri).orElse fun _ => stripPrefix? "file:" uri with
  | none => .error (.invalidInput "expected a file:// URI")
  | some "" => .error (.invalidInput "file URI has no path")
  | some path => .ok path

/-- The key of an entry in a collection store: the namespace's byte length, the
namespace and the key, separated by `:`. -/
def collectionEntryId (ns key : String) : String :=
  toString ns.utf8ByteSize ++ ":" ++ ns ++ ":" ++ key

end KvStore
