import KvStore.Backend.Uri

namespace KvStore

namespace Collection

def docKey (collection ns key : String) : String :=
  collection ++ ":doc:" ++ collectionEntryId ns key

def indexKey (collection ns : String) : String :=
  collection ++ ":keys:" ++ toString ns.utf8ByteSize ++ ":" ++ ns

end Collection

end KvStore
