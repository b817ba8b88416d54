namespace KvStore

structure Page where
  entries : List (String × String)
  fetched : Nat
  lastKey : Option String
  deriving Repr, BEq, Inhabited

def Page.ofEntries (entries : List (String × String)) : Page :=
  { entries, fetched := entries.length, lastKey := (entries.getLast?).map (·.1) }

end KvStore
