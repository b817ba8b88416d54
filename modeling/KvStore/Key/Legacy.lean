namespace KvStore

def splitFirst (sep : Char) : List Char → Option (List Char × List Char)
  | [] => none
  | c :: rest =>
    if c = sep then some ([], rest)
    else (splitFirst sep rest).map fun (a, b) => (c :: a, b)

def splitLegacyKey (key : String) : Option (String × String) :=
  match splitFirst ':' key.toList with
  | some (ns, rest) => if ns.isEmpty then none else some (String.ofList ns, String.ofList rest)
  | none => none

/-- The move of one legacy key's prefix into a namespace of its own. -/
structure KeyMove where
  legacyKey : String
  namespaceName : String
  key : String
  deriving Repr, BEq, Inhabited

namespace KeyMove

def ofLegacy? (legacy : String) : Option KeyMove :=
  (splitLegacyKey legacy).map fun (ns, key) => ⟨legacy, ns, key⟩

def display (r : KeyMove) : String :=
  r.legacyKey ++ " -> namespace=" ++ r.namespaceName ++ " key=" ++ r.key

end KeyMove

end KvStore
