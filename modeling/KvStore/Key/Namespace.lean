namespace KvStore

structure Namespace where
  name : String
  deriving Repr, BEq, DecidableEq, Inhabited

namespace Namespace

def ofOption : Option String → Namespace
  | some n => ⟨n⟩
  | none => ⟨""⟩

def isDefault (ns : Namespace) : Bool := ns.name.isEmpty

def keyPrefix (ns : Namespace) : String :=
  if ns.name.isEmpty then "" else ns.name ++ ":"

def strip (ns : Namespace) (key : String) : String :=
  let p := ns.keyPrefix.toList
  if p.isEmpty then key
  else if p.isPrefixOf key.toList then String.ofList (key.toList.drop p.length)
  else key

def attach (ns : Namespace) (key : String) : String := ns.keyPrefix ++ key

end Namespace

end KvStore
