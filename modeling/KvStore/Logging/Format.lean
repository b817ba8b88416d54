import KvStore.Text.Blank

namespace KvStore

inductive LogFormat where
  | pretty
  | json
  deriving Repr, BEq, DecidableEq, Inhabited

namespace LogFormat

def parse (value : String) : LogFormat :=
  if Text.asciiLower (Text.trim value) == "json" then .json else .pretty

def name : LogFormat → String
  | .pretty => "Pretty"
  | .json => "Json"

end LogFormat

end KvStore
