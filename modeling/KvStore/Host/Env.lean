import KvStore.Text.Blank

namespace KvStore

structure EnvVars where
  vars : List (String × String) := []
  deriving Repr, Inhabited

namespace EnvVars

def get? (e : EnvVars) (name : String) : Option String :=
  (e.vars.find? (·.1 == name)).map (·.2)

def unset (e : EnvVars) (name : String) : EnvVars :=
  ⟨e.vars.filter (·.1 != name)⟩

def set (e : EnvVars) (name value : String) : EnvVars :=
  ⟨(e.unset name).vars ++ [(name, value)]⟩

def nonBlank? (e : EnvVars) (name : String) : Option String :=
  (e.get? name).filter (fun v => !Text.isBlankText v)

end EnvVars

end KvStore
