import KvStore.Config.File
import KvStore.Host.Env
import KvStore.Host.Files

namespace KvStore

def configDir (env : EnvVars) : Option String :=
  match env.get? "XDG_CONFIG_HOME" with
  | some d => if PathText.isAbsolute d then some d else home
  | none => home
where
  home : Option String := (env.get? "HOME").filter (· != "") |>.map (PathText.join · ".config")

def defaultConfigPath (env : EnvVars) : Option String :=
  (configDir env).map fun d => PathText.join (PathText.join d "kvbridge") "config.toml"

namespace StoreConfig

def readText (files : FileTree) (cwd : Path) (path : String) : Except String String :=
  match files.readFile (PathText.resolve cwd path) with
  | .ok (.text s) => .ok s
  | .ok (.database _) => .error "stream did not contain valid UTF-8"
  | .error e => .error e.message

def loadFromFile (files : FileTree) (cwd : Path) (path : String) : Outcome StoreConfig :=
  match readText files cwd path with
  | .error e => .error (.operationFailed "read_config_file" (path ++ ": " ++ e))
  | .ok source =>
    match ConfigFile.parse source with
    | .error e => .error (.operationFailed "parse_config_file" e)
    | .ok f => f.toConfig

def loadDefault (env : EnvVars) (files : FileTree) (cwd : Path) : Outcome (Option StoreConfig) :=
  match env.nonBlank? "KVBRIDGE_CONFIG_PATH" with
  | some path => (loadFromFile files cwd path).map some
  | none =>
    match defaultConfigPath env with
    | none => .ok none
    | some path =>
      if files.exists_ (PathText.resolve cwd path) then (loadFromFile files cwd path).map some
      else .ok none

def withEnvOverrides (c : StoreConfig) (env : EnvVars) : StoreConfig :=
  let c := match env.nonBlank? "KVBRIDGE_URI" with | some u => { c with uri := u } | none => c
  let c := match env.nonBlank? "KVBRIDGE_NAMESPACE" with
    | some n => { c with namespaceName := some n } | none => c
  match env.nonBlank? "KVBRIDGE_TABLE" with | some t => { c with table := t } | none => c

def load (env : EnvVars) (files : FileTree) (cwd : Path) (path : Option String) :
    Outcome (Option StoreConfig) := do
  let c ← match path with
    | some p => (loadFromFile files cwd p).map some
    | none => loadDefault env files cwd
  pure (c.map (·.withEnvOverrides env))

end StoreConfig

end KvStore
