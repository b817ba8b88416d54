import KvStore.Config.Load
import KvStore.Cli.Reap

/-!
# Where the sweep command's configuration comes from

The sweep command reads one configuration file, if any: the `--config` path, else a
non-blank `KVBRIDGE_CONFIG_PATH`, else the default path when a file is there
(`configSource`). The file must read, parse and name a URI. Over it the environment
overrides the URI, namespace and table, each only when not blank, and the flags override
those; the background sweep is always off. Without a file the environment is not read:
the flags and the defaults make the configuration, and a missing URI is an error
(`reap_config_follows_precedence`).
-/

namespace KvStore

/-- The configuration file the sweep command reads: the `--config` path, else a non-blank
`KVBRIDGE_CONFIG_PATH`, else the default path when a file is there. -/
def configSource (env : EnvVars) (files : FileTree) (cwd : Path) : Option String → Option String
  | some path => some path
  | none =>
    match env.nonBlank? "KVBRIDGE_CONFIG_PATH" with
    | some path => some path
    | none => (defaultConfigPath env).filter fun path => files.exists_ (PathText.resolve cwd path)

namespace ConfigFile

def read (files : FileTree) (cwd : Path) (path : String) : Outcome ConfigFile :=
  match StoreConfig.readText files cwd path with
  | .error e => .error (.operationFailed "read_config_file" (path ++ ": " ++ e))
  | .ok source =>
    match parse source with
    | .error e => .error (.operationFailed "parse_config_file" e)
    | .ok f => .ok f

end ConfigFile

namespace StoreConfig

variable {env : EnvVars} {files : FileTree} {cwd : Path}

theorem loadFromFile_eq_read (path : String) :
    loadFromFile files cwd path = (ConfigFile.read files cwd path).bind ConfigFile.toConfig := by
  unfold loadFromFile ConfigFile.read
  cases readText files cwd path with
  | error e => rfl
  | ok source =>
    dsimp only
    cases ConfigFile.parse source <;> rfl

theorem load_eq_source (path : Option String) :
    load env files cwd path =
      match configSource env files cwd path with
      | none => .ok none
      | some p => (loadFromFile files cwd p).map fun c => some (c.withEnvOverrides env) := by
  have hmap : ∀ x : Outcome StoreConfig,
      (do let c ← x.map some; pure (c.map (·.withEnvOverrides env)) : Outcome (Option StoreConfig)) =
        x.map fun c => some (c.withEnvOverrides env) := by
    intro x
    cases x <;> rfl
  cases path with
  | some p => exact hmap _
  | none =>
    simp only [load, loadDefault, configSource]
    cases env.nonBlank? "KVBRIDGE_CONFIG_PATH" with
    | some p => exact hmap _
    | none =>
      cases defaultConfigPath env with
      | none => rfl
      | some p =>
        by_cases h : files.exists_ (PathText.resolve cwd p)
        · simp [h, hmap, Option.filter_some]
        · simp only [h, Option.filter_some, Bool.false_eq_true, if_false]
          rfl

theorem withEnvOverrides_eq (c : StoreConfig) (env : EnvVars) :
    c.withEnvOverrides env =
      { c with uri := (env.nonBlank? "KVBRIDGE_URI").getD c.uri
               table := (env.nonBlank? "KVBRIDGE_TABLE").getD c.table
               namespaceName := env.nonBlank? "KVBRIDGE_NAMESPACE" <|> c.namespaceName } := by
  unfold withEnvOverrides
  cases env.nonBlank? "KVBRIDGE_URI" <;> cases env.nonBlank? "KVBRIDGE_NAMESPACE" <;>
    cases env.nonBlank? "KVBRIDGE_TABLE" <;> rfl

end StoreConfig

namespace ConfigFile

/-- A file that names a URI sets each setting it has over the defaults, and runs no
background sweep when it asks for none or for a zero interval. -/
theorem toConfig_of_uri {f : ConfigFile} {u : String} (h : f.uri = some u) :
    f.toConfig = .ok { StoreConfig.ofUri u with
      table := f.table.getD "keyv", schema := f.schema, namespaceName := f.namespaceName,
      keyLength := f.keyLength.getD 255, namespaceLength := f.namespaceLength.getD 255,
      iterationLimit := f.iterationLimit.getD 10,
      clearExpiredInterval := (f.clearExpiredIntervalSecs.filter (· > 0)).map (· * 1000),
      unlogged := f.unlogged.getD false, pool := f.pool.getD {} } := by
  simp [toConfig, h, StoreConfig.ofUri]

end ConfigFile

namespace ReapArgs

variable {a : ReapArgs}

theorem storeConfig_some (b : StoreConfig) :
    a.storeConfig (some b) =
      .ok { b with uri := a.uri.getD b.uri, table := a.table.getD b.table,
                   namespaceName := a.namespaceName <|> b.namespaceName, clearExpiredInterval := none } := by
  rcases a with ⟨uri, table, ns, watch, addr⟩
  cases uri <;> cases table <;> cases ns <;> rfl

theorem storeConfig_none_of_uri {u : String} (h : a.uri = some u) :
    a.storeConfig none =
      .ok { StoreConfig.ofUri u with table := a.table.getD "keyv", namespaceName := a.namespaceName } := by
  rcases a with ⟨uri, table, ns, watch, addr⟩
  cases h
  cases table <;> cases ns <;> rfl

theorem storeConfig_none_of_no_uri (h : a.uri = none) :
    a.storeConfig none =
      .error (.invalidInput "no connection URI: pass --uri, set KVBRIDGE_URI or use a config file") := by
  rcases a with ⟨uri, table, ns, watch, addr⟩
  cases h
  rfl

/-- What the sweep command's configuration takes from each source: the flags `a`, the
environment overrides `env?` and the settings `f` of the file. Each of URI, table and
namespace comes from the first source that gives it; every other setting is the file's, or
its default; the background sweep is off. -/
structure Resolves (a : ReapArgs) (env? : String → Option String) (f : ConfigFile) (c : StoreConfig) :
    Prop where
  uri : some c.uri = (a.uri <|> env? "KVBRIDGE_URI" <|> f.uri)
  table : c.table = (a.table <|> env? "KVBRIDGE_TABLE" <|> f.table).getD "keyv"
  namespaceName : c.namespaceName = (a.namespaceName <|> env? "KVBRIDGE_NAMESPACE" <|> f.namespaceName)
  schema : c.schema = f.schema
  keyLength : c.keyLength = f.keyLength.getD 255
  namespaceLength : c.namespaceLength = f.namespaceLength.getD 255
  iterationLimit : c.iterationLimit = f.iterationLimit.getD 10
  unlogged : c.unlogged = f.unlogged.getD false
  pool : c.pool = f.pool.getD {}
  noSweep : c.clearExpiredInterval = none

theorem Resolves.unique {env? : String → Option String} {f : ConfigFile} {c c' : StoreConfig}
    (h : a.Resolves env? f c) (h' : a.Resolves env? f c') : c = c' := by
  have huri : c.uri = c'.uri := Option.some.inj (h.uri.trans h'.uri.symm)
  cases c
  cases c'
  cases h
  cases h'
  simp_all

theorem resolves_of_flags {u : String} (h : a.uri = some u) :
    a.Resolves (fun _ => none) {}
      { StoreConfig.ofUri u with table := a.table.getD "keyv", namespaceName := a.namespaceName } where
  uri := by simp [h, StoreConfig.ofUri]
  table := by cases a.table <;> rfl
  namespaceName := by cases a.namespaceName <;> rfl
  schema := rfl
  keyLength := rfl
  namespaceLength := rfl
  iterationLimit := rfl
  unlogged := rfl
  pool := rfl
  noSweep := rfl

theorem resolves_of_file {env : EnvVars} {f : ConfigFile} {u : String} (h : f.uri = some u) :
    ∃ c, (f.toConfig.map fun c => some (c.withEnvOverrides env)).bind a.storeConfig = .ok c ∧
      a.Resolves env.nonBlank? f c := by
  rw [ConfigFile.toConfig_of_uri h]
  refine ⟨_, storeConfig_some _, ?_⟩
  constructor <;> simp [StoreConfig.withEnvOverrides_eq, h, StoreConfig.ofUri]

end ReapArgs

/-- The sweep command's configuration, from the file `configSource` picks, the environment and
the flags. A file that cannot be read or parsed, or that names no URI, is an error whatever
the flags say. Without a file the environment is not read: the flags alone must give the URI. -/
theorem reap_config_follows_precedence (a : ReapArgs) (env : EnvVars) (files : FileTree)
    (cwd : Path) (path : Option String) :
    let result := (StoreConfig.load env files cwd path).bind a.storeConfig
    match configSource env files cwd path with
    | some p =>
      match ConfigFile.read files cwd p with
      | .error e => result = .error e
      | .ok f =>
        match f.uri with
        | none => result = .error (.invalidInput "config file has no 'uri'")
        | some _ => ∃ c, result = .ok c ∧ a.Resolves env.nonBlank? f c
    | none =>
      match a.uri with
      | none =>
        result = .error (.invalidInput "no connection URI: pass --uri, set KVBRIDGE_URI or use a config file")
      | some _ => ∃ c, result = .ok c ∧ a.Resolves (fun _ => none) {} c := by
  dsimp only
  rw [StoreConfig.load_eq_source]
  cases configSource env files cwd path with
  | none =>
    dsimp only
    cases hu : a.uri with
    | none => exact ReapArgs.storeConfig_none_of_no_uri hu
    | some u => exact ⟨_, ReapArgs.storeConfig_none_of_uri hu, ReapArgs.resolves_of_flags hu⟩
  | some p =>
    dsimp only
    rw [StoreConfig.loadFromFile_eq_read]
    cases ConfigFile.read files cwd p with
    | error e => rfl
    | ok f =>
      dsimp only
      cases hf : f.uri with
      | none => simp only [Except.bind, ConfigFile.toConfig, hf]; rfl
      | some u => exact ReapArgs.resolves_of_file hf

/-- Without a configuration file a non-blank KVBRIDGE_TABLE is not read: the table stays
the default. -/
theorem table_variable_unread_without_config_file :
    ((StoreConfig.load ⟨[("KVBRIDGE_TABLE", "t")]⟩ FileTree.empty [] none).bind
        ({ uri := some "sqlite://kv.db" } : ReapArgs).storeConfig).map (·.table) = .ok "keyv" := rfl

/-- A configuration file that names no URI is an error even when the `--uri` flag and
KVBRIDGE_URI both give one. -/
theorem file_without_uri_refused_despite_uri_flag :
    (StoreConfig.load ⟨[("KVBRIDGE_URI", "sqlite://b.db")]⟩
        ⟨[([], .dir), (["w"], .dir), (["w", "c.toml"], .file (.text "") 0)]⟩ ["w"] (some "c.toml")).bind
        ({ uri := some "sqlite://kv.db" } : ReapArgs).storeConfig =
      .error (.invalidInput "config file has no 'uri'") := by
  have path : PathText.resolve ["w"] "c.toml" = ["w", "c.toml"] := by decide +kernel
  have read : ConfigFile.read ⟨[([], .dir), (["w"], .dir), (["w", "c.toml"], .file (.text "") 0)]⟩ ["w"] "c.toml" =
      .ok {} := by
    simp only [ConfigFile.read, StoreConfig.readText, path]
    rfl
  rw [StoreConfig.load_eq_source]
  dsimp only [configSource]
  rw [StoreConfig.loadFromFile_eq_read, read]
  rfl

end KvStore
