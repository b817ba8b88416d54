import KvStore.Logging.Format
import KvStore.Logging.Filter
import KvStore.Host.Env
import KvStore.Host.Files
import KvStore.Error

namespace KvStore

structure LoggingConfig where
  format : LogFormat := .pretty
  filter : LogFilter
  file : Option String := none
  deriving Repr, Inhabited

namespace LoggingConfig

def envValue (env : EnvVars) (name : String) : Option String :=
  ((env.get? name).map Text.trim).filter (· != "")

/-- Settings from `KVBRIDGE_LOG` (else `RUST_LOG`), `KVBRIDGE_LOG_FORMAT` and
`KVBRIDGE_LOG_FILE`. Without a filter, or with one that does not read, the level is
`debug` when verbose and `info` otherwise. -/
def fromEnv (env : EnvVars) (verbose : Bool) : LoggingConfig :=
  let fallback : LevelFilter := if verbose then .debug else .info
  let text := ((envValue env "KVBRIDGE_LOG").orElse fun _ => envValue env "RUST_LOG").getD fallback.name
  { format := ((envValue env "KVBRIDGE_LOG_FORMAT").map LogFormat.parse).getD .pretty
    filter := (LogFilter.parse text).getD (LogFilter.ofLevel fallback)
    file := envValue env "KVBRIDGE_LOG_FILE" }

def openLogFile (files : FileTree) (cwd : Path) (path : String) (now : Nat) : Outcome FileTree := do
  let files ← match PathText.parent? path with
    | some parent =>
      if parent.isEmpty then pure files
      else match files.createDirAll (PathText.resolve cwd parent) with
        | .ok t => pure t
        | .error e => throw (.operationFailed "create_log_dir" e.message)
    | none => pure files
  match files.openAppend (PathText.resolve cwd path) now with
  | .ok t => pure t
  | .error e => throw (.operationFailed "open_log_file" (path ++ ": " ++ e.message))

/-- Installs logging as the process-wide subscriber: the log file is opened first,
and installing fails when a subscriber is already in place. -/
def install (c : LoggingConfig) (files : FileTree) (cwd : Path) (now : Nat)
    (alreadyInstalled : Bool) : FileTree × Outcome Unit :=
  let opened := match c.file with
    | some path => openLogFile files cwd path now
    | none => .ok files
  match opened with
  | .error e => (files, .error e)
  | .ok files =>
    if alreadyInstalled then
      (files, .error (.operationFailed "observability_init"
        "a global default trace dispatcher has already been set"))
    else (files, .ok ())

end LoggingConfig

end KvStore
