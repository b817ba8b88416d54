import KvStore.Cli.Spec

namespace KvStore

namespace Cli

/-- A program: its top command and the commands below it. -/
structure Program where
  top : CommandSpec
  commands : List CommandSpec
  deriving Repr, Inhabited

def Program.find (p : Program) (name : String) : Option CommandSpec :=
  p.commands.find? (·.name == name)

def programName : String := "kvbridge"

def programVersion : String := "0.6.0"

def uriVariable : String := "KVBRIDGE_URI"

def verboseArg : ArgSpec :=
  { id := "verbose", short := some 'v', long := some "verbose", action := .setTrue
    help := "Enable verbose output", order := 0, global := true }

def configArg : ArgSpec :=
  { id := "config", short := some 'c', long := some "config", valueName := "CONFIG"
    help := "Path to configuration file", order := 1, global := true }

def topCommand : CommandSpec :=
  { name := programName, usageName := programName
    about := "Namespaced, TTL-aware key-value store adapters over PostgreSQL, SQLite, Redis and object buckets"
    args := [verboseArg, configArg]
    subcommands := [("migrate", "Migrate legacy prefixed keys into the namespace column"),
      ("reap", "Remove expired entries"),
      ("help", "Print this message or the help of the given subcommand(s)")]
    subcommandRequired := true, argRequiredElseHelp := true, version := some programVersion }

def migrateCommand : CommandSpec :=
  { name := "migrate", usageName := programName ++ " migrate"
    about := "Migrate legacy prefixed keys into the namespace column"
    args := [
      { id := "backend", index := some 1, valueName := "BACKEND", required := true
        help := "Backend to migrate"
        kind := .choice [{ name := "postgres", help := "PostgreSQL (requires the `postgres` feature)" },
          { name := "sqlite", help := "`SQLite`" }] },
      { id := "uri", long := some "uri", valueName := "URI", required := true, help := "Connection URI"
        env := some uriVariable, order := 0 },
      { id := "table", long := some "table", valueName := "TABLE", help := "Table to migrate"
        defaultValue := some "keyv", order := 1 },
      { id := "schema", long := some "schema", valueName := "SCHEMA", help := "PostgreSQL schema", order := 2 },
      { id := "key_length", long := some "key-length", valueName := "KEY_LENGTH"
        help := "Maximum key length for created columns", defaultValue := some "255", kind := .u32, order := 3 },
      { id := "namespace_length", long := some "namespace-length", valueName := "NAMESPACE_LENGTH"
        help := "Maximum namespace length for created columns", defaultValue := some "255", kind := .u32
        order := 4 },
      { id := "dry_run", long := some "dry-run", action := .setTrue, help := "Print the preview and roll back"
        order := 5 },
      verboseArg, configArg] }

def reapCommand : CommandSpec :=
  { name := "reap", usageName := programName ++ " reap"
    about := "Remove expired entries"
    args := [
      { id := "uri", long := some "uri", valueName := "URI"
        help := "Connection URI; falls back to the config file", env := some uriVariable, order := 0 },
      { id := "table", long := some "table", valueName := "TABLE", help := "Table, collection or bucket name"
        order := 1 },
      { id := "namespace", long := some "namespace", valueName := "NAMESPACE"
        help := "Namespace used for logging and events; expiry is not scoped", order := 2 },
      { id := "watch", long := some "watch", valueName := "SECS", help := "Repeat every N seconds until interrupted"
        kind := .u64, order := 3 },
      { id := "metrics_addr", long := some "metrics-addr", valueName := "ADDR"
        help := "Expose Prometheus metrics on this address while watching", kind := .socketAddress, order := 4 },
      verboseArg, configArg] }

def helpTopicsArg : ArgSpec :=
  { id := "subcommand", index := some 1, valueName := "COMMAND", multiple := true
    help := "Print help for the subcommand(s)" }

def helpCommand : CommandSpec :=
  { name := "help", usageName := programName ++ " help"
    about := "Print this message or the help of the given subcommand(s)"
    args := [helpTopicsArg], helpFlag := false }

def program : Program :=
  { top := topCommand, commands := [migrateCommand, reapCommand, helpCommand] }

end Cli

end KvStore
