import KvStore.Cli.Parse
import KvStore.Cli.Reap
import KvStore.Migration.Options

namespace KvStore

namespace Cli

structure MigrateArgs where
  backend : MigrationBackend
  uri : String
  table : String := "keyv"
  schema : Option String := none
  keyLength : Nat := 255
  namespaceLength : Nat := 255
  dryRun : Bool := false
  deriving Repr, Inhabited

def MigrateArgs.options (a : MigrateArgs) : MigrationOptions :=
  { table := a.table, schema := a.schema, keyLength := a.keyLength, namespaceLength := a.namespaceLength,
    dryRun := a.dryRun }

inductive Command where
  | migrate (args : MigrateArgs)
  | reap (args : ReapArgs)
  deriving Repr, Inhabited

/-- A command line read: the global flags and the command. -/
structure Invocation where
  verbose : Bool
  config : Option String
  command : Command
  deriving Repr, Inhabited

def ArgValue.text? : ArgValue → Option String
  | .text s => some s
  | _ => none

def ArgValue.nat? : ArgValue → Option Nat
  | .nat n => some n
  | _ => none

def ArgValue.address? : ArgValue → Option Net.SocketAddress
  | .address a => some a
  | _ => none

def ArgValue.isTrue : ArgValue → Bool
  | .flag b => b
  | _ => false

def Parsed.command? (r : Parsed) : Command :=
  let text := fun id => (r.sub.value? id).bind ArgValue.text?
  let nat := fun id => (r.sub.value? id).bind ArgValue.nat?
  if r.command == "migrate" then
    .migrate { backend := if text "backend" == some "postgres" then .postgres else .sqlite
               uri := (text "uri").getD ""
               table := (text "table").getD "keyv"
               schema := text "schema"
               keyLength := (nat "key_length").getD 255
               namespaceLength := (nat "namespace_length").getD 255
               dryRun := ((r.sub.value? "dry_run").map ArgValue.isTrue).getD false }
  else
    .reap { uri := text "uri", table := text "table", namespaceName := text "namespace", watch := nat "watch"
            metricsAddr := (r.sub.value? "metrics_addr").bind ArgValue.address? }

def Parsed.invocation (r : Parsed) : Invocation :=
  { verbose := ((r.global? "verbose").bind (·.values.head?) |>.map ArgValue.isTrue).getD false
    config := (r.global? "config").bind (·.values.head?) |>.bind ArgValue.text?
    command := r.command? }

def readCommandLine (env : EnvVars) (args : List String) : Except Failure Invocation :=
  (parseArgs program env args).map Parsed.invocation

end Cli

end KvStore
