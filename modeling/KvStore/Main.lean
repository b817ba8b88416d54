import KvStore.Cli.Run

namespace KvStore

def toolVariables : List String :=
  ["KVBRIDGE_URI", "KVBRIDGE_TABLE", "KVBRIDGE_NAMESPACE", "KVBRIDGE_CONFIG_PATH", "KVBRIDGE_LOG",
   "KVBRIDGE_LOG_FORMAT", "KVBRIDGE_LOG_FILE", "RUST_LOG", "XDG_CONFIG_HOME", "HOME"]

end KvStore

open KvStore in
def main (args : List String) : IO UInt32 := do
  let cwd := (← IO.getEnv "PWD").getD "/"
  let mut env : EnvVars := {}
  for name in toolVariables do
    if let some value ← IO.getEnv name then env := env.set name value
  let host : Host := { Host.atRoot cwd with env }
  match Cli.runTool { host } args none with
  | some run =>
    IO.print run.stdout
    IO.eprint run.stderr
    pure run.code.toUInt32
  | none =>
    -- a watch that nothing interrupts: the process lives until it is killed
    repeat IO.sleep 1000
    pure 0
