import KvStore.Config.Store

namespace KvStore

inductive MigrationBackend where
  | postgres
  | sqlite
  deriving Repr, BEq, DecidableEq, Inhabited

structure MigrationOptions where
  table : String := "keyv"
  schema : Option String := none
  keyLength : Nat := 255
  namespaceLength : Nat := 255
  dryRun : Bool := false
  deriving Repr, BEq, Inhabited

namespace MigrationOptions

def ofConfig (c : StoreConfig) : MigrationOptions :=
  { table := c.table, schema := c.schema, keyLength := c.keyLength,
    namespaceLength := c.namespaceLength }

def withDryRun (o : MigrationOptions) (dryRun : Bool) : MigrationOptions := { o with dryRun }

end MigrationOptions

end KvStore
