import KvStore.Sql.Identifier
import KvStore.Config.Store

namespace KvStore

namespace Postgres

structure SchemaSpec where
  table : TableName
  keyLength : Nat
  namespaceLength : Nat
  unlogged : Bool
  deriving Repr, Inhabited

namespace SchemaSpec

def ofConfig (c : StoreConfig) : SchemaSpec :=
  { table := TableName.make c.schema c.table, keyLength := c.keyLength,
    namespaceLength := c.namespaceLength, unlogged := c.unlogged }

def statements (s : SchemaSpec) : List (String × String) :=
  let table := s.table.qualified
  let schema := match s.table.schema with
    | some name => [("postgres_create_schema", "CREATE SCHEMA IF NOT EXISTS " ++ Sql.quoteIdentifier name)]
    | none => []
  schema ++
  [("postgres_create_table",
      "CREATE " ++ (if s.unlogged then "UNLOGGED " else "") ++ "TABLE IF NOT EXISTS " ++ table ++
      " (\"key\" VARCHAR(" ++ toString s.keyLength ++ ") NOT NULL, \"value\" TEXT, \"namespace\" VARCHAR(" ++
      toString s.namespaceLength ++ ") NOT NULL DEFAULT '', \"expires\" BIGINT)"),
    ("postgres_add_namespace",
      "ALTER TABLE " ++ table ++ " ADD COLUMN \"namespace\" VARCHAR(" ++ toString s.namespaceLength ++
      ") NOT NULL DEFAULT ''"),
    ("postgres_drop_primary_key", "ALTER TABLE " ++ table ++ " DROP CONSTRAINT " ++ s.table.derived "pkey"),
    ("postgres_drop_key_unique", "ALTER TABLE " ++ table ++ " DROP CONSTRAINT " ++ s.table.derived "key_key"),
    ("postgres_create_key_namespace_index",
      "CREATE UNIQUE INDEX IF NOT EXISTS " ++ s.table.derived "key_namespace_idx" ++ " ON " ++ table ++
      " (\"key\", \"namespace\")"),
    ("postgres_add_expires", "ALTER TABLE " ++ table ++ " ADD COLUMN \"expires\" BIGINT"),
    ("postgres_create_expires_index",
      "CREATE INDEX IF NOT EXISTS " ++ s.table.derived "expires_idx" ++ " ON " ++ table ++ " (\"expires\")")]

def debugText (s : SchemaSpec) : String :=
  "SchemaSpec \x7b table: " ++ s.table.debugText ++ ", key_length: " ++ toString s.keyLength ++
    ", namespace_length: " ++ toString s.namespaceLength ++ ", unlogged: " ++ toString s.unlogged ++ " \x7d"

end SchemaSpec

end Postgres

end KvStore
