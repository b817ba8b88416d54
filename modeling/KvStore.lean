import KvStore.Backend.Uri
import KvStore.Bucket.Layout
import KvStore.Bucket.Name
import KvStore.Bucket.Object
import KvStore.Cli.Failure
import KvStore.Cli.Help
import KvStore.Cli.Invocation
import KvStore.Cli.Parse
import KvStore.Cli.Program
import KvStore.Cli.Reap
import KvStore.Cli.Run
import KvStore.Cli.Spec
import KvStore.Cli.Suggest
import KvStore.Cli.Usage
import KvStore.Cli.Value
import KvStore.Collection.Layout
import KvStore.Collection.Uri
import KvStore.Config.Backend
import KvStore.Config.File
import KvStore.Config.Load
import KvStore.Config.Pool
import KvStore.Config.Store
import KvStore.Decimal.Binary64
import KvStore.Decimal.Read
import KvStore.Decimal.Shortest
import KvStore.Decimal.Significant
import KvStore.Error
import KvStore.Hash.Sha256
import KvStore.Host.Basic
import KvStore.Host.Env
import KvStore.Host.Files
import KvStore.Host.Path
import KvStore.Json.Decode
import KvStore.Json.Read
import KvStore.Json.Value
import KvStore.Json.Write
import KvStore.Key.Legacy
import KvStore.Key.Namespace
import KvStore.Logging.Config
import KvStore.Logging.Event
import KvStore.Logging.Filter
import KvStore.Logging.Format
import KvStore.Main
import KvStore.Migration.Options
import KvStore.Migration.Report
import KvStore.Migration.Run
import KvStore.Net.Address
import KvStore.Net.Listener
import KvStore.Payload
import KvStore.Postgres.Backend
import KvStore.Postgres.ConnString
import KvStore.Postgres.Pool
import KvStore.Postgres.Schema
import KvStore.Proofs.Keyset
import KvStore.Session.Command
import KvStore.Session.Dump
import KvStore.Session.Run
import KvStore.Session.State
import KvStore.Sql.Connection
import KvStore.Sql.Constraint
import KvStore.Sql.Define
import KvStore.Sql.Eval
import KvStore.Sql.Exec
import KvStore.Sql.ForeignKey
import KvStore.Sql.Function
import KvStore.Sql.Identifier
import KvStore.Sql.JsonDoc
import KvStore.Sql.JsonFunction
import KvStore.Sql.Operator
import KvStore.Sql.Parse
import KvStore.Sql.Pragma
import KvStore.Sql.Printf
import KvStore.Sql.Resolve
import KvStore.Sql.Schema
import KvStore.Sql.SchemaText
import KvStore.Sql.Substitute
import KvStore.Sql.Syntax
import KvStore.Sql.Token
import KvStore.Sql.Trigger
import KvStore.Sql.Value
import KvStore.Sql.ViewWrite
import KvStore.Sql.Write
import KvStore.Sqlite.Backend
import KvStore.Sqlite.Migrate
import KvStore.Sqlite.Open
import KvStore.Sqlite.Schema
import KvStore.Store.Backend
import KvStore.Store.Basic
import KvStore.Store.Event
import KvStore.Store.Factory
import KvStore.Store.Iterator
import KvStore.Store.Metrics
import KvStore.Store.Open
import KvStore.Store.Page
import KvStore.Store.Pool
import KvStore.Store.World
import KvStore.Text.Blank
import KvStore.Text.Hex
import KvStore.Text.Letter
import KvStore.Text.Pattern
import KvStore.Text.Quoted
import KvStore.Text.Utf8
import KvStore.Toml.Datetime
import KvStore.Toml.Read
import KvStore.Toml.Scalar
import KvStore.Toml.Syntax
import KvStore.Toml.Table
import KvStore.Toml.Token
import KvStore.Toml.Value
import KvStore.Proofs.Json.Reading
import KvStore.Proofs.Bucket.Contract
import KvStore.Proofs.Pool.Key
import KvStore.Proofs.Pool.Calls
import KvStore.Proofs.Pool.Registry
import KvStore.Proofs.Store.Steps
import KvStore.Proofs.Store.Gate
import KvStore.Proofs.Store.Lifecycle
import KvStore.Proofs.Migration.AllOrNothing
import KvStore.Proofs.Migration.LegacySplit
import KvStore.Proofs.Store.Alignment
import KvStore.Proofs.Bucket.Budget
import KvStore.Proofs.Store.Refinement
import KvStore.Proofs.Sqlite.Batch
import KvStore.Proofs.Backend.Metrics
import KvStore.Proofs.Store.Accounting
import KvStore.Proofs.Bucket.Access
import KvStore.Proofs.Sql.IdentifierQuoting
import KvStore.Proofs.Backend.SchemeDispatch
import KvStore.Proofs.Config.Precedence
import KvStore.Proofs.Store.SweepFrame
import KvStore.Proofs.Cli.ReapRelease
import KvStore.Proofs.Collection.EntryIds
import KvStore.Proofs.Bucket.ObjectNames
import KvStore.Proofs.Decimal.Binary64
import KvStore.Proofs.Payload.Expiry
import KvStore.Proofs.Bucket.Interleaving
