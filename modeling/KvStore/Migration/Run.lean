import KvStore.Sqlite.Migrate
import KvStore.Postgres.Pool

namespace KvStore

def runMigration (backend : MigrationBackend) (uri : String) (options : MigrationOptions) :
    StateM World MigrationRun := do
  match backend with
  | .sqlite => Sqlite.migrate uri options
  | .postgres =>
    if (← get).fullFeatures then
      pure { previewSeen := none, result := .error (.operationFailed "postgres_connect" (Postgres.connectFailure uri)) }
    else pure { previewSeen := none, result := .error (.featureNotEnabled "postgres") }

end KvStore
