import KvStore.Key.Legacy
import KvStore.Error

namespace KvStore

structure MigrationReport where
  preview : List KeyMove := []
  conflicts : List KeyMove := []
  applied : Bool := false
  rowsUpdated : Nat := 0
  deriving Repr, BEq, Inhabited

def conflictError : List KeyMove → Option Error
  | [] => none
  | first :: rest =>
    some (.operationFailed "migration_conflict"
      (toString (rest.length + 1) ++ " rewrite(s) collide with existing rows, first: " ++ first.display))

/-- A migration run: the report shown before anything was decided, when the run got
that far, and the run's outcome. -/
structure MigrationRun where
  previewSeen : Option MigrationReport
  result : Outcome MigrationReport
  deriving Inhabited

end KvStore
