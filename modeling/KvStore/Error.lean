namespace KvStore

inductive Error where
  | invalidInput (detail : String)
  | operationFailed (operation : String) (cause : String)
  | bootstrap (cause : String)
  | disconnected
  /-- The backend needs a part of the library that this build leaves out. -/
  | featureNotEnabled (feature : String)
  deriving Repr, BEq, Inhabited

namespace Error

def message : Error → String
  | .invalidInput detail => "invalid input: " ++ detail
  | .operationFailed operation cause => "operation '" ++ operation ++ "' failed: " ++ cause
  | .bootstrap cause => "schema bootstrap failed: " ++ cause
  | .disconnected => "store is disconnected"
  | .featureNotEnabled feature =>
    "feature not enabled: " ++ feature ++ " (compile with --features " ++ feature ++ ")"

def kindName : Error → String
  | .invalidInput _ => "InvalidInput"
  | .operationFailed _ _ => "OperationFailed"
  | .bootstrap _ => "Bootstrap"
  | .disconnected => "Disconnected"
  | .featureNotEnabled _ => "FeatureNotEnabled"

end Error

abbrev Outcome (α : Type) := Except Error α

end KvStore
