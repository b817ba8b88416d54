import KvStore.Cli.Spec

namespace KvStore

namespace Cli

inductive FailureKind where
  | displayHelp
  | displayVersion
  | displayHelpOnMissingArgumentOrSubcommand
  | argumentConflict
  | invalidValue
  | valueValidation
  | unknownArgument
  | invalidSubcommand
  | missingSubcommand
  | missingRequiredArgument
  | tooManyValues
  deriving Repr, BEq, DecidableEq, Inhabited

namespace FailureKind

def name : FailureKind → String
  | .displayHelp => "DisplayHelp"
  | .displayVersion => "DisplayVersion"
  | .displayHelpOnMissingArgumentOrSubcommand => "DisplayHelpOnMissingArgumentOrSubcommand"
  | .argumentConflict => "ArgumentConflict"
  | .invalidValue => "InvalidValue"
  | .valueValidation => "ValueValidation"
  | .unknownArgument => "UnknownArgument"
  | .invalidSubcommand => "InvalidSubcommand"
  | .missingSubcommand => "MissingSubcommand"
  | .missingRequiredArgument => "MissingRequiredArgument"
  | .tooManyValues => "TooManyValues"

def isRequestedOutput : FailureKind → Bool
  | .displayHelp | .displayVersion => true
  | _ => false

end FailureKind

/-- A parse that ended without a command: its kind and the full text to print. -/
structure Failure where
  kind : FailureKind
  message : String
  deriving Repr, Inhabited

namespace Failure

def errorText (body : String) (tips : List String) (usage : Option String) : String :=
  let tipText := if tips.isEmpty then "" else "\n" ++ String.join (tips.map ("\n  tip: " ++ ·))
  let usageText := match usage with
    | some u => "\n\nUsage: " ++ u
    | none => ""
  "error: " ++ body ++ tipText ++ usageText ++ "\n\nFor more information, try '--help'.\n"

def valuesList (label : String) (values : List String) : String :=
  if values.isEmpty then "" else "\n  [" ++ label ++ ": " ++ ", ".intercalate values ++ "]"

def similarTip (what : String) (names : List String) : List String :=
  match names with
  | [] => []
  | [n] => ["a similar " ++ what ++ " exists: '" ++ n ++ "'"]
  | ns => ["some similar " ++ what ++ "s exist: " ++ ", ".intercalate (ns.map fun n => "'" ++ n ++ "'")]

def make (kind : FailureKind) (body : String) (tips : List String) (usage : Option String) : Failure :=
  { kind, message := errorText body tips usage }

def emptyValue (a : ArgSpec) : Failure :=
  make .invalidValue ("a value is required for '" ++ a.display ++ "' but none was supplied" ++
    valuesList "possible values" (a.possibleValues.map (·.name))) [] none

def invalidChoice (a : ArgSpec) (raw : String) (suggestion : Option String) : Failure :=
  make .invalidValue ("invalid value '" ++ raw ++ "' for '" ++ a.display ++ "'" ++
    valuesList "possible values" (a.possibleValues.map (·.name))) (similarTip "value" suggestion.toList) none

def invalidValue (a : ArgSpec) (raw reason : String) : Failure :=
  make .valueValidation ("invalid value '" ++ raw ++ "' for '" ++ a.display ++ "': " ++ reason) [] none

def unknownArgument (arg : String) (tips : List String) (usage : String) : Failure :=
  make .unknownArgument ("unexpected argument '" ++ arg ++ "' found") tips (some usage)

def givenTwice (a : ArgSpec) (usage : String) : Failure :=
  make .argumentConflict ("the argument '" ++ a.display ++ "' cannot be used multiple times") [] (some usage)

def unneededValue (a : ArgSpec) (value usage : String) : Failure :=
  make .tooManyValues ("unexpected value '" ++ value ++ "' for '" ++ a.display ++ "' found; no more were expected")
    [] (some usage)

def unrecognizedSubcommand (name : String) (similar : List String) (usage : String) : Failure :=
  make .invalidSubcommand ("unrecognized subcommand '" ++ name ++ "'") (similarTip "subcommand" similar) (some usage)

def missingSubcommand (program : String) (names : List String) (usage : String) : Failure :=
  make .missingSubcommand ("'" ++ program ++ "' requires a subcommand but one was not provided" ++
    valuesList "subcommands" names) [] (some usage)

def missingRequired (shown : List String) (usage : String) : Failure :=
  make .missingRequiredArgument ("the following required arguments were not provided:" ++
    String.join (shown.map ("\n  " ++ ·))) [] (some usage)

end Failure

end Cli

end KvStore
