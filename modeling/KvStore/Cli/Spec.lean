import KvStore.Net.Address

namespace KvStore

namespace Cli

inductive ArgAction where
  | set
  | setTrue
  | help
  | version
  deriving Repr, BEq, DecidableEq, Inhabited

/-- One of the values a choice accepts, with its help text. -/
structure PossibleValue where
  name : String
  help : String := ""
  deriving Repr, BEq, Inhabited

inductive ValueKind where
  | text
  | u32
  | u64
  | socketAddress
  | choice (values : List PossibleValue)
  deriving Repr, BEq, Inhabited

inductive ArgValue where
  | text (s : String)
  | nat (n : Nat)
  | flag (b : Bool)
  | address (a : Net.SocketAddress)
  deriving Repr, BEq, Inhabited

structure ArgSpec where
  id : String
  short : Option Char := none
  long : Option String := none
  index : Option Nat := none
  valueName : String := ""
  action : ArgAction := .set
  required : Bool := false
  multiple : Bool := false
  help : String := ""
  longHelp : Option String := none
  defaultValue : Option String := none
  env : Option String := none
  kind : ValueKind := .text
  order : Nat := 999
  global : Bool := false
  deriving Repr, Inhabited

namespace ArgSpec

def isPositional (a : ArgSpec) : Bool := a.index.isSome

def takesValue (a : ArgSpec) : Bool := a.action == .set

def possibleValues (a : ArgSpec) : List PossibleValue :=
  match a.kind with
  | .choice vs => vs
  | _ => []

def placeholder (a : ArgSpec) (required : Bool) : String :=
  let name := if a.isPositional && !required then "[" ++ a.valueName ++ "]" else "<" ++ a.valueName ++ ">"
  if a.isPositional && a.multiple then name ++ "..." else name

/-- The argument as usage lines write it: `--long <VALUE>`, `-s`, or a positional's
placeholder. `required` overrides whether a positional counts as required. -/
def displayAs (a : ArgSpec) (required : Bool) : String :=
  let name := match a.long, a.short with
    | some l, _ => "--" ++ l
    | none, some s => "-" ++ s.toString
    | none, none => ""
  if a.isPositional then a.placeholder required
  else if a.takesValue then name ++ " " ++ a.placeholder true
  else name

def display (a : ArgSpec) : String := a.displayAs a.required

end ArgSpec

structure CommandSpec where
  name : String
  usageName : String
  about : String
  /-- Arguments in the order they were declared, the inherited global ones last. -/
  args : List ArgSpec
  subcommands : List (String × String) := []
  subcommandRequired : Bool := false
  /-- Print help instead of an error when nothing at all is given. -/
  argRequiredElseHelp : Bool := false
  helpFlag : Bool := true
  version : Option String := none
  deriving Repr, Inhabited

namespace CommandSpec

/-- Whether `--help` shows more than `-h`: some argument has a long help text or
values that carry help of their own. -/
def hasLongHelp (c : CommandSpec) : Bool :=
  c.args.any fun a => a.longHelp.isSome || a.possibleValues.any (fun v => !v.help.isEmpty)

def helpArg (c : CommandSpec) : ArgSpec :=
  if c.hasLongHelp then
    { id := "help", short := some 'h', long := some "help", action := .help
      help := "Print help (see more with '--help')"
      longHelp := some "Print help (see a summary with '-h')" }
  else { id := "help", short := some 'h', long := some "help", action := .help, help := "Print help" }

def versionArg : ArgSpec :=
  { id := "version", short := some 'V', long := some "version", action := .version, help := "Print version" }

def allArgs (c : CommandSpec) : List ArgSpec :=
  c.args ++ (if c.helpFlag then [c.helpArg] else []) ++ (if c.version.isSome then [versionArg] else [])

def positionals (c : CommandSpec) : List ArgSpec := c.allArgs.filter ArgSpec.isPositional

def options (c : CommandSpec) : List ArgSpec := c.allArgs.filter (!·.isPositional)

def hasPositionals (c : CommandSpec) : Bool := !c.positionals.isEmpty

def byLong (c : CommandSpec) (name : String) : Option ArgSpec :=
  c.allArgs.find? (·.long == some name)

def byShort (c : CommandSpec) (ch : Char) : Option ArgSpec :=
  c.allArgs.find? (·.short == some ch)

def byId (c : CommandSpec) (id : String) : Option ArgSpec :=
  c.allArgs.find? (·.id == id)

def positionalAt (c : CommandSpec) (i : Nat) : Option ArgSpec :=
  c.allArgs.find? (·.index == some i)

def longNames (c : CommandSpec) : List String := c.allArgs.filterMap (·.long)

def subcommandNames (c : CommandSpec) : List String := c.subcommands.map (·.1)

def hasSubcommand (c : CommandSpec) (name : String) : Bool := c.subcommandNames.contains name

def requiredArgs (c : CommandSpec) : List ArgSpec := c.allArgs.filter (·.required)

end CommandSpec

end Cli

end KvStore
