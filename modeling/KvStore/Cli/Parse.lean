import KvStore.Cli.Value
import KvStore.Cli.Help
import KvStore.Cli.Program
import KvStore.Host.Env

namespace KvStore

namespace Cli

inductive ValueSource where
  | defaultValue
  | envVariable
  | commandLine
  deriving Repr, BEq, DecidableEq, Inhabited

def ValueSource.rank : ValueSource → Nat
  | .defaultValue => 0
  | .envVariable => 1
  | .commandLine => 2

structure Matched where
  id : String
  values : List ArgValue
  source : ValueSource
  deriving Repr, Inhabited

inductive Written where
  | short
  | long
  | position
  deriving Repr, BEq, DecidableEq, Inhabited

structure Pending where
  arg : ArgSpec
  written : Written
  values : List String
  deriving Repr, Inhabited

structure ParseState where
  matched : List Matched := []
  pending : Option Pending := none
  /-- Whether an option is waiting for its value as the next argument. -/
  awaiting : Bool := false
  position : Nat := 1
  trailing : Bool := false
  deriving Repr, Inhabited

namespace ParseState

def find? (st : ParseState) (id : String) : Option Matched := st.matched.find? (·.id == id)

def has (st : ParseState) (id : String) : Bool := st.matched.any (·.id == id)

def remove (st : ParseState) (id : String) : ParseState :=
  { st with matched := st.matched.filter (·.id != id) }

def add (st : ParseState) (m : Matched) : ParseState := { st with matched := st.matched ++ [m] }

def given (st : ParseState) : List String :=
  (st.matched.filter (·.source != .defaultValue)).map (·.id)

def value? (st : ParseState) (id : String) : Option ArgValue := (st.find? id).bind (·.values.head?)

end ParseState

def helpFailure (c : CommandSpec) (long : Bool) : Failure :=
  { kind := .displayHelp, message := c.helpText long }

def versionFailure (c : CommandSpec) : Failure :=
  { kind := .displayVersion, message := c.versionText }

/-- Applies an argument with its raw values. The failure, if any, comes with the state
as far as the application got: an argument given twice is dropped, and one whose value
did not read stays as given without values. -/
def apply (c : CommandSpec) (st : ParseState) (a : ArgSpec) (written : Option Written)
    (source : ValueSource) (raw : List String) : ParseState × Option Failure :=
  if source == .commandLine && a.takesValue && raw.isEmpty then (st, some (Failure.emptyValue a))
  else match a.action with
    | .help => (st, some (helpFailure c (written != some .short)))
    | .version => (st, some (versionFailure c))
    | _ =>
      if st.has a.id then (st.remove a.id, some (Failure.givenTwice a c.usage))
      else
        let raw := if a.action == .setTrue && raw.isEmpty then ["true"] else raw
        match raw.mapM (readValue a) with
        | .ok vs => (st.add { id := a.id, values := vs, source }, none)
        | .error f => (st.add { id := a.id, values := [], source }, some f)

def resolvePending (c : CommandSpec) (st : ParseState) : ParseState × Option Failure :=
  match st.pending with
  | none => (st, none)
  | some p => apply c { st with pending := none } p.arg (some p.written) .commandLine p.values

def react (c : CommandSpec) (st : ParseState) (a : ArgSpec) (written : Written) (raw : List String) :
    ParseState × Option Failure :=
  match resolvePending c st with
  | (st, some f) => (st, some f)
  | (st, none) => apply c st a (some written) .commandLine raw

def orFail : ParseState × Option Failure → Except Failure ParseState
  | (_, some f) => .error f
  | (st, none) => .ok st

def asValueTip (arg : String) : String := "to pass '" ++ arg ++ "' as a value, use '-- " ++ arg ++ "'"

/-- An unknown long option, with the closest long option of this command, or else of a
subcommand named later on the line, as a tip. -/
def unknownLong (p : Program) (c : CommandSpec) (st : ParseState) (name : String)
    (rest : List String) : Failure :=
  let st := (resolvePending c st).1
  let flag := "--" ++ name
  match bestMatch name c.longNames with
  | some cand =>
    let st := match c.byLong cand with
      | some a => if st.has a.id then st else st.add { id := a.id, values := [], source := .commandLine }
      | none => st
    Failure.unknownArgument flag (Failure.similarTip "argument" ["--" ++ cand]) (c.usageGiven st.given)
  | none =>
    let inSubcommands := c.subcommandNames.filterMap fun n => do
      let sc ← p.find n
      let cand ← bestMatch name sc.longNames
      let place ← rest.idxOf? n
      pure (place, n, cand)
    let nearest := inSubcommands.foldl (fun best x => match best with
      | some b => if x.1 < b.1 then some x else some b
      | none => some x) none
    match nearest with
    | some (_, n, cand) =>
      Failure.unknownArgument flag ["'" ++ n ++ " --" ++ cand ++ "' exists"] (c.usageGiven st.given)
    | none =>
      Failure.unknownArgument flag (if !st.trailing && c.hasPositionals then [asValueTip flag] else [])
        (c.usageGiven st.given)

def unneeded (c : CommandSpec) (st : ParseState) (a : ArgSpec) (value : String) : Failure :=
  let used := (st.matched.filter fun m =>
    m.source != .defaultValue && !((c.byId m.id).map (·.required)).getD false).map (·.id)
  Failure.unneededValue a value (c.usageGiven (used ++ [a.id]))

def longFlag (p : Program) (c : CommandSpec) (st : ParseState) (name : String) (value : Option String)
    (rest : List String) : Except Failure ParseState :=
  match c.byLong name with
  | none => .error (unknownLong p c st name rest)
  | some a =>
    if a.takesValue then
      match value with
      | some v => do
        let st ← orFail (react c st a .long [v])
        pure { st with awaiting := false }
      | none => do
        let st ← orFail (resolvePending c st)
        pure { st with pending := some { arg := a, written := .long, values := [] }, awaiting := true }
    else
      match value with
      | some v => .error (unneeded c st a v)
      | none => do
        let st ← orFail (react c st a .long [])
        pure { st with awaiting := false }

def shortFlags (c : CommandSpec) : ParseState → List Char → Except Failure ParseState
  | st, [] => .ok { st with awaiting := false }
  | st, ch :: more =>
    match c.byShort ch with
    | none =>
      let flag := "-" ++ ch.toString
      .error (Failure.unknownArgument flag (if !st.trailing && c.hasPositionals then [asValueTip flag] else [])
        c.usage)
    | some a =>
      if !a.takesValue then do
        let st ← orFail (react c st a .short [])
        shortFlags c st more
      else if more.isEmpty then do
        let st ← orFail (resolvePending c st)
        pure { st with pending := some { arg := a, written := .short, values := [] }, awaiting := true }
      else do
        let v := match more with
          | '=' :: v => String.ofList v
          | v => String.ofList v
        let st ← orFail (react c st a .short [v])
        pure { st with awaiting := false }

def unexpectedPositional (c : CommandSpec) (st : ParseState) (arg : String) : Failure :=
  if st.trailing && c.hasSubcommand arg then
    Failure.make .unknownArgument ("unexpected argument '" ++ arg ++ "' found")
      ["subcommand '" ++ arg ++ "' exists; to use it, remove the '--' before it"] (some c.usage)
  else
    let flagLike := arg.startsWith "-" && arg != "-"
    let valueTip := !st.trailing && c.hasPositionals && flagLike
    if !c.subcommands.isEmpty then
      let similar := didYouMean arg c.subcommandNames
      if !similar.isEmpty then
        Failure.make .invalidSubcommand ("unrecognized subcommand '" ++ arg ++ "'")
          (Failure.similarTip "subcommand" similar ++
            (if valueTip then ["to pass '" ++ arg ++ "' as a value, use '" ++ c.usageName ++ " -- " ++ arg ++ "'"]
             else [])) (some c.usage)
      else if !c.hasPositionals then Failure.unrecognizedSubcommand arg [] c.usage
      else Failure.unknownArgument arg (if valueTip then [asValueTip arg] else []) c.usage
    else Failure.unknownArgument arg (if valueTip then [asValueTip arg] else []) c.usage

def positional (c : CommandSpec) (st : ParseState) (arg : String) : Except Failure ParseState :=
  match c.positionalAt st.position with
  | some a => do
    let st ← orFail (resolvePending c st)
    pure { st with pending := some { arg := a, written := .position, values := [arg] },
                   position := st.position + 1, awaiting := false }
  | none => .error (unexpectedPositional c (resolvePending c st).1 arg)

def helpTopic (p : Program) : CommandSpec → List String → Failure
  | c, [] => helpFailure c true
  | c, n :: ns =>
    match if c.hasSubcommand n then p.find n else none with
    | some sc => helpTopic p sc ns
    | none => Failure.unrecognizedSubcommand n [] c.usage

inductive Step where
  | next (st : ParseState)
  | enter (name : String)

def splitAssignment (body : List Char) : String × Option String :=
  match body.idxOf? '=' with
  | some i => (String.ofList (body.take i), some (String.ofList (body.drop (i + 1))))
  | none => (String.ofList body, none)

def step (p : Program) (c : CommandSpec) (st : ParseState) (arg : String) (rest : List String) :
    Except Failure Step := do
  if !st.trailing then
    if !st.awaiting && c.hasSubcommand arg then
      if arg == "help" then throw (helpTopic p p.top rest)
      return .enter arg
    if arg == "--" then return .next { st with trailing := true }
    match arg.toList with
    | '-' :: '-' :: body =>
      let (name, value) := splitAssignment body
      return .next (← longFlag p c st name value rest)
    | '-' :: cluster@(_ :: _) => return .next (← shortFlags c st cluster)
    | _ => pure ()
    if st.awaiting then
      return .next { st with pending := st.pending.map (fun q => { q with values := q.values ++ [arg] }),
                             awaiting := false }
  return .next (← positional c st arg)

/-- Reads arguments until they end or a subcommand is named; then gives the state and
the subcommand with the arguments after it. -/
def readArgs (p : Program) (c : CommandSpec) :
    ParseState → List String → Except Failure (ParseState × Option (String × List String))
  | st, [] => .ok (st, none)
  | st, a :: rest => do
    match ← step p c st a rest with
    | .next st' => readArgs p c st' rest
    | .enter name => pure (st, some (name, rest))

def addEnv (c : CommandSpec) (env : EnvVars) (st : ParseState) : Except Failure ParseState :=
  c.allArgs.foldlM (fun st a =>
    match a.env.bind env.get? with
    | some v => if st.has a.id then .ok st else orFail (apply c st a none .envVariable [v])
    | none => .ok st) st

def addDefaults (c : CommandSpec) (st : ParseState) : ParseState :=
  c.allArgs.foldl (fun st a =>
    let dflt := if a.action == .setTrue then some "false" else a.defaultValue
    match dflt with
    | some raw =>
      if st.has a.id then st
      else match readValue a raw with
        | .ok v => st.add { id := a.id, values := [v], source := .defaultValue }
        | .error _ => st
    | none => st) st

def validate (c : CommandSpec) (st : ParseState) (hasSubcommand : Bool) : Except Failure Unit := do
  if !hasSubcommand && c.argRequiredElseHelp && st.given.isEmpty then
    throw { kind := .displayHelpOnMissingArgumentOrSubcommand, message := c.helpText false }
  if !hasSubcommand && c.subcommandRequired then
    throw (Failure.missingSubcommand c.usageName c.subcommandNames c.usage)
  let missing := c.requiredArgs.filter fun a => !st.given.contains a.id
  unless missing.isEmpty do
    let shown := ((missing.filter (!·.isPositional)) ++ (missing.filter ArgSpec.isPositional)).map
      (·.displayAs true)
    throw (Failure.missingRequired shown (c.usageGiven (st.given ++ missing.map (·.id))))

/-- Ends a command: the waiting values are read, then the environment and the defaults
fill in, then the command is checked. -/
def finish (c : CommandSpec) (env : EnvVars) (st : ParseState) (hasSubcommand : Bool) :
    Except Failure ParseState := do
  let st ← orFail (resolvePending c st)
  let st ← addEnv c env st
  let st := addDefaults c st
  validate c st hasSubcommand
  pure st

/-- A parsed command line: the top command's arguments, the subcommand, and its
arguments. -/
structure Parsed where
  top : ParseState
  command : String
  sub : ParseState
  deriving Repr, Inhabited

def parseArgs (p : Program) (env : EnvVars) (args : List String) : Except Failure Parsed := do
  let (st, entered) ← readArgs p p.top {} args
  match entered with
  | none =>
    discard (finish p.top env st false)
    throw (Failure.missingSubcommand p.top.usageName p.top.subcommandNames p.top.usage)
  | some (name, rest) =>
    let sc := (p.find name).getD p.top
    let (sst, _) ← readArgs p sc {} rest
    let sst ← finish sc env sst false
    let st ← finish p.top env st true
    pure { top := st, command := name, sub := sst }

def Parsed.global? (r : Parsed) (id : String) : Option Matched :=
  match r.top.find? id, r.sub.find? id with
  | some t, some s => if s.source.rank < t.source.rank then some t else some s
  | some t, none => some t
  | none, s => s

end Cli

end KvStore
