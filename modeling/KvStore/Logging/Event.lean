import KvStore.Logging.Filter

namespace KvStore

inductive LogLevel where
  | error
  | warn
  | info
  | debug
  | trace
  deriving Repr, BEq, DecidableEq, Inhabited

def LogLevel.rank : LogLevel → Nat
  | .error => 1
  | .warn => 2
  | .info => 3
  | .debug => 4
  | .trace => 5

def LogLevel.name : LogLevel → String
  | .error => "ERROR"
  | .warn => "WARN"
  | .info => "INFO"
  | .debug => "DEBUG"
  | .trace => "TRACE"

def LevelFilter.rank : LevelFilter → Nat
  | .off => 0
  | .error => 1
  | .warn => 2
  | .info => 3
  | .debug => 4
  | .trace => 5

/-- A span events can happen inside: its name, target and field names. -/
structure LogSpan where
  name : String
  target : String
  fields : List String := []
  deriving Repr, BEq, Inhabited

structure LogEvent where
  level : LogLevel
  target : String
  message : String
  fields : List String := []
  span : Option LogSpan := none
  deriving Repr, BEq, Inhabited

namespace LogEvent

def line (e : LogEvent) : String := e.level.name ++ " " ++ e.target ++ ": " ++ e.message ++ "\n"

end LogEvent

namespace Directive

def covers (d : Directive) (e : LogEvent) : Bool :=
  d.target.all (e.target.startsWith ·) && d.fields.all (e.fields.contains ·.name)

/-- Whether a dynamic directive matches a span: its name if it gives one, its target,
and its fields, which the span must have; the values spans record are not kept, so a
field with a value never matches. -/
def matchesSpan (d : Directive) (s : LogSpan) : Bool :=
  d.span.all (· == s.name) && d.target.all (s.target.startsWith ·) &&
    d.fields.all (fun f => f.value.isNone && s.fields.contains f.name)

end Directive

def LogFilter.enabled (f : LogFilter) (e : LogEvent) : Bool :=
  let inScope := match e.span with
    | some s => f.spanned.any fun d => d.matchesSpan s && e.level.rank ≤ d.level.rank
    | none => false
  inScope ||
    match f.plain.find? (·.covers e) with
    | some d => e.level.rank ≤ d.level.rank
    | none => false

end KvStore
