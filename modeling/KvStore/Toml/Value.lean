import KvStore.Decimal.Binary64

namespace KvStore

namespace Toml

structure Span where
  start : Nat
  stop : Nat
  deriving Repr, BEq, Inhabited

inductive Value where
  | str (s : String) (span : Span)
  | int (i : Int) (span : Span)
  | float (x : Binary64) (span : Span)
  | bool (b : Bool) (span : Span)
  | datetime (text : String) (span : Span)
  | arr (items : List Value) (span : Span)
  | table (fields : List (String × Value)) (span : Span)
  deriving Repr, Inhabited

namespace Value

def span : Value → Span
  | .str _ s | .int _ s | .float _ s | .bool _ s | .datetime _ s | .arr _ s | .table _ s => s

end Value

/-- A reading failure: its message and the span it points at. -/
structure Failure where
  message : String
  span : Span
  deriving Repr, Inhabited

def Failure.render (f : Failure) (source : String) : String :=
  let bytes := source.toUTF8
  let index := f.span.start
  let (line, column) :=
    if bytes.size = 0 then (0, index)
    else
      let safe := min index (bytes.size - 1)
      let offset := index - safe
      let pre := (bytes.extract 0 safe).toList
      let lineStart := pre.length - (pre.reverse.takeWhile (· != 10)).length
      let line := (pre.take lineStart).count 10
      let segment := bytes.extract lineStart (safe + 1)
      let column := match String.fromUTF8? segment with
        | some s => s.length - 1
        | none => safe - lineStart
      (line, column + offset)
  let lineNum := line + 1
  let gutter := (toString lineNum).length
  let content := ((source.splitOn "\n")[line]?).getD ""
  let highlight := min (f.span.stop - f.span.start) (content.utf8ByteSize - column)
  let pad (n : Nat) := String.ofList (List.replicate n ' ')
  "TOML parse error at line " ++ toString lineNum ++ ", column " ++ toString (column + 1) ++ "\n" ++
    pad (gutter + 1) ++ "|\n" ++
    toString lineNum ++ " | " ++ content ++ "\n" ++
    pad (gutter + 1) ++ "|" ++ pad (column + 1) ++ "^" ++
    String.ofList (List.replicate (highlight - 1) '^') ++ "\n" ++
    f.message ++ "\n"

end Toml

end KvStore
