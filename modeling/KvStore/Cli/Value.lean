import KvStore.Cli.Failure
import KvStore.Cli.Suggest

namespace KvStore

namespace Cli

inductive IntError where
  | empty
  | invalidDigit
  | posOverflow
  | negOverflow
  deriving Repr, BEq, Inhabited

def IntError.message : IntError → String
  | .empty => "cannot parse integer from empty string"
  | .invalidDigit => "invalid digit found in string"
  | .posOverflow => "number too large to fit in target type"
  | .negOverflow => "number too small to fit in target type"

def readDigits (lo hi : Int) (negative : Bool) : Int → List Char → Except IntError Int
  | acc, [] => .ok acc
  | acc, c :: cs =>
    let overflow := if negative then IntError.negOverflow else .posOverflow
    let scaled := acc * 10
    if !c.isDigit then .error .invalidDigit
    else if scaled < lo || hi < scaled then .error overflow
    else
      let d : Int := (c.toNat - 48 : Nat)
      let next := if negative then scaled - d else scaled + d
      if next < lo || hi < next then .error overflow
      else readDigits lo hi negative next cs

def parseInteger (s : String) (signed : Bool) (lo hi : Int) : Except IntError Int :=
  match s.toList with
  | [] => .error .empty
  | ['+'] | ['-'] => .error .invalidDigit
  | '+' :: rest => readDigits lo hi false 0 rest
  | '-' :: rest => if signed then readDigits lo hi true 0 rest else .error .invalidDigit
  | cs => readDigits lo hi false 0 cs

def i64Min : Int := -(Int.pow 2 63)

def i64Max : Int := Int.pow 2 63 - 1

def u32Max : Int := Int.pow 2 32 - 1

def u64Max : Int := Int.pow 2 64 - 1

def readValue (a : ArgSpec) (raw : String) : Except Failure ArgValue :=
  match a.action with
  | .setTrue => .ok (.flag (raw == "true"))
  | .help | .version => .ok (.flag true)
  | .set =>
    match a.kind with
    | .text => .ok (.text raw)
    | .u32 =>
      match parseInteger raw true i64Min i64Max with
      | .error e => .error (Failure.invalidValue a raw e.message)
      | .ok n =>
        if n < 0 || u32Max < n then
          .error (Failure.invalidValue a raw (toString n ++ " is not in 0..=" ++ toString u32Max))
        else .ok (.nat n.toNat)
    | .u64 =>
      match parseInteger raw false 0 u64Max with
      | .error e => .error (Failure.invalidValue a raw e.message)
      | .ok n => .ok (.nat n.toNat)
    | .socketAddress =>
      match Net.SocketAddress.parse raw with
      | some addr => .ok (.address addr)
      | none => .error (Failure.invalidValue a raw "invalid socket address syntax")
    | .choice values =>
      let names := values.map (·.name)
      if names.contains raw then .ok (.text raw)
      else .error (Failure.invalidChoice a raw (bestMatch raw names))

end Cli

end KvStore
