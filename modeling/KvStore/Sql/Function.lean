import KvStore.Sql.Printf
import KvStore.Decimal.Read

namespace KvStore

namespace Sql

def textChars (v : Value) : List Char := (v.asText?.getD "").toList

def findFrom : Nat → List Char → List Char → Nat → Nat
  | 0, _, _, _ => 0
  | f + 1, hay, needle, pos =>
    if needle.isPrefixOf hay then pos
    else match hay with
      | [] => 0
      | _ :: rest => findFrom f rest needle (pos + 1)

/-- The position, from `1`, of the first occurrence of `needle` bytes in `hay`,
counting characters of UTF-8 text when `text` (continuation bytes are not positions);
`0` when there is none. An empty needle is found at once. -/
def findBytes (text : Bool) : Nat → List UInt8 → List UInt8 → Nat → Nat
  | 0, _, _, _ => 0
  | f + 1, hay, needle, pos =>
    if needle.isEmpty then pos
    else if needle.length > hay.length then 0
    else if needle.isPrefixOf hay then pos
    else
      let rest := hay.drop 1
      let rest := if text then rest.dropWhile (fun b => b &&& 0xC0 == 0x80) else rest
      findBytes text f rest needle (pos + 1)

/-- The characters of `substr`: from position `start` (from `1`; negative counts from
the end), `len?` of them (negative takes those before). Text stops at its first NUL. -/
def substring (cs : List Char) (start : Int) (len? : Option Int) : List Char :=
  let total : Int := cs.length
  let (p2, negative) := match len? with
    | some l => if l < 0 then (-l, true) else (l, false)
    | none => (total + 1, false)
  let (p1, p2) :=
    if start < 0 then
      let p1 := start + total
      if p1 < 0 then (0, max 0 (p2 + p1)) else (p1, p2)
    else if start > 0 then (start - 1, p2)
    else if p2 > 0 then (0, p2 - 1) else (0, p2)
  let (p1, p2) := if negative then
      let p1' := p1 - p2
      if p1' < 0 then (0, max 0 (p2 + p1')) else (p1', p2)
    else (p1, p2)
  (cs.drop p1.toNat).take p2.toNat

def trimChars (cs set : List Char) (left right : Bool) : List Char :=
  let cs := if left then cs.dropWhile set.contains else cs
  if right then (cs.reverse.dropWhile set.contains).reverse else cs

def replaceAll : Nat → List Char → List Char → List Char → List Char
  | 0, s, _, _ => s
  | f + 1, s, pattern, replacement =>
    if pattern.isEmpty then s
    else if pattern.isPrefixOf s then replacement ++ replaceAll f (s.drop pattern.length) pattern replacement
    else match s with
      | [] => []
      | c :: rest => c :: replaceAll f rest pattern replacement

def quoteValue : Value → String
  | .null => "NULL"
  | .int i => toString i
  | .real x =>
    let short := Value.realText x
    if (Binary64.readFloat? short) == some x then short
    else formatReal { wide := true, precision := some 20 } 'e' x
  | .text s => "'" ++ String.join (s.toList.map fun c => if c == '\'' then "''" else c.toString) ++ "'"
  | .blob b => "X'" ++ Hex.encodeBytes b ++ "'"

/-- A number rounded half away from zero to `digits` places after the point: to whole
numbers by adding a half and truncating; otherwise the decimal rounded on its exact
value and read back. Magnitudes from `2 ^ 52` on have no fraction and stay. -/
def roundTo (x : Binary64) (digits : Nat) : Binary64 :=
  if !x.isFinite || x.compareMagnitudePowTwo 52 == .gt then x
  else if digits == 0 then
    let half := Binary64.ofRatio x.negative 1 2
    let t := (x.add half).trunc
    if t == 0 then Binary64.zero x.negative else Binary64.ofInt t
  else
    let (neg, num, den) := x.toRatio
    let scale := Nat.pow 10 digits
    let q := (2 * num * scale + den) / (2 * den)
    if q == 0 then Binary64.zero neg else Binary64.ofRatio neg q scale

def joinPresent (sep : String) (vs : List Value) : String :=
  sep.intercalate (vs.filterMap fun v => match v.asText? with
    | some s => if s.isEmpty then none else some s
    | none => none)

/-- Reads hexadecimal digit pairs; characters of `skip` may stand between pairs. `none`
when another character appears or a pair is cut. -/
def unhexText : List Char → List Char → Option (List UInt8)
  | [], _ => some []
  | c :: rest, skip =>
    match Hex.digitValue c with
    | some hi =>
      match rest with
      | d :: more =>
        match Hex.digitValue d with
        | some lo => (unhexText more skip).map ((hi * 16 + lo).toUInt8 :: ·)
        | none => none
      | [] => none
    | none => if skip.contains c then unhexText rest skip else none

def piFloat : Float := Float.ofBits 0x400921FB54442D18

def numericReal (v : Value) : Option Binary64 :=
  match v.withAffinity .numeric with
  | .int i => some (Binary64.ofInt i)
  | .real x => some x
  | _ => none

def realResult (f : Float) : Value :=
  if f.isNaN then .null else .real (Binary64.ofFloat f)

def fmod (x y : Binary64) : Value :=
  if y.isZero || x.isNaN || y.isNaN || !x.isFinite then .null
  else if !y.isFinite then .real x
  else
    let (sx, nx, dx) := x.toRatio
    let (_, ny, dy) := y.toRatio
    let q := (nx * dy) / (dx * ny)
    let r := nx * dy - q * ny * dx
    if r == 0 then .real (Binary64.zero sx) else .real (Binary64.ofRatio sx r (dx * dy))

def scalarCall (name : String) (args : List Value) : Except SqlError Value :=
  let arg (i : Nat) : Value := (args[i]?).getD .null
  match nameKey name with
  | "abs" =>
    match arg 0 with
    | .int i => if i = minInt then .error { message := "integer overflow" } else .ok (.int i.natAbs)
    | .null => .ok .null
    | v => let x := v.asReal; .ok (.real (if x.negative then x.neg else x))
  | "coalesce" | "ifnull" => .ok ((args.find? (!·.isNull)).getD .null)
  | "nullif" =>
    .ok (if (compareWith (arg 0) (arg 1) none none) == some .eq then .null else arg 0)
  | "instr" =>
    if (arg 0).isNull || (arg 1).isNull then .ok .null
    else match arg 0, arg 1 with
      | .blob hay, .blob needle => .ok (.int (findBytes false (hay.length + 2) hay needle 1))
      | hay, needle =>
        let bytesOf : Value → List UInt8
          | .blob b => b
          | v => (v.asText?.getD "").toUTF8.toList
        let hay := bytesOf hay
        .ok (.int (findBytes true (hay.length + 2) hay (bytesOf needle) 1))
  | "length" =>
    match arg 0 with
    | .null => .ok .null
    | .blob b => .ok (.int b.length)
    | v => .ok (.int ((textChars v).takeWhile (· != '\x00')).length)
  | "octet_length" =>
    match arg 0 with
    | .null => .ok .null
    | .blob b => .ok (.int b.length)
    | v => .ok (.int (v.asText?.getD "").utf8ByteSize)
  | "lower" => .ok ((arg 0).asText?.map (fun s => Value.text (String.ofList (s.toList.map Char.toLower)))
      |>.getD .null)
  | "upper" => .ok ((arg 0).asText?.map (fun s => Value.text (String.ofList (s.toList.map Char.toUpper)))
      |>.getD .null)
  | "typeof" => .ok (.text (arg 0).typeName)
  | "hex" =>
    match arg 0 with
    | .blob b => .ok (.text (String.ofList ((Hex.encodeBytes b).toList.map Char.toUpper)))
    | .null => .ok (.text "")
    | v => .ok (.text (String.ofList ((Hex.encode (v.asText?.getD "")).toList.map Char.toUpper)))
  | "quote" => .ok (.text (quoteValue (arg 0)))
  | "substr" | "substring" =>
    if args.any (·.isNull) then .ok .null
    else
      let start := match (arg 1).toNumber with
        | .int i => i
        | .real x => x.trunc
        | _ => 0
      let len? := if args.length > 2 then
          some (match (arg 2).toNumber with
            | .int i => i
            | .real x => x.trunc
            | _ => 0)
        else none
      match arg 0 with
      | .blob b =>
        let bytes := b.map (fun x => Char.ofNat x.toNat)
        .ok (.blob ((substring bytes start len?).map (fun c => c.toNat.toUInt8)))
      | v => .ok (.text (String.ofList (substring ((textChars v).takeWhile (· != '\x00')) start len?)))
  | "trim" | "ltrim" | "rtrim" =>
    if args.any (·.isNull) then .ok .null
    else
      let set := if args.length > 1 then textChars (arg 1) else [' ']
      let n := nameKey name
      .ok (.text (String.ofList (trimChars (textChars (arg 0)) set (n != "rtrim") (n != "ltrim"))))
  | "replace" =>
    if args.any (·.isNull) then .ok .null
    else
      let s := textChars (arg 0)
      .ok (.text (String.ofList (replaceAll (s.length + 1) s (textChars (arg 1)) (textChars (arg 2)))))
  | "min" | "max" =>
    if args.any (·.isNull) then .ok .null
    else
      let better (a b : Value) : Value :=
        let o := Value.order b a
        if nameKey name == "min" then (if o == .lt then b else a) else (if o == .gt then b else a)
      match args with
      | a :: rest => .ok (rest.foldl better a)
      | [] => .ok .null
  | "like" =>
    if args.any (·.isNull) then .ok .null
    else
      let escape := if args.length > 2 then (textChars (arg 2)).head? else none
      .ok (intValue (likeMatch escape 100000 (textChars (arg 0)) (textChars (arg 1))))
  | "glob" =>
    if args.any (·.isNull) then .ok .null
    else .ok (intValue (globMatch 100000 (textChars (arg 0)) (textChars (arg 1))))
  | "unicode" => .ok ((textChars (arg 0)).head?.map (fun c => Value.int c.toNat) |>.getD .null)
  | "char" => .ok (.text (String.ofList (args.map fun v => match v.toNumber with
      | .int i => Char.ofNat i.toNat
      | _ => Char.ofNat 0)))
  | "zeroblob" => .ok (.blob (List.replicate (match (arg 0).toNumber with
      | .int i => i.toNat
      | _ => 0) 0))
  | "round" =>
    if (arg 0).isNull || (args.length > 1 && (arg 1).isNull) then .ok .null
    else
      let digits : Nat := if args.length > 1 then (min 30 (max 0 (arg 1).asInt64)).toNat else 0
      .ok (.real (roundTo (arg 0).asReal digits))
  | "printf" | "format" => .ok (printfCall args)
  | "sign" =>
    match (arg 0).withAffinity .numeric with
    | .int i => .ok (.int (if i < 0 then -1 else if i > 0 then 1 else 0))
    | .real x => .ok (.int (if x.isNaN || x.isZero then 0 else if x.negative then -1 else 1))
    | _ => .ok .null
  | "concat" => .ok (.text (joinPresent "" args))
  | "concat_ws" =>
    match (arg 0).asText? with
    | none => .ok .null
    | some sep => .ok (.text (joinPresent sep args.tail))
  | "unhex" =>
    match (arg 0).asText?, (if args.length > 1 then (arg 1).asText? else some "") with
    | some hex, some skip => .ok ((unhexText hex.toList skip.toList).map Value.blob |>.getD .null)
    | _, _ => .ok .null
  | "randomblob" => .ok (.blob (List.replicate (max 1 (arg 0).asInt64).toNat 0))
  | "likely" | "unlikely" | "likelihood" => .ok (arg 0)
  | "ceil" | "ceiling" | "floor" | "trunc" =>
    match (arg 0).withAffinity .numeric with
    | .int i => .ok (.int i)
    | .real x =>
      let f := x.toFloat
      .ok (.real (Binary64.ofFloat (match nameKey name with
        | "floor" => f.floor
        | "trunc" => if f < 0 then f.ceil else f.floor
        | _ => f.ceil)))
    | _ => .ok .null
  | "ln" | "log" | "log10" | "log2" =>
    match numericReal (arg 0) with
    | none => .ok .null
    | some x =>
      let x := x.toFloat
      if x ≤ 0 then .ok .null
      else if args.length > 1 then
        let b := x.log
        if b ≤ 0 then .ok .null
        else match numericReal (arg 1) with
          | some y => let y := y.toFloat; if y ≤ 0 then .ok .null else .ok (realResult (y.log / b))
          | none => .ok .null
      else .ok (realResult (match nameKey name with
        | "ln" => x.log
        | "log2" => x.log2
        | _ => x.log10))
  | "exp" | "sqrt" | "sin" | "cos" | "tan" | "asin" | "acos" | "atan" | "sinh" | "cosh" | "tanh"
  | "asinh" | "acosh" | "atanh" | "degrees" | "radians" =>
    match numericReal (arg 0) with
    | none => .ok .null
    | some x =>
      let x := x.toFloat
      .ok (realResult (match nameKey name with
        | "exp" => x.exp
        | "sqrt" => x.sqrt
        | "sin" => x.sin
        | "cos" => x.cos
        | "tan" => x.tan
        | "asin" => x.asin
        | "acos" => x.acos
        | "atan" => x.atan
        | "sinh" => x.sinh
        | "cosh" => x.cosh
        | "tanh" => x.tanh
        | "asinh" => x.asinh
        | "acosh" => x.acosh
        | "atanh" => x.atanh
        | "degrees" => x * (180.0 / piFloat)
        | _ => x * (piFloat / 180.0)))
  | "pow" | "power" | "atan2" | "mod" =>
    match numericReal (arg 0), numericReal (arg 1) with
    | some x, some y =>
      if nameKey name == "mod" then .ok (fmod x y)
      else .ok (realResult (if nameKey name == "atan2" then Float.atan2 x.toFloat y.toFloat
        else x.toFloat.pow y.toFloat))
    | _, _ => .ok .null
  | "pi" => .ok (.real (Binary64.ofFloat piFloat))
  | "random" => .ok (.int 0)
  | "changes" => .ok (.int 0)
  | "last_insert_rowid" => .ok (.int 0)
  | _ => .error { message := "no such function: " ++ name }

def aggregateCall (name : String) (star : Bool) (values : List (List Value)) (c : Collation := .binary) :
    Except SqlError Value :=
  let firsts := values.map fun vs => (vs.head?).getD .null
  let present := firsts.filter (!·.isNull)
  match nameKey name with
  | "count" => .ok (.int (if star then values.length else present.length))
  | "sum" | "total" | "avg" =>
    let nums := present.map Value.toNumber
    let allInt := nums.all fun | .int _ => true | _ => false
    let total : Int := nums.foldl (fun acc v => match v with | .int i => acc + i | _ => acc) 0
    let realSum := nums.foldl (fun acc v => match v with
      | .int i => acc.add (Binary64.ofInt i)
      | .real x => acc.add x
      | _ => acc) (Binary64.zero false)
    match nameKey name with
    | "sum" =>
      if present.isEmpty then .ok .null
      else if allInt then
        if minInt ≤ total ∧ total ≤ maxInt then .ok (.int total) else .error { message := "integer overflow" }
      else .ok (.real realSum)
    | "total" => .ok (.real realSum)
    | _ =>
      if present.isEmpty then .ok .null
      else .ok (.real (realSum.div (Binary64.ofNat present.length)))
  | "min" | "max" =>
    let better (a b : Value) : Value :=
      let o := Value.orderBy c b a
      if nameKey name == "min" then (if o == .lt then b else a) else (if o == .gt then b else a)
    match present with
    | a :: rest => .ok (rest.foldl better a)
    | [] => .ok .null
  | "group_concat" | "string_agg" =>
    let sep := match values.head? with
      | some [_, s] => s.asText?.getD ","
      | _ => ","
    let texts := (values.filter fun vs => !((vs.head?).getD .null).isNull).map fun vs =>
      ((vs.head?).getD .null).asText?.getD ""
    if texts.isEmpty then .ok .null else .ok (.text (sep.intercalate texts))
  | _ => .error { message := "no such function: " ++ name }

end Sql

end KvStore
