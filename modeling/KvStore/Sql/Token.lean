import KvStore.Sql.Value

namespace KvStore

namespace Sql

inductive TokenKind where
  | word (text : String)
  /-- An identifier in double quotes: it may stand for a string when no column has
  its name. -/
  | quoted (text : String)
  | bracketed (text : String)
  | str (text : String)
  | blob (bytes : List UInt8)
  | int (n : Nat)
  | real (x : Binary64)
  | param (index : Option Nat)
  | named (name : String)
  | op (text : String)
  deriving Repr, BEq, Inhabited

structure Token where
  kind : TokenKind
  offset : Nat
  text : String
  deriving Repr, Inhabited

/-- What a failure undoes: the statement that failed, nothing (the rows it wrote before
the failure stay), or the whole open transaction. -/
inductive Undo where
  | statement
  | nothing
  | transaction
  deriving Repr, BEq, Inhabited

/-- A failure to read SQL text, with the offset of the token at fault when the message
names one. -/
structure SqlError where
  message : String
  offset : Option Nat := none
  /-- Set by `RAISE(IGNORE)`: the row a trigger runs for is to be left alone. -/
  ignoreRow : Bool := false
  undo : Undo := .statement
  deriving Repr, BEq, Inhabited

/-- A failure inside a view or trigger, as a statement that uses it reports it: a
missing table is named in the main schema, and no place in the statement's text is
given. -/
def SqlError.inSchema (e : SqlError) : SqlError :=
  let missing := "no such table: "
  let rest := (e.message.drop missing.length).toString
  { e with
    offset := none
    message := if e.message.startsWith missing && !rest.startsWith "main." then missing ++ "main." ++ rest
      else e.message }

namespace Lexer

def isIdentStart (c : Char) : Bool := c.isAlpha || c == '_' || c.toNat ≥ 0x80

def isIdentChar (c : Char) : Bool := isIdentStart c || c.isDigit || c == '$'

def byteLength (cs : List Char) : Nat := cs.foldl (fun n c => n + c.utf8Size) 0

/-- Reads a quoted body up to the closing `close`, a doubled `close` standing for one.
Returns the body and the rest after the closing character. -/
def quotedBody (close : Char) : List Char → List Char → Option (List Char × List Char)
  | [], _ => none
  | c :: rest, acc =>
    if c == close then
      match rest with
      | d :: rest' => if d == close then quotedBody close rest' (c :: acc) else some (acc.reverse, rest)
      | [] => some (acc.reverse, [])
    else quotedBody close rest (c :: acc)

def blockCommentEnd : List Char → List Char
  | [] => []
  | '*' :: '/' :: rest => rest
  | _ :: rest => blockCommentEnd rest

def hexPairs : List Char → Option (List UInt8)
  | [] => some []
  | a :: b :: rest => do
    let hi ← Hex.digitValue a
    let lo ← Hex.digitValue b
    let tail ← hexPairs rest
    pure ((hi * 16 + lo).toUInt8 :: tail)
  | [_] => none

def digitValue (ds : List Char) : Nat := ds.foldl (fun n d => n * 10 + (d.toNat - 48)) 0

def operators : List String :=
  ["->>", "->", "<>", "<=", ">=", "==", "!=", "||", "<<", ">>", "(", ")", ",", ";", ".", "*", "+", "-",
    "/", "%", "=", "<", ">", "&", "|", "~"]

def number (cs : List Char) : TokenKind × List Char × Bool :=
  match cs with
  | '0' :: x :: rest =>
    if x == 'x' || x == 'X' then
      let ds := rest.takeWhile (fun c => (Hex.digitValue c).isSome)
      let n := ds.foldl (fun n d => n * 16 + (Hex.digitValue d).getD 0) 0
      (.int n, rest.drop ds.length, !ds.isEmpty)
    else decimal cs
  | _ => decimal cs
where
  decimal (cs : List Char) : TokenKind × List Char × Bool :=
    let intDigits := cs.takeWhile Char.isDigit
    let rest := cs.drop intDigits.length
    let (frac, rest, hasPoint) := match rest with
      | '.' :: r => let f := r.takeWhile Char.isDigit; (f, r.drop f.length, true)
      | _ => ([], rest, false)
    let (expo, rest, ok) := match rest with
      | 'e' :: r | 'E' :: r =>
        let (neg, r') := match r with
          | '-' :: q => (true, q)
          | '+' :: q => (false, q)
          | _ => (false, r)
        let ds := r'.takeWhile Char.isDigit
        let v : Int := digitValue ds
        ((if neg then -v else v), r'.drop ds.length, !ds.isEmpty)
      | _ => (0, rest, true)
    if !hasPoint && expo == 0 && rest.length == (cs.drop intDigits.length).length then
      (.int (digitValue intDigits), rest, ok)
    else
      let m := digitValue (intDigits ++ frac)
      let e10 : Int := expo - frac.length
      let x := if 0 ≤ e10 then Binary64.ofRatio false (m * Nat.pow 10 e10.toNat) 1
        else Binary64.ofRatio false m (Nat.pow 10 (-e10).toNat)
      (.real x, rest, ok && !(intDigits.isEmpty && frac.isEmpty))

/-- Splits SQL text into tokens, within `fuel` steps: the tokens before the first text
that is no token, and the error that text makes. -/
def tokens (fuel : Nat) (cs : List Char) (offset : Nat) (acc : List Token) :
    List Token × Option SqlError :=
  match fuel with
  | 0 => (acc.reverse, none)
  | fuel + 1 =>
    let emit (kind : TokenKind) (used rest : List Char) :=
      tokens fuel rest (offset + byteLength used)
        ({ kind, offset, text := String.ofList used } :: acc)
    let unrecognized (used : List Char) : List Token × Option SqlError :=
      (acc.reverse, some { message := "unrecognized token: \"" ++ String.ofList used ++ "\"", offset := some offset })
    match cs with
    | [] => (acc.reverse, none)
    | c :: rest =>
      if c == ' ' || c == '\t' || c == '\n' || c == '\r' || c == '\x0c' then
        tokens fuel rest (offset + 1) acc
      else if c == '-' && rest.head? == some '-' then
        let body := cs.takeWhile (· != '\n')
        tokens fuel (cs.drop body.length) (offset + byteLength body) acc
      else if c == '/' && rest.head? == some '*' then
        let after := blockCommentEnd (rest.drop 1)
        let used := cs.take (cs.length - after.length)
        tokens fuel after (offset + byteLength used) acc
      else if c == '\'' then
        match quotedBody '\'' rest [] with
        | some (body, after) => emit (.str (String.ofList body)) (cs.take (cs.length - after.length)) after
        | none => unrecognized cs
      else if c == '"' then
        match quotedBody '"' rest [] with
        | some (body, after) => emit (.quoted (String.ofList body)) (cs.take (cs.length - after.length)) after
        | none => unrecognized cs
      else if c == '`' then
        match quotedBody '`' rest [] with
        | some (body, after) => emit (.bracketed (String.ofList body)) (cs.take (cs.length - after.length)) after
        | none => unrecognized cs
      else if c == '[' then
        let body := rest.takeWhile (· != ']')
        if rest.length == body.length then unrecognized cs
        else emit (.bracketed (String.ofList body)) (cs.take (body.length + 2)) (rest.drop (body.length + 1))
      else if (c == 'x' || c == 'X') && rest.head? == some '\'' then
        let body := (rest.drop 1).takeWhile (· != '\'')
        let used := cs.take (body.length + 3)
        if (rest.drop 1).length == body.length then unrecognized cs
        else match hexPairs body with
          | some bytes => emit (.blob bytes) used (cs.drop used.length)
          | none => unrecognized used
      else if c.isDigit || (c == '.' && (rest.head?.map Char.isDigit).getD false) then
        let (kind, after, ok) := number cs
        let after' := after.dropWhile isIdentChar
        let used := cs.take (cs.length - after'.length)
        if ok && after'.length == after.length then emit kind used after else unrecognized used
      else if c == '?' then
        let ds := rest.takeWhile Char.isDigit
        emit (.param (if ds.isEmpty then none else some (digitValue ds))) (cs.take (ds.length + 1)) (rest.drop ds.length)
      else if c == ':' || c == '@' || c == '$' then
        let name := rest.takeWhile isIdentChar
        if name.isEmpty then unrecognized [c]
        else emit (.named (String.ofList (c :: name))) (cs.take (name.length + 1)) (rest.drop name.length)
      else if isIdentStart c then
        let word := cs.takeWhile isIdentChar
        emit (.word (String.ofList word)) word (cs.drop word.length)
      else
        match operators.find? (fun o => o.toList.isPrefixOf cs) with
        | some o => emit (.op o) o.toList (cs.drop o.length)
        | none => unrecognized [c]

end Lexer

/-- The tokens of SQL text up to the first text that is no token, with the error that
text makes. -/
def tokenizePrefix (sql : String) : List Token × Option SqlError :=
  Lexer.tokens (sql.length + 1) sql.toList 0 []

def tokenize (sql : String) : Except SqlError (List Token) :=
  match tokenizePrefix sql with
  | (ts, none) => .ok ts
  | (_, some e) => .error e

end Sql

end KvStore
