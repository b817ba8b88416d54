import KvStore.Toml.Token

namespace KvStore

namespace Toml

/-- A part of a key: the bytes it covers and its quoting, none for a bare part. -/
structure KeyPart where
  start : Nat
  stop : Nat
  quoting : Option Quoting
  deriving Repr, BEq, Inhabited

inductive Syn where
  | scalar (start stop : Nat) (quoting : Option Quoting)
  | array (items : List Syn) (start stop : Nat)
  | inline (pairs : List (List KeyPart × Syn)) (start stop : Nat)
  deriving Repr, Inhabited

/-- A line that carries something: a pair, a table header or an array-of-tables header
with the bytes the header covers. -/
inductive Line where
  | pair (key : List KeyPart) (value : Syn)
  | table (key : List KeyPart) (start stop : Nat)
  | tables (key : List KeyPart) (start stop : Nat)
  deriving Repr, Inhabited

structure Source where
  bytes : ByteArray
  tokens : Array Token

abbrev Parser := ReaderT Source (StateT Nat (Except Failure))

namespace Parser

def current : Parser Token := do
  let src ← read
  let i ← get
  pure (src.tokens[i]?.getD ⟨.eof, src.bytes.size, src.bytes.size⟩)

def advance : Parser Unit := modify (· + 1)

def failAt {α : Type} (message : String) (start stop : Nat) : Parser α :=
  throw { message, span := ⟨start, stop⟩ }

/-- The end of the last token before the current one that is not a blank, a comment
or a line break. -/
def lastSolidStop : Parser Nat := do
  let src ← read
  let i ← get
  let before := (src.tokens.toList.take i).reverse
  pure ((before.find? (!·.isTrivia)).map (·.stop) |>.getD 0)

end Parser

open KvStore.Toml.Parser

def checkComment (b : ByteArray) (t : Token) : Except Failure Unit :=
  match (List.range (t.stop - t.start)).find? (fun k =>
      let c := (byteAt b (t.start + k)).getD 32
      !(c == 9 || (c ≥ 0x20 && c != 0x7F))) with
  | some k => .error { message := "invalid comment character, expected printable characters",
                       span := ⟨t.start + k, t.start + k⟩ }
  | none => .ok ()

def checkNewline (b : ByteArray) (t : Token) : Except Failure Unit :=
  if t.stop = t.start + 1 && byteAt b t.start == some 13 then
    .error { message := "carriage return must be followed by newline, expected newline",
             span := ⟨t.stop, t.stop⟩ }
  else .ok ()

def takeTrivia (t : Token) : Parser Unit := do
  let src ← read
  match t.kind with
  | .comment => match checkComment src.bytes t with
    | .ok () => advance
    | .error e => throw e
  | .newline => match checkNewline src.bytes t with
    | .ok () => advance
    | .error e => throw e
  | _ => advance

def skipBlanks : Nat → Parser Unit
  | 0 => pure ()
  | fuel + 1 => do
    let t ← current
    if t.kind == .blank then advance; skipBlanks fuel

def skipTrivia : Nat → Parser Unit
  | 0 => pure ()
  | fuel + 1 => do
    let t ← current
    if t.isTrivia then takeTrivia t; skipTrivia fuel

def simpleKey : Parser KeyPart := do
  let t ← current
  match t.kind with
  | .atom => advance; pure ⟨t.start, t.stop, none⟩
  | .quoted q => advance; pure ⟨t.start, t.stop, some q⟩
  | _ => pure ⟨t.start, t.start, none⟩

def dottedRest : Nat → List KeyPart → Parser (List KeyPart)
  | 0, acc => pure acc
  | n + 1, acc => do
    let src ← read
    let save ← get
    skipBlanks src.tokens.size
    let t ← current
    if t.kind == .dot then
      advance
      skipBlanks src.tokens.size
      let k ← simpleKey
      dottedRest n (acc ++ [k])
    else
      set save
      pure acc

def key : Parser (List KeyPart) := do
  let src ← read
  let first ← simpleKey
  dottedRest src.tokens.size [first]

/-- The end of a bare value starting at token `i`: it takes atoms and dots, and a blank
followed by an atom. -/
def bareEnd (ts : Array Token) : Nat → Nat → Nat
  | 0, i => i
  | fuel + 1, i =>
    match ts[i]? with
    | some t =>
      if t.kind == .atom || t.kind == .dot then bareEnd ts fuel (i + 1)
      else if t.kind == .blank && (ts[i + 1]?.map (·.kind == .atom)).getD false then
        bareEnd ts fuel (i + 2)
      else i
    | none => i

inductive InlineState where
  | needsKey
  | needsEquals (key : List KeyPart)
  | needsValue (key : List KeyPart)
  | needsComma
  deriving Repr, Inhabited

mutual

/-- Reads a value at the current token; where none starts, the value is an empty bare
word there and nothing is taken. -/
def value : Nat → Parser Syn
  | 0 => do
    let t ← current
    failAt "recursion limit exceeded" t.start t.stop
  | fuel + 1 => do
    let t ← current
    match t.kind with
    | .quoted q => advance; pure (.scalar t.start t.stop (some q))
    | .atom | .dot =>
      let src ← read
      let i ← get
      let j := bareEnd src.tokens (src.tokens.size + 1) i
      let last := src.tokens[j - 1]?.getD t
      set j
      pure (.scalar t.start last.stop none)
    | .openBracket => advance; arrayItems fuel t true []
    | .openBrace => advance; inlineItems fuel t .needsKey []
    | _ => pure (.scalar t.start t.start none)

def arrayItems : Nat → Token → Bool → List Syn → Parser Syn
  | 0, _, _, _ => do
    let t ← current
    failAt "recursion limit exceeded" t.start t.stop
  | fuel + 1, opening, needsValue, acc => do
    let t ← current
    match t.kind with
    | .blank | .comment | .newline => takeTrivia t; arrayItems fuel opening needsValue acc
    | .comma =>
      if needsValue then failAt "extra comma in array, expected value" t.start t.stop
      else advance; arrayItems fuel opening true acc
    | .closeBracket => advance; pure (.array acc.reverse opening.start t.stop)
    | .eof =>
      let at_ ← lastSolidStop
      failAt "unclosed array, expected `]`" at_ at_
    | .quoted _ | .atom | .dot | .openBracket | .openBrace =>
      if needsValue then
        let v ← value fuel
        arrayItems fuel opening false (v :: acc)
      else failAt "missing comma between array elements, expected `,`" t.start t.stop
    | _ => failAt "unclosed array, expected `]`" t.start t.stop

def inlineItems : Nat → Token → InlineState → List (List KeyPart × Syn) → Parser Syn
  | 0, _, _, _ => do
    let t ← current
    failAt "recursion limit exceeded" t.start t.stop
  | fuel + 1, opening, st, acc => do
    let t ← current
    let close : Parser Syn := do
      advance
      pure (.inline acc.reverse opening.start t.stop)
    match t.kind, st with
    | .blank, _ | .comment, _ | .newline, _ => takeTrivia t; inlineItems fuel opening st acc
    | .eof, _ =>
      let at_ ← lastSolidStop
      failAt "unclosed inline table, expected `\x7d`" at_ at_
    | .closeBrace, .needsKey | .closeBrace, .needsComma => close
    | .closeBrace, .needsValue k =>
      advance
      pure (.inline ((k, .scalar t.start t.start none) :: acc).reverse opening.start t.stop)
    | .comma, .needsKey => failAt "extra comma in inline table, expected key" t.start t.stop
    | .comma, .needsComma => advance; inlineItems fuel opening .needsKey acc
    | .comma, .needsValue k =>
      advance
      inlineItems fuel opening .needsKey ((k, .scalar t.start t.start none) :: acc)
    | .closeBrace, .needsEquals _ | .comma, .needsEquals _ =>
      failAt "missing assignment between key-value pairs, expected `=`" t.start t.stop
    | .equals, .needsKey => advance; inlineItems fuel opening (.needsValue [⟨t.start, t.start, none⟩]) acc
    | .equals, .needsEquals k => advance; inlineItems fuel opening (.needsValue k) acc
    | .equals, .needsValue _ =>
      failAt "extra assignment between key-value pairs, expected value" t.start t.stop
    | .equals, .needsComma =>
      failAt "extra assignment between key-value pairs, expected `,`" t.start t.stop
    | .atom, .needsKey | .quoted _, .needsKey | .dot, .needsKey =>
      let k ← key
      inlineItems fuel opening (.needsEquals k) acc
    | .atom, .needsEquals _ | .quoted _, .needsEquals _ | .dot, .needsEquals _ =>
      failAt "missing assignment between key-value pairs, expected `=`" t.start t.stop
    | _, .needsValue k =>
      let v ← value fuel
      inlineItems fuel opening .needsComma ((k, v) :: acc)
    | _, .needsComma => failAt "missing comma between key-value pairs, expected `,`" t.start t.stop
    | _, _ => failAt "unclosed inline table, expected `\x7d`" t.start t.stop

end

/-- Reads the end of a line: blanks, an optional comment, then a line break or the end
of the document. -/
def lineEnd : Parser Unit := do
  let src ← read
  skipBlanks src.tokens.size
  let t ← current
  match t.kind with
  | .comment =>
    takeTrivia t
    let u ← current
    match u.kind with
    | .newline => takeTrivia u
    | .eof => pure ()
    | _ => failAt "unexpected content, expected nothing" u.start u.stop
  | .newline => takeTrivia t
  | .eof => pure ()
  | _ => failAt "unexpected content, expected nothing" t.start t.stop

def pairLine : Parser Line := do
  let src ← read
  let k ← key
  skipBlanks src.tokens.size
  let t ← current
  if t.kind != .equals then failAt "key with no value, expected `=`" t.start t.stop
  advance
  skipBlanks src.tokens.size
  let v ← value (2 * src.tokens.size + 2)
  lineEnd
  pure (.pair k v)

def headerLine (opening : Token) : Parser Line := do
  let src ← read
  advance
  let t ← current
  let many := t.kind == .openBracket && t.start == opening.stop
  if many then advance
  skipBlanks src.tokens.size
  let k ← key
  skipBlanks src.tokens.size
  let close ← current
  let unclosed := if many then "unclosed array table, expected `]`" else "unclosed table, expected `]`"
  if close.kind != .closeBracket then failAt unclosed close.start close.stop
  advance
  let stop ← if many then do
      let second ← current
      if second.kind != .closeBracket then failAt unclosed second.start second.stop
      advance
      pure second.stop
    else pure close.stop
  lineEnd
  pure (if many then .tables k opening.start stop else .table k opening.start stop)

def lines : Nat → List Line → Parser (List Line)
  | 0, acc => pure acc.reverse
  | fuel + 1, acc => do
    let t ← current
    match t.kind with
    | .eof => pure acc.reverse
    | .blank | .comment | .newline => takeTrivia t; lines fuel acc
    | .openBracket => let l ← headerLine t; lines fuel (l :: acc)
    | .closeBracket => failAt "missing table open, expected `[`" t.start t.stop
    | .comma | .openBrace | .closeBrace => failAt "missing key, expected key" t.start t.stop
    | _ => let l ← pairLine; lines fuel (l :: acc)

def readLines (bytes : ByteArray) : Except Failure (List Line) :=
  let tokens := tokenize bytes
  ((lines (tokens.size + 1) []).run ⟨bytes, tokens⟩ |>.run 0).map (·.1)

end Toml

end KvStore
