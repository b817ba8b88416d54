import KvStore.Toml.Value

namespace KvStore

namespace Toml

inductive Quoting where
  | basic
  | literal
  | multiBasic
  | multiLiteral
  deriving Repr, BEq, DecidableEq, Inhabited

inductive TokenKind where
  | dot
  | equals
  | comma
  | openBracket
  | closeBracket
  | openBrace
  | closeBrace
  | blank
  | comment
  | newline
  | quoted (q : Quoting)
  | atom
  | eof
  deriving Repr, BEq, DecidableEq, Inhabited

/-- A token: its kind and the byte range `[start, stop)` it covers. -/
structure Token where
  kind : TokenKind
  start : Nat
  stop : Nat
  deriving Repr, BEq, Inhabited

namespace Token

def isTrivia (t : Token) : Bool :=
  t.kind == .blank || t.kind == .comment || t.kind == .newline

def span (t : Token) : Span := ⟨t.start, t.stop⟩

end Token

def byteAt (b : ByteArray) (i : Nat) : Option UInt8 :=
  if h : i < b.size then some b[i] else none

def scanWhile (p : UInt8 → Bool) (b : ByteArray) (i : Nat) : Nat :=
  if h : i < b.size then
    if p b[i] then scanWhile p b (i + 1) else i
  else i
termination_by b.size - i

def startsToken (c : UInt8) : Bool :=
  c == 46 || c == 61 || c == 44 || c == 91 || c == 93 || c == 123 || c == 125 ||
    c == 32 || c == 9 || c == 35 || c == 13 || c == 10 || c == 39 || c == 34

def runOf (q : UInt8) (b : ByteArray) (i : Nat) : Nat := scanWhile (· == q) b i - i

/-- The end of a one-line basic string whose body starts at `i`: past its closing
quote, or at the line break or end that cuts it off. A backslash takes the byte after
it, unless that is a line break. -/
def basicEnd (b : ByteArray) (i : Nat) : Nat :=
  if h : i < b.size then
    let c := b[i]
    if c == 34 then i + 1
    else if c == 10 then i
    else if c == 92 then
      if byteAt b (i + 1) == some 10 || i + 1 ≥ b.size then i + 1 else basicEnd b (i + 2)
    else basicEnd b (i + 1)
  else i
termination_by b.size - i

def literalEnd (b : ByteArray) (i : Nat) : Nat :=
  if h : i < b.size then
    let c := b[i]
    if c == 39 then i + 1
    else if c == 10 then i
    else literalEnd b (i + 1)
  else i
termination_by b.size - i

/-- The end of a multi-line string closed by three `q` bytes, whose body starts at `i`;
up to two more quotes before the closing ones belong to the body. Backslashes take the
byte after them when `escapes`. -/
def multiEnd (q : UInt8) (escapes : Bool) (b : ByteArray) (i : Nat) : Nat :=
  if h : i < b.size then
    let c := b[i]
    if escapes && c == 92 then
      if i + 1 ≥ b.size then i + 1 else multiEnd q escapes b (i + 2)
    else if c == q then
      let n := runOf q b i
      if n ≥ 3 then i + min n 5 else multiEnd q escapes b (i + max n 1)
    else multiEnd q escapes b (i + 1)
  else i
termination_by b.size - i
decreasing_by all_goals omega

def tokenAt (b : ByteArray) (i : Nat) : Token :=
  match byteAt b i with
  | none => ⟨.eof, i, i⟩
  | some c =>
    let one (k : TokenKind) : Token := ⟨k, i, i + 1⟩
    if c == 46 then one .dot
    else if c == 61 then one .equals
    else if c == 44 then one .comma
    else if c == 91 then one .openBracket
    else if c == 93 then one .closeBracket
    else if c == 123 then one .openBrace
    else if c == 125 then one .closeBrace
    else if c == 32 || c == 9 then ⟨.blank, i, scanWhile (fun d => d == 32 || d == 9) b i⟩
    else if c == 35 then ⟨.comment, i, scanWhile (fun d => d != 10 && d != 13) b i⟩
    else if c == 10 then one .newline
    else if c == 13 then ⟨.newline, i, if byteAt b (i + 1) == some 10 then i + 2 else i + 1⟩
    else if c == 39 then
      if runOf 39 b i ≥ 3 then ⟨.quoted .multiLiteral, i, multiEnd 39 false b (i + 3)⟩
      else ⟨.quoted .literal, i, literalEnd b (i + 1)⟩
    else if c == 34 then
      if runOf 34 b i ≥ 3 then ⟨.quoted .multiBasic, i, multiEnd 34 true b (i + 3)⟩
      else ⟨.quoted .basic, i, basicEnd b (i + 1)⟩
    else if c == 0xEF && i == 0 && byteAt b 1 == some 0xBB && byteAt b 2 == some 0xBF then
      ⟨.blank, 0, 3⟩
    else ⟨.atom, i, scanWhile (fun d => !startsToken d) b (i + 1)⟩

/-- The tokens from offset `i` on, ending with the end-of-input token. Every token
but the last covers at least one byte, so `fuel` beyond the bytes left is enough. -/
def tokensFrom (b : ByteArray) : Nat → Nat → List Token
  | 0, i => [⟨.eof, i, i⟩]
  | fuel + 1, i =>
    let t := tokenAt b i
    if t.kind == .eof || t.stop ≤ i then [⟨.eof, i, i⟩]
    else t :: tokensFrom b fuel t.stop

def tokenize (b : ByteArray) : Array Token := (tokensFrom b (b.size + 1) 0).toArray

end Toml

end KvStore
