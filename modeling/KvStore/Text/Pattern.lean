import KvStore.Text.Hex

namespace KvStore

namespace Pattern

def isMeta (c : Char) : Bool := "\\.+*?()|[]{}^$#&-~".toList.contains c

/-- Escaping an ASCII character that is neither a letter nor a digit gives the
character itself; `<` and `>` are kept for word boundaries. -/
def isEscapable (c : Char) : Bool :=
  isMeta c || (c.toNat < 128 && !c.isAlphanum && c != '<' && c != '>')

inductive Escape where
  | literal (code : Nat)
  | set
  | anchor
  deriving Repr, BEq, Inhabited

def hexValue (ds : List Char) : Option Nat :=
  ds.foldlM (fun acc c => (Hex.digitValue c).map (acc * 16 + ·)) 0

def isScalar (n : Nat) : Bool := n ≤ 0x10FFFF && !(0xD800 ≤ n && n ≤ 0xDFFF)

/-- A character given in hexadecimal after `\x`, `\u` or `\U`: exactly `width` digits,
or any number of them between braces. -/
def hexEscape (width : Nat) (cs : List Char) : Option (Escape × List Char) :=
  match cs with
  | '\x7b' :: rest =>
    let ds := rest.takeWhile (· != '\x7d')
    match rest.drop ds.length with
    | '\x7d' :: after =>
      if ds.isEmpty || ds.length > 8 then none
      else do
        let n ← hexValue ds
        if isScalar n then some (.literal n, after) else none
    | _ => none
  | _ =>
    let ds := cs.take width
    if ds.length < width then none
    else do
      let n ← hexValue ds
      if isScalar n then some (.literal n, cs.drop width) else none

def isCategoryLetter (c : Char) : Bool := "CLMNPSZ".toList.contains c

def escape (cs : List Char) : Option (Escape × List Char) :=
  match cs with
  | [] => none
  | c :: rest =>
    if isEscapable c then some (.literal c.toNat, rest)
    else match c with
      | 'a' => some (.literal 7, rest)
      | 'f' => some (.literal 12, rest)
      | 't' => some (.literal 9, rest)
      | 'n' => some (.literal 10, rest)
      | 'r' => some (.literal 13, rest)
      | 'v' => some (.literal 11, rest)
      | 'd' | 'D' | 's' | 'S' | 'w' | 'W' => some (.set, rest)
      | 'A' | 'z' => some (.anchor, rest)
      | 'x' => hexEscape 2 rest
      | 'u' => hexEscape 4 rest
      | 'U' => hexEscape 8 rest
      | 'p' | 'P' =>
        match rest with
        | '\x7b' :: more =>
          let name := more.takeWhile (· != '\x7d')
          match more.drop name.length with
          | '\x7d' :: after => if name.isEmpty then none else some (.set, after)
          | _ => none
        | l :: after => if isCategoryLetter l then some (.set, after) else none
        | [] => none
      | _ => none

def asciiClasses : List String :=
  ["alnum", "alpha", "ascii", "blank", "cntrl", "digit", "graph", "lower", "print",
   "punct", "space", "upper", "word", "xdigit"]

def asciiClass (cs : List Char) : Option (List Char) :=
  match cs with
  | ':' :: rest =>
    let body := match rest with
      | '^' :: r => r
      | r => r
    let name := body.takeWhile (· != ':')
    match body.drop name.length with
    | ':' :: ']' :: after => if asciiClasses.contains (String.ofList name) then some after else none
    | _ => none
  | _ => none

def classMember (cs : List Char) : Option (Escape × List Char) :=
  match cs with
  | '\\' :: rest => escape rest
  | c :: rest => some (.literal c.toNat, rest)
  | [] => none

/-- Reads the members of a bracketed class up to and past its closing bracket. A
leading `]` is a member; nested classes, ASCII classes, ranges `a-z` with ordered
ends and the operators `&&`, `--`, `~~` may appear. -/
def classBody : Nat → Bool → List Char → Option (List Char)
  | 0, _, _ => none
  | fuel + 1, first, cs =>
    match cs with
    | [] => none
    | ']' :: rest => if first then classBody fuel false rest else some rest
    | '[' :: rest =>
      match asciiClass rest with
      | some after => classBody fuel false after
      | none =>
        let inner := match rest with
          | '^' :: r => r
          | r => r
        match classBody fuel true inner with
        | some after => classBody fuel false after
        | none => none
    | '&' :: '&' :: rest => classBody fuel false rest
    | '-' :: '-' :: rest => if first then classBody fuel false ('-' :: rest) else classBody fuel false rest
    | '~' :: '~' :: rest => classBody fuel false rest
    | _ =>
      match classMember cs with
      | none => none
      | some (.anchor, _) => none
      | some (.set, rest) =>
        match rest with
        | '-' :: r => if r.head? == some ']' then classBody fuel false r else
            if r.head? == some '-' then classBody fuel false rest else none
        | _ => classBody fuel false rest
      | some (.literal lo, rest) =>
        match rest with
        | '-' :: r =>
          if r.head? == some ']' || r.head? == some '-' || r.isEmpty then classBody fuel false rest
          else match classMember r with
            | some (.literal hi, after) => if lo ≤ hi then classBody fuel false after else none
            | _ => none
        | _ => classBody fuel false rest

def isFlag (c : Char) : Bool := "imsUuxR".toList.contains c

/-- Reads the flags of `(?flags:` or `(?flags)`: no flag twice, at most one `-`, and
the `-` followed by a flag. Returns whether the group is a bare setting of flags. -/
def flags : Nat → List Char → Bool → Bool → List Char → Option (Bool × List Char)
  | 0, _, _, _, _ => none
  | fuel + 1, seen, negated, afterMinus, cs =>
    match cs with
    | ':' :: rest => if afterMinus then none else some (false, rest)
    | ')' :: rest => if afterMinus || (seen.isEmpty && !negated) then none else some (true, rest)
    | '-' :: rest => if negated then none else flags fuel seen true true rest
    | c :: rest =>
      if isFlag c && !seen.contains c then flags fuel (c :: seen) negated false rest else none
    | [] => none

def isNameStart (c : Char) : Bool := c.isAlpha || c == '_'

def isNameChar (c : Char) : Bool := c.isAlphanum || c == '_' || c == '.' || c == '[' || c == ']'

def groupName (cs : List Char) : Option (List Char) :=
  let name := cs.takeWhile (· != '>')
  match cs.drop name.length, name with
  | '>' :: rest, c :: more => if isNameStart c && more.all isNameChar then some rest else none
  | _, _ => none

def counted (cs : List Char) : Option (List Char) :=
  let lo := cs.takeWhile Char.isDigit
  let value (ds : List Char) : Nat := ds.foldl (fun n d => n * 10 + (d.toNat - 48)) 0
  let fits (ds : List Char) : Bool := value ds < Nat.pow 2 32
  match cs.drop lo.length with
  | '\x7d' :: rest => if lo.isEmpty || !fits lo then none else some rest
  | ',' :: more =>
    let hi := more.takeWhile Char.isDigit
    match more.drop hi.length with
    | '\x7d' :: rest =>
      if lo.isEmpty && hi.isEmpty then none
      else if !fits lo || !fits hi then none
      else if !lo.isEmpty && !hi.isEmpty && value hi < value lo then none
      else some rest
    | _ => none
  | _ => none

def scan : Nat → Nat → Bool → List Char → Bool
  | 0, _, _, _ => false
  | fuel + 1, depth, atom, cs =>
    match cs with
    | [] => depth == 0
    | '*' :: rest | '+' :: rest | '?' :: rest => atom && scan fuel depth true rest
    | '\x7b' :: rest =>
      atom && match counted rest with
        | some after => scan fuel depth true after
        | none => false
    | '|' :: rest => scan fuel depth false rest
    | ')' :: rest => depth > 0 && scan fuel (depth - 1) true rest
    | '(' :: '?' :: 'P' :: '<' :: rest | '(' :: '?' :: '<' :: rest =>
      match groupName rest with
      | some after => scan fuel (depth + 1) false after
      | none => false
    | '(' :: '?' :: rest =>
      match flags rest.length [] false false rest with
      | some (true, after) => scan fuel depth false after
      | some (false, after) => scan fuel (depth + 1) false after
      | none => false
    | '(' :: rest => scan fuel (depth + 1) false rest
    | '[' :: rest =>
      let inner := match rest with
        | '^' :: r => r
        | r => r
      match classBody inner.length true inner with
      | some after => scan fuel depth true after
      | none => false
    | '\\' :: rest =>
      match escape rest with
      | some (_, after) => scan fuel depth true after
      | none => false
    | _ :: rest => scan fuel depth true rest

def compiles (s : String) : Bool := scan (s.length + 1) 0 false s.toList

end Pattern

end KvStore
