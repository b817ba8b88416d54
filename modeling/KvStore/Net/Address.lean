namespace KvStore

namespace Net

def digitIn (radix : Nat) (c : Char) : Option Nat :=
  if '0' ≤ c ∧ c ≤ '9' ∧ c.toNat - 48 < radix then some (c.toNat - 48)
  else if radix == 16 then
    if 'a' ≤ c ∧ c ≤ 'f' then some (c.toNat - 87)
    else if 'A' ≤ c ∧ c ≤ 'F' then some (c.toNat - 55)
    else none
  else none

/-- Reads a number below `bound` of at most `maxDigits` digits; more digits than that,
or a leading zero when it is not allowed, is no number. -/
def readNumber (radix maxDigits bound : Nat) (zeroPrefix : Bool) (cs : List Char) :
    Option (Nat × List Char) :=
  let digits := cs.takeWhile fun c => (digitIn radix c).isSome
  let value := digits.foldl (fun acc c => acc * radix + (digitIn radix c).getD 0) 0
  if digits.isEmpty || digits.length > maxDigits then none
  else if !zeroPrefix && digits.head? == some '0' && digits.length > 1 then none
  else if value ≥ bound then none
  else some (value, cs.drop digits.length)

def afterSeparator {α : Type} (sep : Char) (index : Nat)
    (item : List Char → Option (α × List Char)) (cs : List Char) : Option (α × List Char) :=
  if index == 0 then item cs
  else match cs with
    | c :: rest => if c == sep then item rest else none
    | [] => none

def readIpv4 (cs : List Char) : Option (List Nat × List Char) := do
  let (a, cs) ← afterSeparator '.' 0 (readNumber 10 3 256 false) cs
  let (b, cs) ← afterSeparator '.' 1 (readNumber 10 3 256 false) cs
  let (c, cs) ← afterSeparator '.' 2 (readNumber 10 3 256 false) cs
  let (d, cs) ← afterSeparator '.' 3 (readNumber 10 3 256 false) cs
  pure ([a, b, c, d], cs)

/-- Reads up to `limit` colon-separated groups, the last two of which may be an IPv4
address; gives the groups and whether an IPv4 address ended them. -/
def readGroups : Nat → Nat → List Char → List Nat × Bool × List Char
  | 0, _, cs => ([], false, cs)
  | fuel + 1, index, cs =>
    let ipv4 := if fuel ≥ 1 then afterSeparator ':' index readIpv4 cs else none
    match ipv4 with
    | some (octets, rest) =>
      let o := fun i => octets.getD i 0
      ([o 0 * 256 + o 1, o 2 * 256 + o 3], true, rest)
    | none =>
      match afterSeparator ':' index (readNumber 16 4 65536 true) cs with
      | some (g, rest) =>
        let (gs, v4, rest') := readGroups fuel (index + 1) rest
        (g :: gs, v4, rest')
      | none => ([], false, cs)

def readIpv6 (cs : List Char) : Option (List Nat × List Char) :=
  let (head, headIpv4, rest) := readGroups 8 0 cs
  if head.length == 8 then some (head, rest)
  else if headIpv4 then none
  else match rest with
    | ':' :: ':' :: rest =>
      let (tail, _, rest) := readGroups (8 - (head.length + 1)) 0 rest
      some (head ++ List.replicate (8 - head.length - tail.length) 0 ++ tail, rest)
    | _ => none

def isIpv4 (s : String) : Bool :=
  match readIpv4 s.toList with
  | some (_, []) => true
  | _ => false

def isIpv6 (s : String) : Bool :=
  match readIpv6 s.toList with
  | some (_, []) => true
  | _ => false

def isIpAddress (s : String) : Bool := isIpv4 s || isIpv6 s

inductive SocketAddress where
  | v4 (octets : List Nat) (port : Nat)
  | v6 (groups : List Nat) (scope : Nat) (port : Nat)
  deriving Repr, BEq, Inhabited

def readPort (cs : List Char) : Option (Nat × List Char) :=
  match cs with
  | ':' :: rest => readNumber 10 rest.length 65536 true rest
  | _ => none

def SocketAddress.parse (s : String) : Option SocketAddress :=
  let cs := s.toList
  let v4 : Option SocketAddress := do
    let (octets, rest) ← readIpv4 cs
    let (port, rest) ← readPort rest
    if rest.isEmpty then pure (.v4 octets port) else none
  let v6 : Option SocketAddress := do
    let rest ← match cs with
      | '[' :: rest => some rest
      | _ => none
    let (groups, rest) ← readIpv6 rest
    let (scope, rest) := match rest with
      | '%' :: more =>
        match readNumber 10 more.length (Nat.pow 2 32) true more with
        | some (n, more') => (n, more')
        | none => (0, rest)
      | _ => (0, rest)
    let rest ← match rest with
      | ']' :: rest => some rest
      | _ => none
    let (port, rest) ← readPort rest
    if rest.isEmpty then pure (.v6 groups scope port) else none
  v4.orElse fun _ => v6

def hexText (n : Nat) : String :=
  String.ofList (Nat.toDigits 16 n)

def groupsText (gs : List Nat) : String := ":".intercalate (gs.map hexText)

def longestZeroRun (gs : List Nat) : Nat × Nat :=
  let step := fun (acc : (Nat × Nat) × (Nat × Nat) × Nat) (g : Nat) =>
    let (best, current, i) := acc
    if g == 0 then
      let current := if current.2 == 0 then (i, 1) else (current.1, current.2 + 1)
      let best := if current.2 > best.2 then current else best
      (best, current, i + 1)
    else (best, (0, 0), i + 1)
  (gs.foldl step ((0, 0), (0, 0), 0)).1

def ipv6Text (gs : List Nat) : String :=
  match gs with
  | [0, 0, 0, 0, 0, 0xffff, a, b] =>
    "::ffff:" ++ toString (a / 256) ++ "." ++ toString (a % 256) ++ "." ++ toString (b / 256) ++ "." ++
      toString (b % 256)
  | _ =>
    let (start, len) := longestZeroRun gs
    if len > 1 then groupsText (gs.take start) ++ "::" ++ groupsText (gs.drop (start + len))
    else groupsText gs

def SocketAddress.text : SocketAddress → String
  | .v4 octets port => ".".intercalate (octets.map toString) ++ ":" ++ toString port
  | .v6 groups scope port =>
    "[" ++ ipv6Text groups ++ (if scope == 0 then "" else "%" ++ toString scope) ++ "]:" ++ toString port

end Net

end KvStore
