import KvStore.Net.Address
import KvStore.Text.Blank
import KvStore.Text.Hex

namespace KvStore

namespace Postgres

inductive Host where
  | tcp (name : String)
  | unix (dir : String)
  deriving Repr, BEq, Inhabited

structure ConnConfig where
  hosts : List Host := []
  hostaddrs : List String := []
  ports : List Nat := []
  user : Option String := none
  password : Option (List UInt8) := none
  dbname : Option String := none
  options : Option String := none
  applicationName : Option String := none
  deriving Repr, Inhabited

def decode (s : String) : Except Unit String :=
  match String.fromUTF8? (ByteArray.mk (Hex.percentDecode s.toUTF8.toList).toArray) with
  | some t => .ok t
  | none => .error ()

def parseUnsigned (s : String) (bound : Nat) : Option Nat :=
  let digits := match s.toList with
    | '+' :: rest => rest
    | cs => cs
  if digits.isEmpty || !digits.all Char.isDigit then none
  else
    let n := digits.foldl (fun acc c => acc * 10 + (c.toNat - 48)) 0
    if n < bound then some n else none

def parseSigned (s : String) : Option Int :=
  match s.toList with
  | '-' :: rest =>
    (parseUnsigned (String.ofList rest) (Nat.pow 2 63 + 1)).map fun n => -(n : Int)
  | _ => (parseUnsigned s (Nat.pow 2 63)).map fun n => (n : Int)

namespace ConnConfig

def addHost (c : ConnConfig) (name : String) : ConnConfig :=
  if name.startsWith "/" then { c with hosts := c.hosts ++ [.unix name] }
  else { c with hosts := c.hosts ++ [.tcp name] }

def param (c : ConnConfig) (key value : String) : Except Unit ConnConfig :=
  let check (ok : Bool) : Except Unit ConnConfig := if ok then .ok c else .error ()
  match key with
  | "user" => .ok { c with user := some value }
  | "password" => .ok { c with password := some value.toUTF8.toList }
  | "dbname" => .ok { c with dbname := some value }
  | "options" => .ok { c with options := some value }
  | "application_name" => .ok { c with applicationName := some value }
  | "sslmode" => check (["disable", "prefer", "require"].contains value)
  | "sslnegotiation" => check (["postgres", "direct"].contains value)
  | "host" => .ok ((value.splitOn ",").foldl addHost c)
  | "hostaddr" =>
    let addrs := value.splitOn ","
    if addrs.all Net.isIpAddress then .ok { c with hostaddrs := c.hostaddrs ++ addrs } else .error ()
  | "port" =>
    (value.splitOn ",").foldlM (fun c p =>
      if p.isEmpty then .ok { c with ports := c.ports ++ [5432] }
      else match parseUnsigned p 65536 with
        | some n => .ok { c with ports := c.ports ++ [n] }
        | none => .error ()) c
  | "connect_timeout" | "tcp_user_timeout" | "keepalives_idle" | "keepalives_interval" =>
    check (parseSigned value).isSome
  | "keepalives" => check (parseUnsigned value (Nat.pow 2 64)).isSome
  | "keepalives_retries" => check (parseUnsigned value (Nat.pow 2 32)).isSome
  | "target_session_attrs" => check (["any", "read-write", "read-only"].contains value)
  | "channel_binding" => check (["disable", "prefer", "require"].contains value)
  | "load_balance_hosts" => check (["disable", "random"].contains value)
  | _ => .error ()

end ConnConfig

def takeUntil (s : String) (stops : List Char) : Option (String × String) :=
  let cs := s.toList
  let head := cs.takeWhile fun c => !stops.contains c
  if head.length == cs.length then none
  else some (String.ofList head, String.ofList (cs.drop head.length))

def dropFirst (s : String) : String := String.ofList (s.toList.drop 1)

def hostParam (c : ConnConfig) (s : String) : Except Unit ConnConfig :=
  let bytes := Hex.percentDecode s.toUTF8.toList
  if bytes.head? == some 47 then
    .ok { c with hosts := c.hosts ++ [.unix (String.fromUTF8? (ByteArray.mk bytes.toArray) |>.getD s)] }
  else match String.fromUTF8? (ByteArray.mk bytes.toArray) with
    | some t => .ok { c with hosts := c.hosts ++ [.tcp t] }
    | none => .error ()

def urlCredentials (c : ConnConfig) (s : String) : Except Unit (ConnConfig × String) :=
  match takeUntil s ['@'] with
  | none => .ok (c, s)
  | some (creds, rest) =>
    let (user, password) := match takeUntil creds [':'] with
      | some (u, p) => (u, some (dropFirst p))
      | none => (creds, none)
    match decode user with
    | .error () => .error ()
    | .ok u =>
      let c' : ConnConfig :=
        { c with
          user := some u
          password := password.map fun p => Hex.percentDecode p.toUTF8.toList }
      .ok (c', dropFirst rest)

def urlHost (c : ConnConfig) (chunk : String) : Except Unit ConnConfig := do
  let (host, port) ← if chunk.startsWith "[" then
      match takeUntil chunk [']'] with
      | none => .error ()
      | some (bracketed, rest) =>
        let host := dropFirst bracketed
        let remaining := dropFirst rest
        if remaining.isEmpty then pure (host, none)
        else if remaining.startsWith ":" then pure (host, some (dropFirst remaining))
        else .error ()
    else match takeUntil chunk [':'] with
      | some (h, p) => pure (h, some (dropFirst p))
      | none => pure (chunk, none)
  let c ← hostParam c host
  c.param "port" (← decode (port.getD "5432"))

def urlParams : Nat → ConnConfig → String → Except Unit ConnConfig
  | 0, c, _ => .ok c
  | fuel + 1, c, s =>
    if s.isEmpty then .ok c
    else match takeUntil s ['='] with
      | none => .error ()
      | some (key, rest) => do
        let key ← decode key
        let rest := dropFirst rest
        let (value, rest) := match takeUntil rest ['&'] with
          | some (v, r) => (v, dropFirst r)
          | none => (rest, "")
        let c ← if key == "host" then hostParam c value else c.param key (← decode value)
        urlParams fuel c rest

def parseUrl (s : String) : Except Unit ConnConfig := do
  let (c, s) ← urlCredentials {} s
  let (hostPart, s) := (takeUntil s ['/', '?']).getD (s, "")
  let c ← if hostPart.isEmpty then pure c else (hostPart.splitOn ",").foldlM urlHost c
  let (c, s) ← if s.startsWith "/" then
      let rest := dropFirst s
      let (db, s) := (takeUntil rest ['?']).getD (rest, "")
      if db.isEmpty then pure (c, s) else pure ({ c with dbname := some (← decode db) }, s)
    else pure (c, s)
  if s.startsWith "?" then
    let rest := dropFirst s
    urlParams rest.length c rest
  else pure c

def readValue (cs : List Char) : Except Unit (String × List Char) :=
  match cs with
  | '\'' :: rest =>
    match quoted rest.length [] rest with
    | some (v, rest) => .ok (String.ofList v, rest)
    | none => .error ()
  | _ =>
    let (v, rest) := simple cs.length [] cs
    if v.isEmpty then .error () else .ok (String.ofList v, rest)
where
  quoted : Nat → List Char → List Char → Option (List Char × List Char)
    | 0, _, _ => none
    | _, _, [] => none
    | _ + 1, acc, '\'' :: rest => some (acc, rest)
    | fuel + 1, acc, '\\' :: c :: rest => quoted fuel (acc ++ [c]) rest
    | _ + 1, acc, ['\\'] => quoted 0 acc []
    | fuel + 1, acc, c :: rest => quoted fuel (acc ++ [c]) rest
  simple : Nat → List Char → List Char → List Char × List Char
    | 0, acc, rest => (acc, rest)
    | _, acc, [] => (acc, [])
    | fuel + 1, acc, c :: rest =>
      if Text.isBlank c then (acc, c :: rest)
      else if c == '\\' then
        match rest with
        | d :: more => simple fuel (acc ++ [d]) more
        | [] => (acc, [])
      else simple fuel (acc ++ [c]) rest

def parsePairs : Nat → ConnConfig → List Char → Except Unit ConnConfig
  | 0, c, _ => .ok c
  | fuel + 1, c, cs =>
    let cs := cs.dropWhile Text.isBlank
    let keyword := cs.takeWhile fun ch => !Text.isBlank ch && ch != '='
    if keyword.isEmpty then .ok c
    else
      match (cs.drop keyword.length).dropWhile Text.isBlank with
      | '=' :: rest => do
        let (value, rest) ← readValue (rest.dropWhile Text.isBlank)
        let c ← c.param (String.ofList keyword) value
        parsePairs fuel c rest
      | _ => .error ()

def ConnConfig.parse (s : String) : Except Unit ConnConfig :=
  if s.startsWith "postgres://" then parseUrl (String.ofList (s.toList.drop 11))
  else if s.startsWith "postgresql://" then parseUrl (String.ofList (s.toList.drop 13))
  else parsePairs s.length {} s.toList

/-- Why connecting fails before any server is tried: no host at all, host names and
addresses that do not pair up, or ports that match neither. -/
def ConnConfig.configProblem (c : ConnConfig) : Bool :=
  let hosts := max c.hosts.length c.hostaddrs.length
  (c.hosts.isEmpty && c.hostaddrs.isEmpty) ||
    (!c.hosts.isEmpty && !c.hostaddrs.isEmpty && c.hosts.length != c.hostaddrs.length) ||
    (c.ports.length > 1 && c.ports.length != hosts)

end Postgres

end KvStore
