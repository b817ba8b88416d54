import KvStore.Net.Address
import KvStore.Text.Hex
import KvStore.Text.Utf8

namespace KvStore

namespace Collection

def isForbiddenHostChar (c : Char) : Bool :=
  [' ', '\x00', '\t', '\n', '\r', '#', '/', ':', '<', '>', '?', '@', '[', '\\', ']', '^', '|'].contains c

def splitHostPort (hostPort : List Char) : Option (List Char × List Char) :=
  match hostPort with
  | '[' :: rest =>
    let inside := rest.takeWhile (· != ']')
    if inside.length == rest.length then none
    else if !Net.isIpv6 (String.ofList inside) then none
    else match rest.drop (inside.length + 1) with
      | [] => some ('[' :: inside ++ [']'], [])
      | ':' :: port => some ('[' :: inside ++ [']'], port)
      | _ => none
  | cs =>
    let host := cs.takeWhile (· != ':')
    let port := (cs.drop host.length).drop 1
    if host.any isForbiddenHostChar then none else some (host, port)

def validPort (port : List Char) : Bool :=
  port.all Char.isDigit && port.foldl (fun acc c => acc * 10 + (c.toNat - 48)) 0 < 65536

def isI64 (s : List Char) : Bool :=
  let (negative, digits) := match s with
    | '+' :: rest => (false, rest)
    | '-' :: rest => (true, rest)
    | cs => (false, cs)
  let n := digits.foldl (fun acc c => acc * 10 + (c.toNat - 48)) 0
  !digits.isEmpty && digits.all Char.isDigit &&
    (if negative then n ≤ Nat.pow 2 63 else n < Nat.pow 2 63)

def decodesToUtf8 (cs : List Char) : Bool :=
  (String.fromUTF8? (ByteArray.mk (Hex.percentDecode (String.ofList cs).toUTF8.toList).toArray)).isSome

/-- A form-encoded text decoded: `+` is a blank, then percent escapes are read and
bytes that are not UTF-8 become replacement characters. -/
def formDecode (cs : List Char) : String :=
  let bytes := Hex.percentDecode (String.ofList (cs.map fun c => if c == '+' then ' ' else c)).toUTF8.toList
  Utf8.decodeLossy bytes

def queryValue (query : List Char) (name : String) : Option String :=
  let pairs := (String.ofList query).splitOn "&" |>.filter (!·.isEmpty)
  pairs.foldl (fun found pair =>
    let k := pair.toList.takeWhile (· != '=')
    let v := (pair.toList.drop k.length).drop 1
    if formDecode k == name then some (formDecode v) else found) none

/-- What the client finds wrong with a URI: a description, and for some the text at
fault. -/
structure UriProblem where
  description : String
  detail : Option String := none
  deriving Repr, BEq, Inhabited

def UriProblem.render (p : UriProblem) : String :=
  p.description ++ " - InvalidClientConfig" ++ ((p.detail.map (": " ++ ·)).getD "")

def uriProblem (uri : String) : Option UriProblem :=
  let cs := ((uri.toList.dropWhile fun c => c.toNat ≤ 32).reverse.dropWhile fun c => c.toNat ≤ 32).reverse
  let cs := cs.filter fun c => c != '\t' && c != '\n' && c != '\r'
  let scheme := (cs.takeWhile (· != ':')).map Char.toLower
  let rest := cs.drop (scheme.length + 1)
  match rest with
  | '/' :: '/' :: afterSlashes =>
    let authority := afterSlashes.takeWhile fun c => c != '/' && c != '?' && c != '#'
    let tail := afterSlashes.drop authority.length
    let hostPort := (authority.reverse.takeWhile (· != '@')).reverse
    match splitHostPort hostPort with
    | none => some { description := "Redis URL did not parse" }
    | some (host, port) =>
      if !validPort port then some { description := "Redis URL did not parse" }
      else if host.isEmpty then some { description := "Missing hostname" }
      else if String.ofList scheme == "rediss" then some { description := "can't connect with TLS, the feature is not enabled" }
      else
        let path := tail.takeWhile fun c => c != '?' && c != '#'
        let db := ((path.dropWhile (· == '/')).reverse.dropWhile (· == '/')).reverse
        let query := match tail.drop path.length with
          | '?' :: q => q.takeWhile (· != '#')
          | _ => []
        let userInfo := if authority.contains '@' then
            (authority.reverse.dropWhile (· != '@')).reverse.dropLast
          else []
        let user := userInfo.takeWhile (· != ':')
        let password := (userInfo.drop user.length).drop 1
        if !(db.isEmpty || isI64 db) then some { description := "Invalid database number" }
        else if !decodesToUtf8 user then some { description := "Username is not valid UTF-8 string" }
        else if !decodesToUtf8 password then some { description := "Password is not valid UTF-8 string" }
        else match queryValue query "protocol" with
          | some v =>
            if v == "2" || v.toLower == "3" || v.toLower == "resp3" then none
            else some { description := "Invalid protocol version", detail := some v }
          | none => none
  | _ => some { description := "Missing hostname" }

end Collection

end KvStore
