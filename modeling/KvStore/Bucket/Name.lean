import KvStore.Text.Hex
import KvStore.Hash.Sha256

namespace KvStore

namespace Bucket

def extension : String := ".json"

def maxFileName : Nat := 255

def namespacePrefix : String := "ns-"

def hashedPrefix : String := "h-"

def namespaceDirName (ns : String) : String := namespacePrefix ++ Hex.encode ns

def objectFileName (key : String) : String :=
  let name := Hex.encode key ++ extension
  if name.utf8ByteSize ≤ maxFileName then name
  else hashedPrefix ++ Sha256.hexDigest key ++ extension

def dropSuffix? (s suffix : String) : Option String :=
  if s.endsWith suffix then some (String.ofList (s.toList.take (s.length - suffix.length))) else none

def keyOfFileName? (name : String) : Option String := do
  let stem ← dropSuffix? name extension
  let bytes ← Hex.decode stem
  String.fromUTF8? (ByteArray.mk bytes.toArray)

def isHashedName (name : String) : Bool :=
  if name.startsWith hashedPrefix then
    match dropSuffix? (String.ofList (name.toList.drop hashedPrefix.length)) extension with
    | some digest => digest.length == 64 && (Hex.decode digest).isSome
    | none => false
  else false

def isPlainDirName (name : String) : Bool :=
  !name.isEmpty && name != "." && name != ".." && !name.any (fun c => c == '/' || c == '\\') &&
    !name.startsWith "."

end Bucket

end KvStore
