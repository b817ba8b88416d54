namespace KvStore

namespace Hex

def digit (n : Nat) : Char :=
  if n < 10 then Char.ofNat (48 + n) else Char.ofNat (87 + n)

def encodeBytes (bs : List UInt8) : String :=
  String.ofList (bs.flatMap fun b => [digit (b.toNat / 16), digit (b.toNat % 16)])

def encode (s : String) : String := encodeBytes s.toUTF8.toList

def digitValue (c : Char) : Option Nat :=
  if '0' ≤ c ∧ c ≤ '9' then some (c.toNat - 48)
  else if 'a' ≤ c ∧ c ≤ 'f' then some (c.toNat - 87)
  else if 'A' ≤ c ∧ c ≤ 'F' then some (c.toNat - 55)
  else none

def decodeChars : List Char → Option (List UInt8)
  | [] => some []
  | [_] => none
  | a :: b :: rest => do
    let hi ← digitValue a
    let lo ← digitValue b
    let tail ← decodeChars rest
    pure ((hi * 16 + lo).toUInt8 :: tail)

def decode (s : String) : Option (List UInt8) := decodeChars s.toList

def percentDecode : List UInt8 → List UInt8
  | 37 :: a :: b :: rest =>
    match digitValue (Char.ofNat a.toNat), digitValue (Char.ofNat b.toNat) with
    | some hi, some lo => (hi * 16 + lo).toUInt8 :: percentDecode rest
    | _, _ => 37 :: percentDecode (a :: b :: rest)
  | b :: rest => b :: percentDecode rest
  | [] => []

end Hex

end KvStore
