namespace KvStore

namespace Utf8

/-- The range of the second byte after a leading byte, and the count of bytes that
follow it; none for a byte that cannot lead. -/
def leadShape (b : UInt8) : Option ((UInt8 × UInt8) × Nat) :=
  if 0xC2 ≤ b && b ≤ 0xDF then some ((0x80, 0xBF), 1)
  else if b == 0xE0 then some ((0xA0, 0xBF), 2)
  else if b == 0xED then some ((0x80, 0x9F), 2)
  else if 0xE1 ≤ b && b ≤ 0xEF then some ((0x80, 0xBF), 2)
  else if b == 0xF0 then some ((0x90, 0xBF), 3)
  else if b == 0xF4 then some ((0x80, 0x8F), 3)
  else if 0xF1 ≤ b && b ≤ 0xF3 then some ((0x80, 0xBF), 3)
  else none

def isContinuation (b : UInt8) : Bool := 0x80 ≤ b && b ≤ 0xBF

def validTail (lo hi : UInt8) (n : Nat) (rest : List UInt8) : Nat :=
  match rest with
  | c :: more =>
    if n == 0 || !(lo ≤ c && c ≤ hi) then 0
    else 1 + ((more.take (n - 1)).takeWhile isContinuation).length
  | [] => 0

def codePoint (lead : UInt8) (tail : List UInt8) : Nat :=
  let first := match tail.length with
    | 1 => lead.toNat % 32
    | 2 => lead.toNat % 16
    | _ => lead.toNat % 8
  tail.foldl (fun acc c => acc * 64 + c.toNat % 64) first

def decodeLossyFrom : Nat → List UInt8 → List Char
  | 0, _ => []
  | _, [] => []
  | fuel + 1, b :: rest =>
    if b < 0x80 then Char.ofNat b.toNat :: decodeLossyFrom fuel rest
    else match leadShape b with
      | none => '�' :: decodeLossyFrom fuel rest
      | some ((lo, hi), n) =>
        let k := validTail lo hi n rest
        if k == n then Char.ofNat (codePoint b (rest.take n)) :: decodeLossyFrom fuel (rest.drop n)
        else '�' :: decodeLossyFrom fuel (rest.drop k)

def decodeLossy (bytes : List UInt8) : String := String.ofList (decodeLossyFrom (bytes.length + 1) bytes)

end Utf8

end KvStore
