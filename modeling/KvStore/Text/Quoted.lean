import KvStore.Text.Hex

namespace KvStore

namespace Text

/-- Characters that do not print: controls, format characters, private use, and
combining marks, which would join the character before them. -/
def isUnprintable (c : Char) : Bool :=
  let n := c.toNat
  n < 0x20 || (0x7F ≤ n && n ≤ 0x9F) || n == 0xAD || (0x300 ≤ n && n ≤ 0x36F) ||
    (0x200B ≤ n && n ≤ 0x200F) || (0x2028 ≤ n && n ≤ 0x202E) || (0x2060 ≤ n && n ≤ 0x2064) ||
    n == 0xFEFF || (0xE000 ≤ n && n ≤ 0xF8FF)

def hexOf (n : Nat) : String :=
  String.ofList ((Nat.toDigits 16 n))

def escapeQuoted (c : Char) : String :=
  match c with
  | '\x00' => "\\0"
  | '\t' => "\\t"
  | '\r' => "\\r"
  | '\n' => "\\n"
  | '\\' => "\\\\"
  | '"' => "\\\""
  | _ => if isUnprintable c then "\\u\x7b" ++ hexOf c.toNat ++ "\x7d" else c.toString

def quoted (s : String) : String :=
  "\"" ++ String.join (s.toList.map escapeQuoted) ++ "\""

end Text

end KvStore
