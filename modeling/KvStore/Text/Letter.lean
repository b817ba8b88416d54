namespace KvStore

namespace Text

def alphanumericRanges : List (Nat × Nat) :=
  [(0xAA, 0xAA), (0xB2, 0xB3), (0xB5, 0xB5), (0xB9, 0xBA), (0xBC, 0xBE), (0xC0, 0xD6),
   (0xD8, 0xF6), (0xF8, 0x2C1), (0x2C6, 0x2D1), (0x2E0, 0x2E4), (0x370, 0x374),
   (0x376, 0x377), (0x37A, 0x37D), (0x37F, 0x37F), (0x386, 0x386), (0x388, 0x3FF),
   (0x400, 0x481), (0x48A, 0x52F), (0x531, 0x556), (0x560, 0x588), (0x5D0, 0x5EA),
   (0x620, 0x64A), (0x660, 0x669), (0x671, 0x6D3), (0x6F0, 0x6FC), (0x900, 0x963),
   (0x966, 0x97F), (0xE01, 0xE30), (0xE50, 0xE59), (0x10A0, 0x10FF), (0x1100, 0x11FF),
   (0x1E00, 0x1FFF), (0x2070, 0x2071), (0x2074, 0x2079), (0x207F, 0x2089),
   (0x2150, 0x2189), (0x2460, 0x249B), (0x3005, 0x3007), (0x3041, 0x3096),
   (0x30A1, 0x30FA), (0x3400, 0x4DBF), (0x4E00, 0x9FFF), (0xAC00, 0xD7A3),
   (0xF900, 0xFAFF), (0xFF10, 0xFF19), (0xFF21, 0xFF3A), (0xFF41, 0xFF5A),
   (0xFF66, 0xFFDC), (0x20000, 0x3134F)]

def isAlphanumeric (c : Char) : Bool :=
  c.isAlphanum || (c.toNat ≥ 0x80 && alphanumericRanges.any fun (lo, hi) => lo ≤ c.toNat && c.toNat ≤ hi)

end Text

end KvStore
