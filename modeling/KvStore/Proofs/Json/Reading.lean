import Mathlib
import KvStore.Json.Decode
import KvStore.Json.Write

/-!
Reading what the writer wrote. Each lemma states what a reader returns at an offset of a
byte array from which the bytes of a written value follow: the value, and the offset just
past it. A number needs to know the byte after it; as the writer places values, that byte
is a comma or a closing brace. Records compose from their members: `ReadsMembers` says
that each member's value is read in turn, and `readRecord_object` reads the whole object.
-/

namespace KvStore

namespace Json

open Reader

section Positions

variable {b : ByteArray} {i : Nat} {x : UInt8} {rest : List UInt8}

theorem lt_size_of_drop (h : b.data.toList.drop i = x :: rest) : i < b.size := by
  have hlen := congrArg List.length h
  rw [List.length_drop, Array.length_toList, ByteArray.size_data, List.length_cons] at hlen
  omega

theorem getElem_of_drop (h : b.data.toList.drop i = x :: rest) (hsize : i < b.size) : b[i] = x := by
  have hi : i < b.data.toList.length := by
    rw [Array.length_toList, ByteArray.size_data]; exact lt_size_of_drop h
  rw [List.drop_eq_getElem_cons hi] at h
  rw [ByteArray.getElem_eq_getElem_data, ← Array.getElem_toList]
  exact (List.cons.inj h).1

theorem drop_succ_of_drop (h : b.data.toList.drop i = x :: rest) :
    b.data.toList.drop (i + 1) = rest := by
  have hi : i < b.data.toList.length := by
    rw [Array.length_toList, ByteArray.size_data]; exact lt_size_of_drop h
  rw [List.drop_eq_getElem_cons hi] at h
  exact (List.cons.inj h).2

theorem drop_add_of_drop {xs : List UInt8} (h : b.data.toList.drop i = xs ++ rest) :
    b.data.toList.drop (i + xs.length) = rest := by
  rw [← List.drop_drop, h, List.drop_left]

end Positions

/-! ## Primitive readers -/

theorem peek_run (b : ByteArray) (i : Nat) :
    peek b i = .ok (if h : i < b.size then some b[i] else none, i) := rfl

theorem eat_run (b : ByteArray) (i : Nat) : eat b i = .ok ((), i + 1) := rfl

theorem bind_run_ok {α β : Type} {x : Reader α} {f : α → Reader β} {b : ByteArray} {i j : Nat} {a : α}
    (h : x b i = .ok (a, j)) : (x >>= f) b i = f a b j := by
  show (do let p ← x b i; f p.1 b p.2 : Except ReadError (β × Nat)) = _
  rw [h]; rfl

theorem peek_at {b : ByteArray} {i : Nat} {x : UInt8} {rest : List UInt8}
    (h : b.data.toList.drop i = x :: rest) : peek b i = .ok (some x, i) := by
  rw [peek_run, dif_pos (lt_size_of_drop h), getElem_of_drop h (lt_size_of_drop h)]

theorem next_at {b : ByteArray} {i : Nat} {x : UInt8} {rest : List UInt8}
    (h : b.data.toList.drop i = x :: rest) : next b i = .ok (some x, i + 1) := by
  unfold next
  rw [bind_run_ok (peek_at h)]
  rfl

theorem blankEnd_at {b : ByteArray} {i : Nat} {x : UInt8} {rest : List UInt8}
    (h : b.data.toList.drop i = x :: rest) (hx : isBlank x = false) : blankEnd b i = i := by
  rw [blankEnd, dif_pos (lt_size_of_drop h), getElem_of_drop h (lt_size_of_drop h), hx]
  rfl

theorem skipBlanks_at {b : ByteArray} {i : Nat} {x : UInt8} {rest : List UInt8}
    (h : b.data.toList.drop i = x :: rest) (hx : isBlank x = false) :
    skipBlanks b i = .ok (some x, i) := by
  unfold skipBlanks
  show peek b (blankEnd b i) = _
  rw [blankEnd_at h hx, peek_at h]


/-! ## Strings

Each character of a written string is one backslash escape, a `\\u00XY` escape of a
control character, or its own UTF-8 bytes. Reading takes one step per escape and one per
plain byte, so the fuel of one step a byte always suffices.
-/

def escapedBytes (c : Char) : List UInt8 := (escapeChar c).flatMap String.utf8EncodeChar

theorem stringBytes_plain {b : ByteArray} {i fuel : Nat} {acc : List UInt8} {x : UInt8}
    {rest : List UInt8} (h : b.data.toList.drop i = x :: rest) (hlow : 32 ≤ x) (hquote : x ≠ 34)
    (hslash : x ≠ 92) :
    stringBytes (fuel + 1) acc b i = stringBytes fuel (x :: acc) b (i + 1) := by
  rw [stringBytes, bind_run_ok (next_at h)]
  -- the match takes its last branch, `hquote` and `hslash` ruling out the others
  simp only [if_neg (show ¬ x < 32 by simpa using hlow)]


theorem stringBytes_escape {b : ByteArray} {i j fuel : Nat} {acc bs : List UInt8}
    {rest : List UInt8} (h : b.data.toList.drop i = 92 :: rest) (he : escape b (i + 1) = .ok (bs, j)) :
    stringBytes (fuel + 1) acc b i = stringBytes fuel (bs.reverse ++ acc) b j := by
  rw [stringBytes, bind_run_ok (next_at h)]
  exact bind_run_ok he

theorem stringBytes_close {b : ByteArray} {i fuel : Nat} {acc : List UInt8}
    {rest : List UInt8} (h : b.data.toList.drop i = 34 :: rest) :
    stringBytes (fuel + 1) acc b i = .ok (acc.reverse, i + 1) := by
  rw [stringBytes, bind_run_ok (next_at h)]
  rfl

theorem getElem!_of_drop {b : ByteArray} {i : Nat} {x : UInt8} {rest : List UInt8}
    (h : b.data.toList.drop i = x :: rest) : b[i]! = x := by
  rw [getElem!_pos b i (lt_size_of_drop h), getElem_of_drop h (lt_size_of_drop h)]

/-- How the writer escapes a character: a backslash and one byte that the reader's `escape`
turns back into the character, a `\u00XY` escape of a control character, or the character
itself. -/
theorem escapeChar_cases (c : Char) :
    (∃ y, escapedBytes c = [92, y] ∧ ∀ (b : ByteArray) i rest, b.data.toList.drop i = y :: rest →
      escape b i = .ok (String.utf8EncodeChar c, i + 1)) ∨
    (c.toNat < 32 ∧ escapeChar c = ['\\', 'u', '0', '0', hexDigit (c.toNat / 16), hexDigit (c.toNat % 16)]) ∨
    (escapeChar c = [c] ∧ 32 ≤ c.toNat ∧ c ≠ '"' ∧ c ≠ '\\') := by
  unfold escapedBytes escapeChar
  split
  case h_8 hquote hslash _ _ _ _ _ =>
    split
    · exact .inr (.inl ⟨by assumption, rfl⟩)
    · exact .inr (.inr ⟨rfl, by omega, hquote, hslash⟩)
  -- the seven two-byte escapes
  all_goals exact .inl ⟨_, rfl, fun b i rest h => by rw [escape, bind_run_ok (next_at h)]; rfl⟩


theorem hexEscape_at {b : ByteArray} {i : Nat} {x₁ x₂ x₃ x₄ : UInt8} {rest : List UInt8}
    {d₁ d₂ d₃ d₄ : Nat} (h : b.data.toList.drop i = x₁ :: x₂ :: x₃ :: x₄ :: rest)
    (h₁ : hexValue x₁ = some d₁) (h₂ : hexValue x₂ = some d₂) (h₃ : hexValue x₃ = some d₃)
    (h₄ : hexValue x₄ = some d₄) :
    hexEscape b i = .ok (((d₁ * 16 + d₂) * 16 + d₃) * 16 + d₄, i + 4) := by
  have at₂ := drop_succ_of_drop h
  have at₃ := drop_succ_of_drop at₂
  have at₄ := drop_succ_of_drop at₃
  have hsize : i + 4 ≤ b.size := by
    have := lt_size_of_drop (drop_succ_of_drop at₃); omega
  unfold hexEscape
  show (if i + 4 ≤ b.size then _ else _ : Reader Nat) b i = _
  rw [if_pos hsize]
  rw [getElem!_of_drop h, getElem!_of_drop at₂, getElem!_of_drop at₃, getElem!_of_drop at₄,
    h₁, h₂, h₃, h₄]
  rfl

theorem utf8EncodeChar_hexDigit : ∀ n, n < 16 →
    String.utf8EncodeChar (hexDigit n) = [(hexDigit n).toNat.toUInt8] ∧
      hexValue (hexDigit n).toNat.toUInt8 = some n := by
  decide


theorem escape_unicode {b : ByteArray} {i j n : Nat} {rest : List UInt8}
    (h : b.data.toList.drop i = 117 :: rest) (hhex : hexEscape b (i + 1) = .ok (n, j))
    (hn : n < 0xD800) : escape b i = .ok (utf8Bytes n, j) := by
  rw [escape, bind_run_ok (next_at h)]
  refine (bind_run_ok hhex).trans ?_
  rw [if_neg (by omega), if_pos (.inl hn)]
  rfl


def PlainByte (x : UInt8) : Prop := 32 ≤ x ∧ x ≠ 34 ∧ x ≠ 92

theorem stringBytes_plainRun {b : ByteArray} {acc : List UInt8} {rest : List UInt8} :
    ∀ {xs : List UInt8} {i fuel : Nat}, (∀ x ∈ xs, PlainByte x) →
      b.data.toList.drop i = xs ++ rest →
      stringBytes (fuel + xs.length) acc b i = stringBytes fuel (xs.reverse ++ acc) b (i + xs.length)
  | [], _, _, _, _ => rfl
  | x :: xs, i, fuel, hplain, h => by
    obtain ⟨hlow, hquote, hslash⟩ := hplain x (by simp)
    have step : stringBytes (fuel + xs.length + 1) acc b i =
        stringBytes (fuel + xs.length) (x :: acc) b (i + 1) := stringBytes_plain h hlow hquote hslash
    rw [List.length_cons, ← Nat.add_assoc, step,
      stringBytes_plainRun (fun y hy => hplain y (by simp [hy])) (drop_succ_of_drop h)]
    simp [Nat.add_assoc, Nat.add_comm 1]

theorem toNat_of_mem_utf8EncodeChar {c : Char} {x : UInt8} (hx : x ∈ String.utf8EncodeChar c) :
    x.toNat = c.toNat ∨ 128 ≤ x.toNat := by
  simp only [String.utf8EncodeChar] at hx
  split at hx
  · simp only [List.mem_singleton] at hx
    subst hx
    left
    simp only [UInt8.toNat_ofNat', Char.toNat]
    omega
  right
  split at hx
  · simp only [List.mem_cons, List.not_mem_nil, or_false] at hx
    rcases hx with rfl | rfl <;> simp only [UInt8.toNat_ofNat'] <;> omega
  split at hx
  · simp only [List.mem_cons, List.not_mem_nil, or_false] at hx
    rcases hx with rfl | rfl | rfl <;> simp only [UInt8.toNat_ofNat'] <;> omega
  · simp only [List.mem_cons, List.not_mem_nil, or_false] at hx
    rcases hx with rfl | rfl | rfl | rfl <;> simp only [UInt8.toNat_ofNat'] <;> omega

theorem plainByte_of_utf8EncodeChar {c : Char} (hlow : 32 ≤ c.toNat) (hquote : c ≠ '"')
    (hslash : c ≠ '\\') : ∀ x ∈ String.utf8EncodeChar c, PlainByte x := by
  have hq : c.toNat ≠ 34 := fun h => hquote (Char.toNat_inj.mp h)
  have hs : c.toNat ≠ 92 := fun h => hslash (Char.toNat_inj.mp h)
  intro x hx
  have hx := toNat_of_mem_utf8EncodeChar hx
  simp only [PlainByte, UInt8.le_iff_toNat_le, ne_eq, ← UInt8.toNat_inj, UInt8.reduceToNat]
  omega


theorem stringBytes_escapedBytes (c : Char) {b : ByteArray} {i : Nat} {acc : List UInt8}
    {rest : List UInt8} (h : b.data.toList.drop i = escapedBytes c ++ rest) :
    ∃ k ≤ (escapedBytes c).length, ∀ fuel, stringBytes (fuel + k) acc b i =
      stringBytes fuel ((String.utf8EncodeChar c).reverse ++ acc) b (i + (escapedBytes c).length) := by
  rcases escapeChar_cases c with ⟨y, hbytes, hescape⟩ | ⟨hlow, hesc⟩ | ⟨hesc, hlow, hquote, hslash⟩
  case inl =>
    rw [hbytes] at h ⊢
    exact ⟨1, by simp, fun fuel => stringBytes_escape h (hescape b (i + 1) rest (drop_succ_of_drop h))⟩
  case inr.inl =>
    obtain ⟨hiBytes, hiValue⟩ := utf8EncodeChar_hexDigit (c.toNat / 16) (by omega)
    obtain ⟨loBytes, loValue⟩ := utf8EncodeChar_hexDigit (c.toNat % 16) (by omega)
    have hbytes : escapedBytes c =
        [92, 117, 48, 48, (hexDigit (c.toNat / 16)).toNat.toUInt8, (hexDigit (c.toNat % 16)).toNat.toUInt8] := by
      simp only [escapedBytes, hesc, List.flatMap_cons, hiBytes, loBytes]
      rfl
    rw [hbytes] at h ⊢
    have hunicode := drop_succ_of_drop h
    have hdigits := drop_succ_of_drop hunicode
    have hcode : ((0 * 16 + 0) * 16 + c.toNat / 16) * 16 + c.toNat % 16 = c.toNat := by omega
    have hzero : hexValue 48 = some 0 := rfl
    have hhex := hexEscape_at hdigits hzero hzero hiValue loValue
    rw [hcode] at hhex
    have hutf8 : utf8Bytes c.toNat = String.utf8EncodeChar c := by
      simp only [utf8Bytes, String.utf8EncodeChar, Char.toNat] at hlow ⊢
      rw [if_pos (by omega), if_pos (by omega)]
    refine ⟨1, by simp, fun fuel => stringBytes_escape h ?_⟩
    rw [escape_unicode hunicode hhex (by omega), hutf8]
    rfl
  case inr.inr =>
    have hbytes : escapedBytes c = String.utf8EncodeChar c := by simp [escapedBytes, hesc]
    rw [hbytes] at h ⊢
    exact ⟨_, Nat.le_refl _, fun fuel =>
      stringBytes_plainRun (plainByte_of_utf8EncodeChar hlow hquote hslash) h⟩


/-- Reading a written string body up to its closing quote gives the UTF-8 bytes of its
characters, with enough fuel for one step a byte. -/
theorem stringBytes_body {b : ByteArray} {rest : List UInt8} :
    ∀ (cs : List Char) {i fuel : Nat} {acc : List UInt8},
      b.data.toList.drop i = cs.flatMap escapedBytes ++ 34 :: rest →
      (cs.flatMap escapedBytes).length < fuel →
      stringBytes fuel acc b i =
        .ok (acc.reverse ++ cs.flatMap String.utf8EncodeChar, i + (cs.flatMap escapedBytes).length + 1)
  | [], i, fuel, acc, h, hfuel => by
    obtain ⟨f, rfl⟩ : ∃ f, fuel = f + 1 := ⟨fuel - 1, by simp at hfuel; omega⟩
    simpa using stringBytes_close h
  | c :: cs, i, fuel, acc, h, hfuel => by
    rw [List.flatMap_cons, List.append_assoc] at h
    obtain ⟨k, hk, step⟩ := stringBytes_escapedBytes c h
    rw [List.flatMap_cons, List.length_append] at hfuel
    obtain ⟨f, rfl⟩ : ∃ f, fuel = f + k := ⟨fuel - k, by omega⟩
    rw [step f, stringBytes_body cs (drop_add_of_drop h) (by omega)]
    simp [Nat.add_assoc]

theorem mk_flatMap_utf8EncodeChar (s : String) :
    ByteArray.mk (s.toList.flatMap String.utf8EncodeChar).toArray = s.toByteArray := by
  conv => rhs; rw [← @String.ofList_toList s]
  rw [String.toByteArray_ofList, List.utf8Encode, ← List.data_toByteArray]

theorem fromUTF8?_toByteArray (s : String) : String.fromUTF8? s.toByteArray = some s := by
  rw [String.fromUTF8?, dif_pos s.isValidUTF8]
  rfl

theorem string_at {b : ByteArray} {i : Nat} {rest : List UInt8} (s : String)
    (h : b.data.toList.drop i = s.toList.flatMap escapedBytes ++ 34 :: rest) :
    string b i = .ok (s, i + (s.toList.flatMap escapedBytes).length + 1) := by
  have hfuel : (s.toList.flatMap escapedBytes).length < b.size + 1 := by
    have := congrArg List.length h
    rw [List.length_drop, Array.length_toList, ByteArray.size_data, List.length_append] at this
    omega
  rw [string, bind_run_ok (rfl : (read : Reader ByteArray) b i = .ok (b, i)),
    bind_run_ok (stringBytes_body s.toList h hfuel)]
  rw [List.reverse_nil, List.nil_append, mk_flatMap_utf8EncodeChar, fromUTF8?_toByteArray]
  rfl

theorem quote_bytes (s : String) :
    (quote s).toUTF8.data.toList = 34 :: s.toList.flatMap escapedBytes ++ [34] := by
  rw [quote, String.toUTF8_eq_toByteArray, String.toByteArray_ofList]
  have hquote : String.utf8EncodeChar '"' = [34] := rfl
  simp [List.utf8Encode, List.data_toByteArray, List.flatMap_assoc, hquote]
  rfl


/-! ## Integers

The writer prints integers in decimal with a minus sign and no leading zero; within the
signed 64-bit range the reader takes all digits into the significand.
-/

/-- A byte that ends a number as the writer places it: a comma or a closing brace. -/
def Closer (y : UInt8) : Prop := y = 44 ∨ y = 125

theorem isDigit_of_closer {y : UInt8} (hy : Closer y) : isDigit y = false := by
  rcases hy with rfl | rfl <;> rfl

/-- A byte that ends an integer: neither a digit nor the start of a fraction or an exponent. -/
def EndsInteger (y : UInt8) : Prop := isDigit y = false ∧ y ≠ 46 ∧ y ≠ 101 ∧ y ≠ 69

theorem Closer.endsInteger {y : UInt8} (hy : Closer y) : EndsInteger y := by
  rcases hy with rfl | rfl <;> exact ⟨rfl, by decide, by decide, by decide⟩

def digitBytes (n : Nat) : List UInt8 := (Nat.toDigits 10 n).map fun c => c.toNat.toUInt8

theorem isDigit_of_mem_digitBytes {n : Nat} {x : UInt8} (hx : x ∈ digitBytes n) :
    isDigit x = true ∧ (x - 48).toNat + 48 = x.toNat := by
  obtain ⟨c, hc, rfl⟩ := List.mem_map.mp hx
  have hdigit := Nat.isDigit_of_mem_toDigits (by decide) (by decide) hc
  simp only [Char.isDigit, Bool.and_eq_true, decide_eq_true_eq, ge_iff_le, UInt32.le_iff_toNat_le,
    Char.reduceVal, UInt32.reduceToNat] at hdigit
  simp only [isDigit, Bool.and_eq_true, decide_eq_true_eq, UInt8.le_iff_toNat_le, UInt8.toNat_sub,
    Nat.toUInt8, UInt8.toNat_ofNat', UInt8.reduceToNat, Char.toNat]
  omega

theorem digitRun_at {b : ByteArray} {y : UInt8} {rest : List UInt8} (hy : isDigit y = false) :
    ∀ {xs : List UInt8} {i : Nat}, (∀ x ∈ xs, isDigit x = true) →
      b.data.toList.drop i = xs ++ y :: rest →
      digitRun b i = (xs.map fun x => (x - 48).toNat, i + xs.length)
  | [], i, _, h => by
    rw [digitRun, dif_pos (lt_size_of_drop h), getElem_of_drop h (lt_size_of_drop h), hy]
    rfl
  | x :: xs, i, hdigits, h => by
    rw [digitRun, dif_pos (lt_size_of_drop h), getElem_of_drop h (lt_size_of_drop h), hdigits x (by simp)]
    simp only [ite_true]
    rw [digitRun_at hy (fun z hz => hdigits z (by simp [hz])) (drop_succ_of_drop h)]
    simp [Nat.add_assoc, Nat.add_comm 1]


theorem le_foldl_digits (ds : List Nat) (acc : Nat) : acc ≤ ds.foldl (fun a d => a * 10 + d) acc := by
  induction ds generalizing acc with
  | nil => exact Nat.le_refl acc
  | cons d ds ih => exact Nat.le_trans (by omega) (ih (acc * 10 + d))

theorem fitU64_of_le (ds : List Nat) (acc : Nat) (h : ds.foldl (fun a d => a * 10 + d) acc ≤ maxU64) :
    fitU64 acc ds = (ds.foldl (fun a d => a * 10 + d) acc, []) := by
  induction ds generalizing acc with
  | nil => rfl
  | cons d ds ih =>
    have hnext := le_foldl_digits ds (acc * 10 + d)
    rw [fitU64, if_neg (by simp only [List.foldl_cons] at h; omega)]
    exact ih _ h

theorem foldl_digitBytes (n : Nat) :
    ((digitBytes n).map fun x => (x - 48).toNat).foldl (fun a d => a * 10 + d) 0 = n := by
  have key : ∀ (l : List Char) (init : Nat), (∀ c ∈ l, c.isDigit = true) →
      ((l.map fun c => c.toNat.toUInt8).map fun x => (x - 48).toNat).foldl (fun a d => a * 10 + d) init =
        Nat.ofDigitChars 10 l init := by
    intro l
    induction l with
    | nil => intro init _; rfl
    | cons c l ih =>
      intro init hdigits
      have hc := hdigits c (by simp)
      simp only [Char.isDigit, Bool.and_eq_true, decide_eq_true_eq, ge_iff_le, UInt32.le_iff_toNat_le,
        Char.reduceVal, UInt32.reduceToNat] at hc
      have hbyte : (c.toNat.toUInt8 - 48).toNat = c.toNat - 48 := by
        simp only [UInt8.toNat_sub, Nat.toUInt8, UInt8.toNat_ofNat', UInt8.reduceToNat, Char.toNat]
        omega
      rw [List.map_cons, List.map_cons, List.foldl_cons, Nat.ofDigitChars_cons, hbyte, Nat.mul_comm]
      exact ih _ fun x hx => hdigits x (by simp [hx])
  rw [digitBytes, key _ 0 fun c hc => Nat.isDigit_of_mem_toDigits (by decide) (by decide) hc]
  exact Nat.ofDigitChars_ten_toDigits

theorem toDigits_head_ne_zero : ∀ {n : Nat}, 0 < n → (Nat.toDigits 10 n).head? ≠ some '0'
  | n, hpos => by
    by_cases hsmall : n < 10
    · rw [Nat.toDigits_of_lt_base hsmall]
      simp
      omega
    · rw [Nat.toDigits_of_base_le (by decide) (by omega)]
      have hne := @Nat.toDigits_ne_nil (n / 10) 10
      have ih := @toDigits_head_ne_zero (n / 10) (by omega)
      obtain ⟨d, ds, hds⟩ := List.exists_cons_of_ne_nil hne
      rw [hds] at ih ⊢
      simpa using ih


theorem readNumberTail_nat {b : ByteArray} {i : Nat} {y : UInt8} {rest : List UInt8} (sig : Nat)
    (h : b.data.toList.drop i = y :: rest) (hy : EndsInteger y) :
    readNumberTail true sig b i = .ok (.nat sig, i) := by
  obtain ⟨-, h46, h101, h69⟩ := hy
  rw [readNumberTail, bind_run_ok (peek_at h)]
  simp [h46, h101, h69]
  rfl

theorem readNumberTail_negInt {b : ByteArray} {i : Nat} {y : UInt8} {rest : List UInt8} {sig : Nat}
    (h : b.data.toList.drop i = y :: rest) (hy : EndsInteger y) (hpos : 0 < sig) (hle : sig ≤ Nat.pow 2 63) :
    readNumberTail false sig b i = .ok (.negInt (-(sig : Int)), i) := by
  obtain ⟨-, h46, h101, h69⟩ := hy
  rw [readNumberTail, bind_run_ok (peek_at h)]
  simp [h46, h101, h69, Nat.pos_iff_ne_zero.1 hpos, Nat.not_lt.2 hle]
  rfl

theorem readNumberTail_negZero {b : ByteArray} {i : Nat} {y : UInt8} {rest : List UInt8}
    (h : b.data.toList.drop i = y :: rest) (hy : EndsInteger y) :
    readNumberTail false 0 b i = .ok (.float (Binary64.zero true), i) := by
  obtain ⟨-, h46, h101, h69⟩ := hy
  rw [readNumberTail, bind_run_ok (peek_at h)]
  simp [h46, h101, h69]
  rfl


theorem readNumber_digitBytes (positive : Bool) {b : ByteArray} {i : Nat} {y : UInt8}
    {rest : List UInt8} (n : Nat) (hn : n ≤ maxU64) (h : b.data.toList.drop i = digitBytes n ++ y :: rest)
    (hy : isDigit y = false) :
    readNumber positive b i = readNumberTail positive n b (i + (digitBytes n).length) := by
  rcases Nat.eq_zero_or_pos n with rfl | hpos
  · -- a lone zero
    have hzero : digitBytes 0 = [48] := rfl
    rw [hzero] at h ⊢
    rw [readNumber, bind_run_ok (next_at h)]
    refine (bind_run_ok (peek_at (drop_succ_of_drop h))).trans ?_
    show (if isDigit y then _ else _ : Reader JsonNumber) b (i + 1) = _
    rw [hy]
    rfl
  · obtain ⟨d, ds, hds⟩ := List.exists_cons_of_ne_nil (@Nat.toDigits_ne_nil n 10)
    have hhead := toDigits_head_ne_zero hpos
    rw [hds] at hhead
    have hbytes : digitBytes n = d.toNat.toUInt8 :: ds.map fun c => c.toNat.toUInt8 := by
      simp [digitBytes, hds]
    have hd := isDigit_of_mem_digitBytes (show d.toNat.toUInt8 ∈ digitBytes n by simp [hbytes])
    have hne : d.toNat.toUInt8 ≠ 48 := by
      intro heq
      have hd0 : d.toNat = 48 := by
        have hdigit := Nat.isDigit_of_mem_toDigits (by decide) (by decide) (hds ▸ List.mem_cons_self)
        simp only [Char.isDigit, Bool.and_eq_true, decide_eq_true_eq, ge_iff_le, UInt32.le_iff_toNat_le,
          Char.reduceVal, UInt32.reduceToNat] at hdigit
        have := congrArg UInt8.toNat heq
        simp only [Nat.toUInt8, UInt8.toNat_ofNat', UInt8.reduceToNat, Char.toNat] at this ⊢
        omega
      exact hhead (by rw [show d = '0' from Char.toNat_inj.mp hd0]; rfl)
    rw [hbytes, List.cons_append] at h
    have hrest := drop_succ_of_drop h
    have hrun := digitRun_at hy
      (fun z hz => (isDigit_of_mem_digitBytes (show z ∈ digitBytes n by simp [hbytes, hz])).1) hrest
    have hvalue := foldl_digitBytes n
    rw [hbytes, List.map_cons, List.foldl_cons, Nat.zero_mul, Nat.zero_add] at hvalue
    have hfit := fitU64_of_le _ _ (hvalue ▸ hn)
    rw [hvalue] at hfit
    rw [readNumber, bind_run_ok (next_at h)]
    -- the match takes its last branch, `hne` ruling out a leading zero
    simp only [hd.1, Bool.not_true, Bool.false_eq_true, if_false]
    refine (bind_run_ok (show digits b (i + 1) = .ok _ from rfl)).trans ?_
    rw [hrun]
    dsimp only
    rw [hfit]
    simp [hbytes, Nat.add_assoc, Nat.add_comm 1]


def intBytes (e : Int) : List UInt8 := (toString e).toUTF8.data.toList

theorem bytes_ofList_ascii : ∀ (l : List Char), (∀ c ∈ l, c.toNat < 128) →
    (String.ofList l).toByteArray.data.toList = l.map fun c => c.toNat.toUInt8
  | [], _ => rfl
  | c :: l, hascii => by
    have hc : String.utf8EncodeChar c = [c.toNat.toUInt8] := by
      have := hascii c (by simp)
      simp only [String.utf8EncodeChar, Char.toNat] at this ⊢
      rw [if_pos (by omega)]
    have ih := bytes_ofList_ascii l fun d hd => hascii d (by simp [hd])
    simp only [String.toByteArray_ofList, List.utf8Encode,
      List.data_toByteArray, List.toList_toArray] at ih ⊢
    rw [List.flatMap_cons, hc, ih]
    rfl

theorem digit_lt_128 {n : Nat} : ∀ c ∈ Nat.toDigits 10 n, c.toNat < 128 := by
  intro c hc
  have hdigit := Nat.isDigit_of_mem_toDigits (by decide) (by decide) hc
  simp only [Char.isDigit, Bool.and_eq_true, decide_eq_true_eq, ge_iff_le, UInt32.le_iff_toNat_le,
    Char.reduceVal, UInt32.reduceToNat] at hdigit
  simp only [Char.toNat]
  omega

theorem intBytes_of_nonneg {e : Int} (he : 0 ≤ e) : intBytes e = digitBytes e.toNat := by
  rw [intBytes, Int.toString_eq_repr, Int.repr_eq_if, if_pos he, Nat.repr,
    String.toUTF8_eq_toByteArray, bytes_ofList_ascii _ digit_lt_128]
  rfl

theorem intBytes_of_neg {e : Int} (he : e < 0) : intBytes e = 45 :: digitBytes (-e).toNat := by
  rw [intBytes, Int.toString_eq_repr, Int.repr_eq_if, if_neg (by omega), Nat.repr,
    String.toUTF8_eq_toByteArray, String.toByteArray_append, ByteArray.toList_data_append,
    bytes_ofList_ascii _ digit_lt_128]
  rfl


theorem isBlank_of_isDigit {x : UInt8} (hx : isDigit x = true) : isBlank x = false := by
  simp only [isDigit, Bool.and_eq_true, decide_eq_true_eq, UInt8.le_iff_toNat_le, UInt8.reduceToNat] at hx
  simp only [isBlank, Bool.or_eq_false_iff, beq_eq_false_iff_ne, ne_eq, ← UInt8.toNat_inj,
    UInt8.reduceToNat]
  omega

theorem ne_minus_of_isDigit {x : UInt8} (hx : isDigit x = true) : x ≠ 45 := by
  rintro rfl
  cases hx

theorem readI64_at {b : ByteArray} {i : Nat} {y : UInt8} {rest : List UInt8} (e : Int)
    (hlo : -(2 ^ 63 : Int) ≤ e) (hhi : e < 2 ^ 63) (h : b.data.toList.drop i = intBytes e ++ y :: rest)
    (hy : Closer y) : readI64 b i = .ok (e, i + (intBytes e).length) := by
  rcases Int.lt_or_le e 0 with hneg | hnonneg
  · rw [intBytes_of_neg hneg] at h ⊢
    have hm : 0 < (-e).toNat ∧ (-e).toNat ≤ Nat.pow 2 63 := by simp only [Nat.pow_eq]; omega
    have hnum := readNumber_digitBytes false (-e).toNat (by simp only [maxU64, Nat.pow_eq]; omega)
      (drop_succ_of_drop h) (isDigit_of_closer hy)
    have hafter : b.data.toList.drop (i + 1 + (digitBytes (-e).toNat).length) = y :: rest :=
      drop_add_of_drop (drop_succ_of_drop h)
    rw [readI64, bind_run_ok (skipBlanks_at h rfl)]
    simp only [show ((45 : UInt8) == 45) = true from rfl, Bool.true_or, ite_true, bne, Bool.not_true]
    rw [bind_run_ok (eat_run b i),
      bind_run_ok (hnum.trans (readNumberTail_negInt hafter hy.endsInteger hm.1 hm.2))]
    show Except.ok (-((-e).toNat : Int), _) = _
    rw [Int.toNat_of_nonneg (by omega), Int.neg_neg]
    simp [Nat.add_assoc, Nat.add_comm 1]
  · rw [intBytes_of_nonneg hnonneg] at h ⊢
    obtain ⟨x, xs, hxs⟩ := List.exists_cons_of_ne_nil
      (show digitBytes e.toNat ≠ [] by simp [digitBytes, Nat.toDigits_ne_nil])
    have hx := (isDigit_of_mem_digitBytes (show x ∈ digitBytes e.toNat by simp [hxs])).1
    have hnum := readNumber_digitBytes true e.toNat (by simp [maxU64]; omega) h (isDigit_of_closer hy)
    rw [hxs, List.cons_append] at h
    have hx45 : (x == 45) = false := beq_false_of_ne (ne_minus_of_isDigit hx)
    have hafter : b.data.toList.drop (i + (digitBytes e.toNat).length) = y :: rest := by
      rw [hxs]; simpa [Nat.add_assoc, Nat.add_comm 1] using drop_add_of_drop (drop_succ_of_drop h)
    rw [readI64, bind_run_ok (skipBlanks_at h (isBlank_of_isDigit hx))]
    simp only [hx, hx45, Bool.or_true, Bool.false_eq_true, ite_true, ite_false, bne, Bool.not_false]
    rw [bind_run_ok (hnum.trans (readNumberTail_nat _ hafter hy.endsInteger))]
    show (if e.toNat ≤ maxI64 then _ else _ : Reader Int) b _ = _
    rw [if_pos (by simp only [maxI64, Nat.pow_eq]; omega)]
    show Except.ok ((e.toNat : Int), _) = _
    rw [Int.toNat_of_nonneg hnonneg]


theorem map_run_ok {α β : Type} {x : Reader α} {f : α → β} {b : ByteArray} {i j : Nat} {a : α}
    (h : x b i = .ok (a, j)) : (f <$> x) b i = .ok (f a, j) := by
  show (do let p ← x b i; pure (f p.1, p.2) : Except ReadError (β × Nat)) = _
  rw [h]; rfl

theorem keyword_at {b : ByteArray} {rest : List UInt8} :
    ∀ {word : List UInt8} {i : Nat}, b.data.toList.drop i = word ++ rest →
      keyword word b i = .ok ((), i + word.length)
  | [], i, _ => rfl
  | c :: cs, i, h => by
    rw [keyword, bind_run_ok (next_at h)]
    show (if c == c then keyword cs else fail "expected ident" : Reader Unit) b (i + 1) = _
    rw [beq_self_eq_true, if_pos rfl, keyword_at (drop_succ_of_drop h)]
    simp [Nat.add_assoc, Nat.add_comm 1]

theorem intBytes_head (e : Int) : ∃ x xs, intBytes e = x :: xs ∧ (x = 45 ∨ isDigit x = true) := by
  rcases Int.lt_or_le e 0 with hneg | hnonneg
  · exact ⟨45, _, intBytes_of_neg hneg, .inl rfl⟩
  · obtain ⟨x, xs, hxs⟩ := List.exists_cons_of_ne_nil
      (show digitBytes e.toNat ≠ [] by simp [digitBytes, Nat.toDigits_ne_nil])
    refine ⟨x, xs, (intBytes_of_nonneg hnonneg).trans hxs, .inr ?_⟩
    exact (isDigit_of_mem_digitBytes (show x ∈ digitBytes e.toNat by simp [hxs])).1

def optionBytes : Option Int → List UInt8
  | some e => intBytes e
  | none => [110, 117, 108, 108]

theorem readOptionalI64_at {b : ByteArray} {i : Nat} {y : UInt8} {rest : List UInt8} (e? : Option Int)
    (hrange : ∀ e ∈ e?, -(2 ^ 63 : Int) ≤ e ∧ e < 2 ^ 63)
    (h : b.data.toList.drop i = optionBytes e? ++ y :: rest) (hy : Closer y) :
    readOptionalI64 b i = .ok (e?, i + (optionBytes e?).length) := by
  cases e? with
  | none =>
    rw [readOptionalI64, bind_run_ok (skipBlanks_at h rfl)]
    refine (bind_run_ok (eat_run b i)).trans ?_
    rw [bind_run_ok (keyword_at (drop_succ_of_drop h))]
    rfl
  | some e =>
    obtain ⟨hlo, hhi⟩ := hrange e rfl
    obtain ⟨x, xs, hxs, hx⟩ := intBytes_head e
    have hstart : b.data.toList.drop i = x :: (xs ++ y :: rest) := by
      rw [h, optionBytes, hxs, List.cons_append]
    have hblank : isBlank x = false := by
      rcases hx with rfl | hx
      · rfl
      · exact isBlank_of_isDigit hx
    have hnull : x ≠ 110 := by
      rintro rfl
      rcases hx with hx | hx <;> cases hx
    rw [readOptionalI64, bind_run_ok (skipBlanks_at hstart hblank)]
    -- the match takes its last branch: what was read is not the keyword's first byte
    have hnull' : some x ≠ some (110 : UInt8) := by simpa using hnull
    simp only []
    exact map_run_ok (readI64_at e hlo hhi h hy)


/-! ## Records -/

def quoteBytes (s : String) : List UInt8 := (quote s).toUTF8.data.toList

theorem string_quoteBytes {b : ByteArray} {i : Nat} {rest : List UInt8} (s : String)
    (h : b.data.toList.drop i = quoteBytes s ++ rest) :
    b.data.toList.drop i = 34 :: (s.toList.flatMap escapedBytes ++ 34 :: rest) ∧
      string b (i + 1) = .ok (s, i + (quoteBytes s).length) := by
  rw [quoteBytes, quote_bytes] at h ⊢
  simp only [List.cons_append, List.append_assoc] at h
  refine ⟨h, ?_⟩
  rw [string_at s (drop_succ_of_drop h)]
  simp [Nat.add_assoc, Nat.add_comm 1]

theorem readString_at {b : ByteArray} {i : Nat} {rest : List UInt8} (s : String)
    (h : b.data.toList.drop i = quoteBytes s ++ rest) :
    readString b i = .ok (s, i + (quoteBytes s).length) := by
  obtain ⟨hopen, hstring⟩ := string_quoteBytes s h
  rw [readString, bind_run_ok (skipBlanks_at hopen rfl)]
  exact (bind_run_ok (eat_run b i)).trans hstring

/-- Reading one member of a record whose key is known and not yet seen: the key, after a
comma unless it is the first, then the colon and the field's value. -/
theorem recordMembers_member {σ : Type} {known : List String} {field : String → σ → Reader σ}
    {fuel : Nat} {first : Bool} {seen : List String} {acc acc' : σ} {k : String} {b : ByteArray}
    {i j : Nat} {rest : List UInt8} (hk : k ∈ known) (hseen : k ∉ seen)
    (h : b.data.toList.drop i = (if first then [] else [44]) ++ quoteBytes k ++ 58 :: rest)
    (hfield : field k acc b (i + (if first then 0 else 1) + (quoteBytes k).length + 1) = .ok (acc', j)) :
    recordMembers known field (fuel + 1) first seen acc b i =
      recordMembers known field fuel false (k :: seen) acc' b j := by
  -- `p` is where the key's opening quote stands
  obtain ⟨p, hp, hkey⟩ : ∃ p, p = i + (if first then 0 else 1) ∧
      b.data.toList.drop p = quoteBytes k ++ 58 :: rest := by
    cases first
    · exact ⟨_, rfl, by simpa using drop_succ_of_drop (by simpa using h)⟩
    · exact ⟨_, rfl, by simpa using h⟩
  rw [← hp] at hfield
  obtain ⟨hopen, hstring⟩ := string_quoteBytes k hkey
  have hcolon : b.data.toList.drop (p + (quoteBytes k).length) = 58 :: rest := drop_add_of_drop hkey
  have hnew : (known.contains k && seen.contains k) = false := by simp [hseen]
  cases first
  case' true =>
    simp only [ite_true, Nat.add_zero] at hp
    subst hp
    rw [recordMembers, bind_run_ok (skipBlanks_at hopen rfl)]
    dsimp only
  case' false =>
    simp only [Bool.false_eq_true, ite_false, List.cons_append] at hp h
    subst hp
    rw [recordMembers, bind_run_ok (skipBlanks_at h rfl)]
    simp only [Bool.false_eq_true, if_false]
    rw [bind_run_ok (eat_run b i), bind_run_ok (skipBlanks_at hopen rfl)]
    simp only []
  all_goals
    refine (bind_run_ok (rfl : (pure true : Reader Bool) b _ = .ok (true, _))).trans ?_
    simp only [Bool.not_true, Bool.false_eq_true, ite_false]
    rw [bind_run_ok (eat_run _ _), bind_run_ok hstring, hnew]
    simp only [Bool.false_eq_true, ite_false]
    rw [bind_run_ok (skipBlanks_at hcolon rfl)]
    simp only []
    rw [bind_run_ok (eat_run _ _)]
    simp only [List.contains_iff_mem, hk, ite_true]
    exact bind_run_ok hfield

theorem recordMembers_close {σ : Type} {known : List String} {field : String → σ → Reader σ}
    {fuel : Nat} {first : Bool} {seen : List String} {acc : σ} {b : ByteArray} {i : Nat}
    {rest : List UInt8} (h : b.data.toList.drop i = 125 :: rest) :
    recordMembers known field (fuel + 1) first seen acc b i = .ok (.ok acc, i) := by
  rw [recordMembers, bind_run_ok (skipBlanks_at h rfl)]
  rfl


/-- The bytes of record members: each key quoted, a colon and the value's bytes, with
commas between members. -/
def memberBytes : Bool → List (String × List UInt8) → List UInt8
  | _, [] => []
  | first, (k, v) :: ms => (if first then [] else [44]) ++ quoteBytes k ++ 58 :: v ++ memberBytes false ms

/-- `field k` reads the value bytes `v` into `acc` as `acc'`, wherever they stand before a
comma or a closing brace. -/
def FieldReads {σ : Type} (field : String → σ → Reader σ) (k : String) (acc : σ) (v : List UInt8)
    (acc' : σ) : Prop :=
  ∀ (b : ByteArray) i y rest, b.data.toList.drop i = v ++ y :: rest → Closer y →
    field k acc b i = .ok (acc', i + v.length)

def ReadsMembers {σ : Type} (field : String → σ → Reader σ) : σ → List (String × List UInt8) → σ → Prop
  | acc, [], acc' => acc' = acc
  | acc, (k, v) :: ms, acc' => ∃ acc₁, FieldReads field k acc v acc₁ ∧ ReadsMembers field acc₁ ms acc'

theorem recordMembers_members {σ : Type} {known : List String} {field : String → σ → Reader σ}
    {b : ByteArray} {rest : List UInt8} :
    ∀ (ms : List (String × List UInt8)) {first : Bool} {seen : List String} {acc acc' : σ}
      {fuel i : Nat}, ReadsMembers field acc ms acc' → (ms.map Prod.fst).Nodup →
      (∀ m ∈ ms, m.1 ∈ known ∧ m.1 ∉ seen) → ms.length < fuel →
      b.data.toList.drop i = memberBytes first ms ++ 125 :: rest →
      recordMembers known field fuel first seen acc b i = .ok (.ok acc', i + (memberBytes first ms).length)
  | [], first, seen, acc, acc', fuel, i, hreads, _, _, hfuel, h => by
    obtain ⟨f, rfl⟩ : ∃ f, fuel = f + 1 := ⟨fuel - 1, by simp at hfuel; omega⟩
    simp only [ReadsMembers] at hreads
    subst hreads
    simpa [memberBytes] using recordMembers_close h
  | (k, v) :: ms, first, seen, acc, acc', fuel, i, hreads, hnodup, hkeys, hfuel, h => by
    obtain ⟨f, rfl⟩ : ∃ f, fuel = f + 1 := ⟨fuel - 1, by simp at hfuel; omega⟩
    obtain ⟨acc₁, hfield, hrest⟩ := hreads
    obtain ⟨hk, hseen⟩ := hkeys (k, v) (by simp)
    have hnext : ∀ m ∈ ms, m.1 ∈ known ∧ m.1 ∉ k :: seen := by
      intro m hm
      refine ⟨(hkeys m (by simp [hm])).1, ?_⟩
      simp only [List.mem_cons, not_or]
      refine ⟨fun heq => ?_, (hkeys m (by simp [hm])).2⟩
      simp only [List.map_cons, List.nodup_cons, List.mem_map] at hnodup
      exact hnodup.1 ⟨m, hm, heq⟩
    -- what follows the value: a comma before the next member, or the closing brace
    obtain ⟨y, after, hafter, hy⟩ : ∃ y after, memberBytes false ms ++ 125 :: rest = y :: after ∧ Closer y := by
      cases ms with
      | nil => exact ⟨125, rest, rfl, .inr rfl⟩
      | cons m ms =>
        exact ⟨44, quoteBytes m.1 ++ 58 :: (m.2 ++ (memberBytes false ms ++ 125 :: rest)),
          by simp [memberBytes], .inl rfl⟩
    have hmember : b.data.toList.drop i =
        (if first then [] else [44]) ++ quoteBytes k ++ 58 :: (v ++ memberBytes false ms ++ 125 :: rest) := by
      rw [h, memberBytes]; simp
    have hvalue : b.data.toList.drop (i + (if first then 0 else 1) + (quoteBytes k).length + 1) =
        v ++ y :: after := by
      rw [← hafter, ← List.append_assoc]
      have := drop_succ_of_drop (drop_add_of_drop hmember)
      cases first <;> simpa [Nat.add_assoc, Nat.add_comm 1] using this
    rw [recordMembers_member hk hseen hmember (hfield b _ y after hvalue hy),
      recordMembers_members ms hrest (List.nodup_cons.mp hnodup).2 hnext (by simp at hfuel; omega)
        (by rw [hafter]; exact drop_add_of_drop hvalue)]
    cases first <;> simp [memberBytes] <;> omega


theorem length_le_memberBytes : ∀ (first : Bool) (ms : List (String × List UInt8)),
    ms.length ≤ (memberBytes first ms).length
  | _, [] => Nat.le_refl 0
  | first, (k, v) :: ms => by
    have := length_le_memberBytes false ms
    simp only [memberBytes, List.length_cons, List.length_append]
    omega

theorem readRecord_object {σ α : Type} {name : String} {known : List String} {init acc : σ}
    {field : String → σ → Reader σ} {finish : σ → Except String α} {elements : Reader (Except String α)}
    {a : α} {b : ByteArray} {i : Nat} {rest : List UInt8} (ms : List (String × List UInt8))
    (h : b.data.toList.drop i = 123 :: (memberBytes true ms ++ 125 :: rest))
    (hreads : ReadsMembers field init ms acc) (hnodup : (ms.map Prod.fst).Nodup)
    (hknown : ∀ m ∈ ms, m.1 ∈ known) (hfinish : finish acc = .ok a) :
    readRecord name known init field finish elements b i =
      .ok (a, i + 1 + (memberBytes true ms).length + 1) := by
  have hmembers := drop_succ_of_drop h
  have hfuel : ms.length < b.size + 1 := by
    have hlen := congrArg List.length hmembers
    have := length_le_memberBytes true ms
    rw [List.length_drop, Array.length_toList, ByteArray.size_data] at hlen
    simp only [List.length_append, List.length_cons] at hlen
    omega
  have hclose := drop_add_of_drop hmembers
  rw [readRecord, bind_run_ok (skipBlanks_at h rfl)]
  refine (bind_run_ok (eat_run b i)).trans ?_
  rw [bind_run_ok (rfl : (read : Reader ByteArray) b (i + 1) = .ok (b, i + 1)),
    bind_run_ok (recordMembers_members ms hreads hnodup (fun m hm => ⟨hknown m hm, by simp⟩) hfuel hmembers),
    bind_run_ok (skipBlanks_at hclose rfl)]
  refine (bind_run_ok (eat_run b _)).trans ?_
  dsimp only
  rw [hfinish]
  rfl


/-! ## Whole texts -/

theorem skipBlanks_end {b : ByteArray} : skipBlanks b b.size = .ok (none, b.size) := by
  unfold skipBlanks
  show peek b (blankEnd b b.size) = _
  rw [blankEnd, dif_neg (Nat.lt_irrefl _), peek_run, dif_neg (Nat.lt_irrefl _)]

theorem decodeBytes_of_whole {α : Type} {r : Reader α} {b : ByteArray} {a : α}
    (h : r b 0 = .ok (a, b.size)) : decodeBytes r b = .ok a := by
  unfold decodeBytes
  show Except.map _ ((r >>= fun v => _) b 0) = _
  rw [bind_run_ok h, bind_run_ok skipBlanks_end]
  rfl

end Json

end KvStore
