import Mathlib
import KvStore.Decimal.Binary64

/-!
Binary64 numbers as rationals.

A finite number is `±N / D`, `N` and `D` the numerator and denominator of its `toRatio`
(`value`). Its truncation is the value truncated toward zero (`trunc_eq`), and comparing its
magnitude with a power of two compares `N` with `2 ^ p * D`. The fields of a bit pattern are
read arithmetically, so a number packed from a biased exponent and a fraction unpacks to them
(`pack_fields`); with it `ofNat` is evaluated on the integers from `2 ^ 63` to `2 ^ 64`: each
becomes `2048` times its quotient by `2048` rounded to even (`ofNat_of_between`), so those up
to `2 ^ 63 + 1024` round to `2 ^ 63` and the others above it.
-/

namespace KvStore

namespace Binary64

def value (x : Binary64) : ℚ := (if x.negative then -1 else 1) * ((x.toRatio.2.1 : ℚ) / x.toRatio.2.2)

def truncTowardZero (q : ℚ) : ℤ := if 0 ≤ q then ⌊q⌋ else ⌈q⌉

section Truncation

theorem truncTowardZero_neg (q : ℚ) : truncTowardZero (-q) = -truncTowardZero q := by
  unfold truncTowardZero
  rcases lt_trichotomy q 0 with hq | rfl | hq
  · rw [if_pos (by linarith), if_neg (by linarith), Int.floor_neg]
  · simp
  · rw [if_neg (by linarith), if_pos hq.le, Int.ceil_neg]

theorem truncTowardZero_natCast_div (n d : ℕ) : truncTowardZero ((n : ℚ) / d) = ((n / d : ℕ) : ℤ) := by
  rw [truncTowardZero, if_pos (by positivity), Rat.floor_natCast_div_natCast]
  push_cast
  rfl

theorem truncTowardZero_nonneg {q : ℚ} (hq : 0 ≤ q) : 0 ≤ truncTowardZero q := by
  rw [truncTowardZero, if_pos hq]
  exact Int.floor_nonneg.2 hq

theorem truncTowardZero_nonpos {q : ℚ} (hq : q ≤ 0) : truncTowardZero q ≤ 0 := by
  have h := truncTowardZero_nonneg (neg_nonneg.2 hq)
  rw [truncTowardZero_neg] at h
  omega

theorem powTwo_snd_pos (e : Int) : 0 < (powTwo e).2 := by
  unfold powTwo
  split <;> simp [Nat.pow_eq]

theorem toRatio_snd_pos (x : Binary64) : 0 < x.toRatio.2.2 := by
  rcases hd : x.decode with ⟨m, e⟩
  simp only [toRatio, hd]
  exact powTwo_snd_pos e

theorem truncMagnitude_eq (x : Binary64) : x.truncMagnitude = x.toRatio.2.1 / x.toRatio.2.2 := by
  rcases hd : x.decode with ⟨m, e⟩
  simp only [truncMagnitude, toRatio, hd, powTwo]
  split <;> simp [Nat.shiftLeft_eq, Nat.shiftRight_eq_div_pow]

theorem compareMagnitudePowTwo_eq (x : Binary64) (p : Nat) :
    x.compareMagnitudePowTwo p = compare x.toRatio.2.1 (2 ^ p * x.toRatio.2.2) := by
  rcases hd : x.decode with ⟨m, e⟩
  simp only [compareMagnitudePowTwo, toRatio, hd, Nat.pow_eq]

theorem trunc_eq (x : Binary64) : x.trunc = truncTowardZero x.value := by
  rw [trunc, value, truncMagnitude_eq]
  cases x.negative
  · simp [truncTowardZero_natCast_div]
  · simp [truncTowardZero_neg, truncTowardZero_natCast_div]

end Truncation

section Fields

theorem negative_eq (x : Binary64) : x.negative = decide (2 ^ 63 ≤ x.bits.toNat) := by
  have hlt := x.bits.toNat_lt
  have h : (x.bits >>> 63).toNat = x.bits.toNat / 2 ^ 63 := by
    rw [UInt64.toNat_shiftRight, Nat.shiftRight_eq_div_pow]
    rfl
  rw [negative]
  by_cases hle : 2 ^ 63 ≤ x.bits.toNat
  · rw [decide_eq_true hle, beq_iff_eq, ← UInt64.toNat_inj, h]
    simp only [UInt64.reduceToNat]
    omega
  · rw [decide_eq_false hle, beq_eq_false_iff_ne, ne_eq, ← UInt64.toNat_inj, h]
    simp only [UInt64.reduceToNat]
    omega

theorem biasedExponent_eq (x : Binary64) : x.biasedExponent = x.bits.toNat / 2 ^ 52 % 2 ^ 11 := by
  rw [biasedExponent, UInt64.toNat_and, UInt64.toNat_shiftRight, Nat.shiftRight_eq_div_pow,
    show (0x7FF : UInt64).toNat = 2 ^ 11 - 1 from rfl, Nat.and_two_pow_sub_one_eq_mod]
  rfl

theorem fraction_eq (x : Binary64) : x.fraction = x.bits.toNat % 2 ^ 52 := by
  rw [fraction, UInt64.toNat_and, show (0xFFFFFFFFFFFFF : UInt64).toNat = 2 ^ 52 - 1 from rfl,
    Nat.and_two_pow_sub_one_eq_mod]

def pack (E F : Nat) : Binary64 := ⟨UInt64.ofNat (E * 2 ^ 52 + F)⟩

theorem pack_fields {E F : Nat} (hE : E < 2 ^ 11) (hF : F < 2 ^ 52) :
    (pack E F).negative = false ∧ (pack E F).biasedExponent = E ∧ (pack E F).fraction = F := by
  have hbits : (pack E F).bits.toNat = E * 2 ^ 52 + F := by
    rw [pack, UInt64.toNat_ofNat', Nat.mod_eq_of_lt (by omega)]
  rw [negative_eq, biasedExponent_eq, fraction_eq, hbits]
  exact ⟨decide_eq_false (by omega), by omega, by omega⟩

theorem toRatio_eq (x : Binary64) :
    x.toRatio = (x.negative, x.decode.1 * (powTwo x.decode.2).1, (powTwo x.decode.2).2) := by
  rcases hd : x.decode with ⟨m, e⟩
  simp only [toRatio, hd]

/-- A normal number with a non-negative unit exponent is the integer `(2 ^ 52 + F) * 2 ^ (E - 1075)`. -/
theorem pack_value {E F : Nat} (hE : 1075 ≤ E) (hE' : E < 2047) (hF : F < 2 ^ 52) :
    (pack E F).isFinite = true ∧ (pack E F).value = ((F + 2 ^ 52) * 2 ^ (E - 1075) : ℕ) := by
  obtain ⟨hneg, hexp, hfrac⟩ := pack_fields (show E < 2 ^ 11 by omega) hF
  have hdecode : (pack E F).decode = (F + 2 ^ 52, ((E - 1075 : ℕ) : Int)) := by
    rw [decode, if_neg (by omega), hexp, hfrac, Nat.pow_eq]
    congr 1
    omega
  have hpow : powTwo ((E - 1075 : ℕ) : Int) = (2 ^ (E - 1075), 1) := by
    rw [powTwo, if_pos (Int.natCast_nonneg _), Int.toNat_natCast, Nat.pow_eq]
  refine ⟨by simp only [isFinite, hexp]; exact bne_iff_ne.2 (by omega), ?_⟩
  simp only [value, toRatio_eq, hdecode, hpow, hneg, Bool.false_eq_true, if_false, one_mul, Nat.cast_one,
    div_one]

end Fields

section Rounding

theorem divRoundEven_cases (num den : Nat) :
    divRoundEven num den = num / den ∨ divRoundEven num den = num / den + 1 := by
  unfold divRoundEven
  dsimp only
  split_ifs <;> simp

theorem le_divRoundEven {n : Nat} (h1 : 2 ^ 63 ≤ n) : 2 ^ 52 ≤ divRoundEven n 2048 := by
  rcases divRoundEven_cases n 2048 with h | h <;> omega

theorem floorLog2_of_between {n : Nat} (h1 : 2 ^ 63 ≤ n) (h2 : n < 2 ^ 64) : floorLog2 n 1 = 63 := by
  have hlog : n.log2 = 63 := (Nat.log2_eq_iff (by omega)).2 ⟨h1, h2⟩
  have hone : (1 : Nat).log2 = 0 := (Nat.log2_eq_iff (by omega)).2 ⟨by omega, by omega⟩
  simp [floorLog2, hlog, hone, powTwo]
  omega

/-- An integer from `2 ^ 63` to `2 ^ 64` as binary64: its quotient by `2048`, rounded to even,
as the significand; a quotient of `2 ^ 53` carries into the next exponent. -/
theorem ofNat_of_between {n : Nat} (h1 : 2 ^ 63 ≤ n) (h2 : n < 2 ^ 64) :
    ofNat n = if divRoundEven n 2048 = 2 ^ 53 then pack 1087 0 else pack 1086 (divRoundEven n 2048 - 2 ^ 52) := by
  unfold ofNat ofRatio
  rw [if_neg (by omega), floorLog2_of_between h1 h2]
  have hpow : powTwo (52 - 63) = (1, 2048) := rfl
  simp only [show ¬ ((63 : Int) < -1022) by omega, if_false, hpow, Nat.mul_one, Nat.one_mul]
  by_cases hq : divRoundEven n 2048 = Nat.pow 2 53
  · simp only [hq, if_true]
    decide
  · simp only [hq, if_false]
    rw [if_neg (by decide), if_neg (show ¬ divRoundEven n 2048 = 2 ^ 53 from hq), pack,
      show signBit false = 0 from rfl, UInt64.zero_or, Nat.shiftLeft_eq]
    rfl

theorem ofNat_value_of_between {n : Nat} (h1 : 2 ^ 63 ≤ n) (h2 : n < 2 ^ 64) :
    (ofNat n).isFinite = true ∧ (ofNat n).value = (divRoundEven n 2048 * 2048 : ℕ) := by
  have hq := divRoundEven_cases n 2048
  rw [ofNat_of_between h1 h2]
  by_cases htop : divRoundEven n 2048 = 2 ^ 53
  · rw [if_pos htop, htop]
    exact pack_value (by omega) (by omega) (by omega)
  · rw [if_neg htop]
    obtain ⟨hfin, hval⟩ := pack_value (E := 1086) (F := divRoundEven n 2048 - 2 ^ 52) (by omega) (by omega)
      (by omega)
    refine ⟨hfin, hval.trans ?_⟩
    rw [Nat.sub_add_cancel (le_divRoundEven h1)]
    norm_num

/-- It rounds to `2 ^ 63` exactly up to `2 ^ 63 + 1024`, the tie going to the even significand. -/
theorem divRoundEven_eq_iff {n : Nat} (h1 : 2 ^ 63 ≤ n) (h2 : n < 2 ^ 64) :
    divRoundEven n 2048 = 2 ^ 52 ↔ n ≤ 2 ^ 63 + 1024 := by
  unfold divRoundEven
  dsimp only
  split_ifs <;> omega

end Rounding

end Binary64

end KvStore
