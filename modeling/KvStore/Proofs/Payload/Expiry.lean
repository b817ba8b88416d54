import Mathlib
import KvStore.Payload
import KvStore.Proofs.Json.Reading
import KvStore.Proofs.Decimal.Binary64

/-!
The expiry a payload carries.

An integer literal in the signed 64-bit range, read by the number reader, gives the object
holding it exactly that expiry (`readNumber_integer_expiry`). Every other number is taken as
the float the reader holds: truncated toward zero when its value lies in `[-2 ^ 63, 2 ^ 63)`,
`i64::MAX` at exactly `2 ^ 63` where the cast saturates, and nothing beyond
(`expiryOfFloat_eq`). A natural number above `i64::MAX` is first rounded to the nearest
float, which is `2 ^ 63` exactly up to `2 ^ 63 + 1024`; so those give `i64::MAX` and the
larger ones nothing, none of them wrapping around to a negative expiry. The expiry always
has the sign of the number.

The float of a decimal literal with a fraction or an exponent is not always the nearest one:
the reader rounds the significand first and scales it by a power of ten after, so a literal
just below an integer can be read as that integer.
-/

namespace KvStore

open Binary64

/-- The expiry of a float, by its value: truncated in `[-2 ^ 63, 2 ^ 63)`, saturated at
`2 ^ 63`, none otherwise. -/
def floatExpiry (f : Binary64) : Option Int :=
  if f.isFinite = true ∧ -2 ^ 63 ≤ f.value ∧ f.value < 2 ^ 63 then some (truncTowardZero f.value)
  else if f.isFinite = true ∧ f.value = 2 ^ 63 then some maxI64
  else none

@[simp] def JsonNumber.value : JsonNumber → ℚ
  | .nat n => n
  | .negInt i => i
  | .float x => x.value

/-- The range the reader keeps each class of number in: naturals below `2 ^ 64`. -/
def JsonNumber.InRange : JsonNumber → Prop
  | .nat n => n ≤ Json.maxU64
  | .negInt _ => True
  | .float _ => True

section Bounds

theorem maxI64_eq : maxI64 = 2 ^ 63 - 1 := by
  simp only [maxI64, Int.pow_eq]

theorem minI64_eq : minI64 = -2 ^ 63 := by
  simp only [minI64, Int.pow_eq]

theorem maxU64_eq : Json.maxU64 = 2 ^ 64 - 1 := by
  simp only [Json.maxU64, Nat.pow_eq]

theorem clampI64_of_mem {i : Int} (hlo : -2 ^ 63 ≤ i) (hhi : i < 2 ^ 63) : clampI64 i = i := by
  rw [clampI64, minI64_eq, maxI64_eq]
  omega

theorem clampI64_two_pow : clampI64 (2 ^ 63) = maxI64 := by
  rw [clampI64, minI64_eq, maxI64_eq]
  omega

end Bounds

section Truncation

theorem truncTowardZero_intCast (z : ℤ) : truncTowardZero z = z := by
  unfold truncTowardZero
  split_ifs
  · exact Int.floor_intCast z
  · exact Int.ceil_intCast z

theorem truncTowardZero_mem {q : ℚ} (hlo : -2 ^ 63 < q) (hhi : q < 2 ^ 63) :
    -2 ^ 63 < truncTowardZero q ∧ truncTowardZero q < 2 ^ 63 := by
  unfold truncTowardZero
  split_ifs with hq
  · have h0 : 0 ≤ ⌊q⌋ := Int.floor_nonneg.2 hq
    have hlt : ⌊q⌋ < 2 ^ 63 := Int.floor_lt.2 (by exact_mod_cast hhi)
    omega
  · have h0 : ⌈q⌉ ≤ 0 := Int.ceil_le.2 (by push_cast; linarith)
    have hgt : -2 ^ 63 < ⌈q⌉ := Int.lt_ceil.2 (by exact_mod_cast hlo)
    omega

end Truncation

section Magnitude

theorem abs_value (x : Binary64) : |x.value| = (x.toRatio.2.1 : ℚ) / x.toRatio.2.2 := by
  unfold value
  split <;> simp [abs_div]

theorem compareMagnitudePowTwo_eq_compare (x : Binary64) (p : Nat) :
    x.compareMagnitudePowTwo p = compare |x.value| (2 ^ p) := by
  have hd : (0 : ℚ) < x.toRatio.2.2 := by exact_mod_cast toRatio_snd_pos x
  rw [compareMagnitudePowTwo_eq, abs_value]
  rcases lt_trichotomy x.toRatio.2.1 (2 ^ p * x.toRatio.2.2) with h | h | h
  · have hq : (x.toRatio.2.1 : ℚ) / x.toRatio.2.2 < 2 ^ p := by
      rw [div_lt_iff₀ hd]
      exact_mod_cast h
    rw [compare_lt_iff_lt.2 h, compare_lt_iff_lt.2 hq]
  · have hq : (x.toRatio.2.1 : ℚ) / x.toRatio.2.2 = 2 ^ p := by
      rw [div_eq_iff hd.ne']
      exact_mod_cast h
    rw [compare_eq_iff_eq.2 h, compare_eq_iff_eq.2 hq]
  · have hq : 2 ^ p < (x.toRatio.2.1 : ℚ) / x.toRatio.2.2 := by
      rw [lt_div_iff₀ hd]
      exact_mod_cast h
    rw [compare_gt_iff_gt.2 h, compare_gt_iff_gt.2 hq]

end Magnitude

theorem expiryOfFloat_eq (x : Binary64) : expiryOfFloat x = floatExpiry x := by
  unfold expiryOfFloat floatExpiry
  cases hfin : x.isFinite
  case false => simp
  case true =>
    rw [compareMagnitudePowTwo_eq_compare, trunc_eq]
    -- the magnitude against `2 ^ 63`: inside, on it, or beyond
    rcases lt_trichotomy |x.value| (2 ^ 63) with h | h | h
    case inl =>
      obtain ⟨hlo, hhi⟩ := abs_lt.1 h
      obtain ⟨tlo, thi⟩ := truncTowardZero_mem hlo hhi
      have hin : true = true ∧ -2 ^ 63 ≤ x.value ∧ x.value < 2 ^ 63 := ⟨rfl, hlo.le, hhi⟩
      rw [compare_lt_iff_lt.2 h, clampI64_of_mem tlo.le thi, if_pos hin]
      rfl
    case inr.inl =>
      rw [compare_eq_iff_eq.2 h]
      rcases (abs_eq (by positivity)).1 h with hv | hv
      · -- `2 ^ 63` itself saturates
        have ht : truncTowardZero (2 ^ 63) = 2 ^ 63 := by
          have h := truncTowardZero_intCast ((2 : ℤ) ^ 63)
          rwa [Int.cast_pow, Int.cast_ofNat] at h
        have hout : ¬ (true = true ∧ -2 ^ 63 ≤ x.value ∧ x.value < 2 ^ 63) := by simp [hv]
        have hat : true = true ∧ x.value = 2 ^ 63 := ⟨rfl, hv⟩
        rw [if_neg hout, if_pos hat, hv, ht, clampI64_two_pow]
        rfl
      · have ht : truncTowardZero (-2 ^ 63) = -2 ^ 63 := by
          have h := truncTowardZero_intCast (-(2 : ℤ) ^ 63)
          rwa [Int.cast_neg, Int.cast_pow, Int.cast_ofNat] at h
        have hin : true = true ∧ -2 ^ 63 ≤ x.value ∧ x.value < 2 ^ 63 :=
          ⟨rfl, hv.ge, by rw [hv]; norm_num⟩
        rw [if_pos hin, hv, ht, clampI64_of_mem le_rfl (by norm_num)]
        rfl
    case inr.inr =>
      have hout : ¬ (true = true ∧ -2 ^ 63 ≤ x.value ∧ x.value < 2 ^ 63) :=
        fun ⟨_, hlo, hhi⟩ => absurd h (not_lt.2 (abs_le.2 ⟨hlo, hhi.le⟩))
      have hne : ¬ (true = true ∧ x.value = 2 ^ 63) := by
        rintro ⟨-, hv⟩
        rw [hv] at h
        norm_num at h
      rw [compare_gt_iff_gt.2 h, if_neg hout, if_neg hne]
      rfl

section Fields

variable {v : Json}

theorem obj_of_field? {k : String} {j : Json} (h : v.field? k = some j) : ∃ fs, v = .obj fs := by
  cases v <;> simp [Json.field?] at h ⊢

theorem expiryOf_float {x : Binary64} (h : v.field? "expires" = some (.num (.float x))) :
    expiryOf v = expiryOfFloat x := by
  obtain ⟨fs, rfl⟩ := obj_of_field? h
  simp only [expiryOf, h]

theorem expiryOf_negInt {i : Int} (h : v.field? "expires" = some (.num (.negInt i))) :
    expiryOf v = some i := by
  obtain ⟨fs, rfl⟩ := obj_of_field? h
  simp only [expiryOf, h]

theorem expiryOf_nat_of_le {n : Nat} (h : v.field? "expires" = some (.num (.nat n))) (hn : (n : Int) ≤ maxI64) :
    expiryOf v = some (n : Int) := by
  obtain ⟨fs, rfl⟩ := obj_of_field? h
  simp only [expiryOf, h, if_pos hn]

theorem expiryOf_nat_of_gt {n : Nat} (h : v.field? "expires" = some (.num (.nat n))) (hn : maxI64 < n) :
    expiryOf v = expiryOfFloat (Binary64.ofNat n) := by
  obtain ⟨fs, rfl⟩ := obj_of_field? h
  simp only [expiryOf, h, if_neg (not_le.2 hn)]

end Fields

/-- A natural number above `i64::MAX` rounds to `2 ^ 63` up to `2 ^ 63 + 1024`, which
saturates to `i64::MAX`, and above `2 ^ 63` after it, which gives nothing. -/
theorem floatExpiry_ofNat_of_gt {n : Nat} (hlo : maxI64 < n) (hhi : n ≤ Json.maxU64) :
    floatExpiry (Binary64.ofNat n) = if n ≤ 2 ^ 63 + 1024 then some maxI64 else none := by
  have h1 : 2 ^ 63 ≤ n := by
    rw [maxI64_eq] at hlo
    omega
  have h2 : n < 2 ^ 64 := by
    rw [maxU64_eq] at hhi
    omega
  obtain ⟨hfin, hval⟩ := ofNat_value_of_between h1 h2
  have hq := le_divRoundEven h1
  -- the float is `2048` times a quotient of at least `2 ^ 52`, so never below `2 ^ 63`
  have hge : (2 : ℚ) ^ 63 ≤ (divRoundEven n 2048 * 2048 : ℕ) := by
    exact_mod_cast (show 2 ^ 63 ≤ divRoundEven n 2048 * 2048 by omega)
  have hout : ¬ ((ofNat n).isFinite = true ∧ -2 ^ 63 ≤ (ofNat n).value ∧ (ofNat n).value < 2 ^ 63) := by
    rintro ⟨-, -, hlt⟩
    rw [hval] at hlt
    exact absurd hlt (not_lt.2 hge)
  have hat : (ofNat n).value = 2 ^ 63 ↔ n ≤ 2 ^ 63 + 1024 := by
    rw [hval, ← divRoundEven_eq_iff h1 h2]
    constructor
    · intro h
      have h' : divRoundEven n 2048 * 2048 = 2 ^ 63 := by exact_mod_cast h
      omega
    · intro h
      rw [h]
      norm_num
  unfold floatExpiry
  rw [if_neg hout]
  by_cases hn : n ≤ 2 ^ 63 + 1024
  · rw [if_pos ⟨hfin, hat.2 hn⟩, if_pos hn]
  · rw [if_neg (fun h => hn (hat.1 h.2)), if_neg hn]

/-- An integer literal in the signed 64-bit range, followed by a byte that ends it, reads
as a number that gives any object holding it as `expires` exactly that expiry. -/
theorem readNumber_integer_expiry (positive : Bool) {b : ByteArray} {i : Nat} {y : UInt8}
    {rest : List UInt8} (n : Nat) (h : b.data.toList.drop i = Json.digitBytes n ++ y :: rest)
    (hy : Json.EndsInteger y) (hn : if positive then n < 2 ^ 63 else n ≤ 2 ^ 63) :
    ∃ m, Json.readNumber positive b i = .ok (m, i + (Json.digitBytes n).length) ∧
      ∀ v : Json, v.field? "expires" = some (.num m) →
        expiryOf v = some (if positive then (n : Int) else -n) := by
  have hafter := Json.drop_add_of_drop h
  have hread := Json.readNumber_digitBytes positive n (by rw [maxU64_eq]; split at hn <;> omega)
    h hy.1
  cases positive
  case true =>
    have hle : (n : Int) ≤ maxI64 := by
      rw [maxI64_eq]
      simp at hn
      omega
    exact ⟨.nat n, hread.trans (Json.readNumberTail_nat n hafter hy), fun v hv => expiryOf_nat_of_le hv hle⟩
  case false =>
    rcases Nat.eq_zero_or_pos n with rfl | hpos
    · -- `-0` is read as the negative zero float, which truncates to zero
      refine ⟨.float (Binary64.zero true), hread.trans (Json.readNumberTail_negZero hafter hy), fun v hv => ?_⟩
      rw [expiryOf_float hv]
      decide +kernel
    · have hle : n ≤ Nat.pow 2 63 := by simpa using hn
      refine ⟨.negInt (-(n : Int)), hread.trans (Json.readNumberTail_negInt hafter hy hpos hle), fun v hv => ?_⟩
      rw [expiryOf_negInt hv]
      rfl

theorem floatExpiry_sign {x : Binary64} {e : Int} (he : floatExpiry x = some e) :
    (0 ≤ x.value → 0 ≤ e) ∧ (x.value ≤ 0 → e ≤ 0) := by
  unfold floatExpiry at he
  split_ifs at he with hin hat
  · obtain rfl := Option.some_inj.1 he
    exact ⟨truncTowardZero_nonneg, truncTowardZero_nonpos⟩
  · obtain rfl := Option.some_inj.1 he
    refine ⟨fun _ => by rw [maxI64_eq]; omega, fun hv => ?_⟩
    rw [hat.2] at hv
    norm_num at hv

/-- Whatever number an object holds as `expires`, in the range the reader keeps it in, its
expiry has the number's sign. -/
theorem expiryOf_sign {v : Json} {m : JsonNumber} {e : Int} (hm : m.InRange)
    (hv : v.field? "expires" = some (.num m)) (he : expiryOf v = some e) :
    (0 ≤ m.value → 0 ≤ e) ∧ (m.value ≤ 0 → e ≤ 0) := by
  cases m
  case nat n =>
    by_cases hn : (n : Int) ≤ maxI64
    · rw [expiryOf_nat_of_le hv hn, Option.some_inj] at he
      subst he
      exact ⟨fun _ => by omega, fun h => by simp only [JsonNumber.value] at h; exact_mod_cast h⟩
    · -- beyond `i64::MAX` the only expiry is `i64::MAX` itself
      have hgt : maxI64 < n := not_le.1 hn
      have hmax : (0 : Int) < maxI64 := by
        rw [maxI64_eq]
        omega
      rw [expiryOf_nat_of_gt hv hgt, expiryOfFloat_eq, floatExpiry_ofNat_of_gt hgt hm] at he
      split_ifs at he
      obtain rfl := Option.some_inj.1 he
      refine ⟨fun _ => hmax.le, fun h => ?_⟩
      have hzero : n = 0 := by simpa using h
      omega
  case negInt i =>
    rw [expiryOf_negInt hv, Option.some_inj] at he
    subst he
    exact ⟨fun h => by simpa using h, fun h => by simpa using h⟩
  case float x =>
    rw [expiryOf_float hv, expiryOfFloat_eq] at he
    exact floatExpiry_sign he

/-- The expiry of an object: an integer literal in the signed 64-bit range exactly; any other
number as its float truncated toward zero in `[-2 ^ 63, 2 ^ 63)`, saturated at `2 ^ 63` and
none beyond, the naturals above `i64::MAX` rounding to `2 ^ 63` up to `2 ^ 63 + 1024`; and
never of the opposite sign to the number. -/
theorem expiry_exact_for_integers_else_saturating_truncation :
    (∀ (positive : Bool) (b : ByteArray) (i n : Nat) (y : UInt8) (rest : List UInt8),
      b.data.toList.drop i = Json.digitBytes n ++ y :: rest → Json.EndsInteger y →
      (if positive then n < 2 ^ 63 else n ≤ 2 ^ 63) →
      ∃ m, Json.readNumber positive b i = .ok (m, i + (Json.digitBytes n).length) ∧
        ∀ v : Json, v.field? "expires" = some (.num m) →
          expiryOf v = some (if positive then (n : Int) else -n)) ∧
    (∀ (v : Json) (x : Binary64), v.field? "expires" = some (.num (.float x)) → expiryOf v = floatExpiry x) ∧
    (∀ (v : Json) (n : Nat), maxI64 < n → v.field? "expires" = some (.num (.nat n)) →
      expiryOf v = floatExpiry (Binary64.ofNat n)) ∧
    (∀ n : Nat, maxI64 < n → n ≤ Json.maxU64 →
      floatExpiry (Binary64.ofNat n) = if n ≤ 2 ^ 63 + 1024 then some maxI64 else none) ∧
    (∀ (v : Json) (m : JsonNumber) (e : Int), m.InRange → v.field? "expires" = some (.num m) →
      expiryOf v = some e → (0 ≤ m.value → 0 ≤ e) ∧ (m.value ≤ 0 → e ≤ 0)) :=
  ⟨fun positive _ _ n _ _ h hy hn => readNumber_integer_expiry positive n h hy hn,
    fun _ _ h => (expiryOf_float h).trans (expiryOfFloat_eq _),
    fun _ _ hn h => (expiryOf_nat_of_gt h hn).trans (expiryOfFloat_eq _),
    fun _ hlo hhi => floatExpiry_ofNat_of_gt hlo hhi,
    fun _ _ _ hm hv he => expiryOf_sign hm hv he⟩

/-- `i64::MIN` written out reads back as itself, and the naturals on either side of
`2 ^ 63 + 1024` give `i64::MAX` and nothing. -/
theorem i64_min_literal_and_u64_boundary :
    (∃ m, Json.readNumber false ⟨(Json.digitBytes (2 ^ 63) ++ [44]).toArray⟩ 0 = .ok (m, 19) ∧
      ∀ v : Json, v.field? "expires" = some (.num m) → expiryOf v = some minI64) ∧
    floatExpiry (Binary64.ofNat (2 ^ 63 + 1024)) = some maxI64 ∧
    floatExpiry (Binary64.ofNat (2 ^ 63 + 1025)) = none := by
  obtain ⟨hlit, -, -, hbound, -⟩ := expiry_exact_for_integers_else_saturating_truncation
  have hlo : ∀ k, maxI64 < ((2 ^ 63 + k : ℕ) : Int) := fun k => by
    rw [maxI64_eq]
    omega
  have hhi : 2 ^ 63 + 1025 ≤ Json.maxU64 := by
    rw [maxU64_eq]
    omega
  obtain ⟨m, hread, hexp⟩ := hlit false ⟨(Json.digitBytes (2 ^ 63) ++ [44]).toArray⟩ 0 (2 ^ 63) 44 [] (by simp)
    (Json.Closer.endsInteger (Or.inl rfl)) (by decide)
  refine ⟨⟨m, hread.trans rfl, fun v hv => (hexp v hv).trans ?_⟩, ?_, ?_⟩
  · rw [minI64_eq]
    simp
  · rw [hbound _ (hlo 1024) (by omega), if_pos (by omega)]
  · rw [hbound _ (hlo 1025) hhi, if_neg (by omega)]

/-- A decimal literal just below an integer is read as that integer, while the float nearest
to it truncates to the integer below. -/
theorem decimal_expiry_reads_one_ulp_high :
    (Payload.text "\x7b\"expires\":1983723509327.9998\x7d").expires = some 1983723509328 ∧
    expiryOfFloat (Binary64.ofRatio false 19837235093279998 10000) = some 1983723509327 := by
  constructor <;> decide +kernel

end KvStore
