import Mathlib.Data.List.TakeWhile
import KvStore.Sql.Function
import KvStore.Sql.Operator
import KvStore.Key.Legacy

/-!
# Splitting legacy keys in SQL

The migration splits a legacy key `"<namespace>:<key>"` twice: its preview with
`splitLegacyKey`, and its SQL, which filters the rows on `instr(key, ':') > 1` and rewrites
them with `substr`. The filter picks exactly the keys `splitLegacyKey` splits, and the SQL
split is the same one exactly on keys without a NUL character
(`legacy_split_in_sql_iff_no_nul`): `instr` counts characters over a text's UTF-8 bytes,
NUL characters included, while `substr` reads a text only up to its first NUL.
-/

namespace KvStore

section SplitFirst

variable {sep : Char}

theorem splitFirst_eq_some_iff {cs a b : List Char} :
    splitFirst sep cs = some (a, b) ↔ cs = a ++ sep :: b ∧ sep ∉ a := by
  induction cs generalizing a with
  | nil => simp [splitFirst]
  | cons c cs ih =>
    by_cases hc : c = sep
    · subst hc
      cases a with
      | nil => simp [splitFirst, eq_comm]
      | cons d a => simp only [splitFirst, ↓reduceIte, Option.some.injEq, Prod.mk.injEq]; grind
    · cases a with
      | nil => simp [splitFirst, hc]
      | cons d a =>
        simp only [splitFirst, hc, ↓reduceIte, Option.map_eq_some_iff, Prod.mk.injEq,
          List.cons_append, List.cons.injEq, List.mem_cons, not_or]
        constructor
        · rintro ⟨⟨a', b'⟩, found, ⟨rfl, rfl⟩, rfl⟩
          obtain ⟨rfl, fresh⟩ := ih.mp found
          exact ⟨⟨rfl, rfl⟩, Ne.symm hc, fresh⟩
        · rintro ⟨⟨rfl, rfl⟩, -, fresh⟩
          exact ⟨(a, b), ih.mpr ⟨rfl, fresh⟩, ⟨rfl, rfl⟩, rfl⟩
end SplitFirst

/-- A legacy key splits into `ns` and `rest` exactly when it is `ns ++ ":" ++ rest` with `ns`
not empty and free of `':'`. -/
theorem splitLegacyKey_eq_some_iff {k ns rest : String} :
    splitLegacyKey k = some (ns, rest) ↔
      k.toList = ns.toList ++ ':' :: rest.toList ∧ ':' ∉ ns.toList ∧ ns ≠ "" := by
  rw [← and_assoc, ← splitFirst_eq_some_iff, splitLegacyKey]
  cases splitFirst ':' k.toList with
  | none => simp
  | some p =>
    obtain ⟨a, b⟩ := p
    by_cases empty : a = []
    · subst empty
      simp only [List.isEmpty_nil, ↓reduceIte, reduceCtorEq, Option.some.injEq, Prod.mk.injEq,
        false_iff, not_and]
      intro same
      simpa using same.1.symm
    · simp only [List.isEmpty_iff, empty, ↓reduceIte, Option.some.injEq, Prod.mk.injEq]
      constructor
      · rintro ⟨rfl, rfl⟩
        simpa using empty
      · rintro ⟨⟨rfl, rfl⟩, -⟩
        simp

namespace Sql

/-! ## UTF-8 bytes

A character's first byte is never a continuation byte (`10xxxxxx`) and its other bytes all
are, so `instr`, which skips continuation bytes after a mismatch, steps a character at a time. -/

set_option maxRecDepth 10000 in
theorem land_192 : ∀ n < 256, n &&& 192 = 64 * (n / 64) := by decide

theorem continuation_iff (x : UInt8) :
    (x &&& 0xC0 == 0x80) = true ↔ 128 ≤ x.toNat ∧ x.toNat < 192 := by
  have h := land_192 x.toNat x.toNat_lt
  rw [beq_iff_eq, ← UInt8.toNat_inj, UInt8.toNat_and]
  simp only [UInt8.reduceToNat, h]
  omega

/-- A character's UTF-8 form: a first byte, which is `:` only for `:` and never a
continuation byte, and continuation bytes after it. -/
theorem utf8EncodeChar_eq_cons (c : Char) : ∃ b rest, String.utf8EncodeChar c = b :: rest ∧
    (b = 58 ↔ c = ':') ∧ (b &&& 0xC0 == 0x80) = false ∧
    ∀ x ∈ rest, (x &&& 0xC0 == 0x80) = true := by
  have colon : c = ':' ↔ c.toNat = 58 := ⟨fun h => h ▸ rfl, fun h => Char.toNat_inj.mp h⟩
  have hv : c.toNat = c.val.toNat := rfl
  simp only [String.utf8EncodeChar, ← hv]
  split
  · refine ⟨_, [], rfl, ?_, ?_, by simp⟩
    · simp only [colon, ← UInt8.toNat_inj, UInt8.toNat_ofNat', UInt8.reduceToNat]
      omega
    · simp only [Bool.eq_false_iff, ne_eq, continuation_iff, UInt8.toNat_ofNat']
      omega
  · -- every byte of a longer form is at least `0x80`, and only the first at least `0xC0`
    have notColon : ¬c = ':' := fun h => by rw [colon, hv] at h; omega
    repeat' split
    all_goals
      refine ⟨_, _, rfl, ?_, ?_, ?_⟩ <;>
      simp only [notColon, iff_false, Bool.eq_false_iff, ne_eq, continuation_iff, ← UInt8.toNat_inj,
        UInt8.toNat_ofNat', UInt8.reduceToNat, List.mem_cons, List.not_mem_nil, or_false] <;>
      omega

theorem byteArray_toList_loop (bs : ByteArray) (i : Nat) (r : List UInt8) :
    ByteArray.toList.loop bs i r = r.reverse ++ bs.data.toList.drop i := by
  fun_induction ByteArray.toList.loop bs i r with
  | case1 i r h ih =>
    have hi : i < bs.data.toList.length := by simpa using h
    rw [ih, List.drop_eq_getElem_cons hi]
    simp [ByteArray.get!, h]
  | case2 i r h =>
    rw [List.drop_eq_nil_of_le (by simpa using Nat.le_of_not_lt h)]
    simp

theorem toByteArray_toList (s : String) :
    s.toByteArray.toList = s.toList.flatMap String.utf8EncodeChar := by
  rw [ByteArray.toList, byteArray_toList_loop, ← String.utf8Encode_toList,
    List.utf8Encode, List.toList_data_toByteArray]
  simp

theorem length_le_flatMap_utf8EncodeChar (cs : List Char) :
    cs.length ≤ (cs.flatMap String.utf8EncodeChar).length := by
  induction cs with
  | nil => simp
  | cons c cs ih =>
    obtain ⟨b, bs, enc, -⟩ := utf8EncodeChar_eq_cons c
    simp only [List.flatMap_cons, enc, List.length_append, List.length_cons]
    omega

theorem dropWhile_continuation {rest : List UInt8} (cont : ∀ x ∈ rest, (x &&& 0xC0 == 0x80) = true)
    (cs : List Char) :
    (rest ++ cs.flatMap String.utf8EncodeChar).dropWhile (fun b => b &&& 0xC0 == 0x80) =
      cs.flatMap String.utf8EncodeChar := by
  rw [List.dropWhile_append_of_pos cont]
  cases cs with
  | nil => simp
  | cons c cs =>
    obtain ⟨b, bs, enc, -, first, -⟩ := utf8EncodeChar_eq_cons c
    simp [List.flatMap_cons, enc, first]

/-- `instr`'s search for `':'` over a character list's UTF-8 bytes counts characters: it
answers the number of characters before the first `':'` plus `pos`, and `0` without one. -/
theorem findBytes_colon {cs : List Char} {fuel : Nat} (room : cs.length < fuel) (pos : Nat) :
    findBytes true fuel (cs.flatMap String.utf8EncodeChar) [58] pos =
      ((splitFirst ':' cs).map fun p => p.1.length + pos).getD 0 := by
  induction cs generalizing fuel pos with
  | nil =>
    obtain ⟨f, rfl⟩ : ∃ f, fuel = f + 1 := Nat.exists_eq_add_one.mpr room
    simp [findBytes, splitFirst]
  | cons c cs ih =>
    obtain ⟨f, rfl⟩ : ∃ f, fuel = f + 1 := Nat.exists_eq_add_one.mpr (by omega)
    obtain ⟨b, bs, enc, colon, -, cont⟩ := utf8EncodeChar_eq_cons c
    rw [findBytes, List.flatMap_cons, enc]
    by_cases hc : c = ':'
    · simp [colon.mpr hc, splitFirst, hc]
    · have hb : b ≠ 58 := fun h => hc (colon.mp h)
      have room' : cs.length < f := by simp only [List.length_cons] at room; omega
      simp [splitFirst, hc, Ne.symm hb, dropWhile_continuation cont, ih room' (pos + 1)]
      cases splitFirst ':' cs with
      | none => rfl
      | some p =>
        simp only [Option.map_some, Option.getD_some, Function.comp_apply, List.length_cons]
        omega

/-! ## `instr` and `substr` on a text -/

theorem nameKey_instr : nameKey "instr" = "instr" := by decide

theorem nameKey_substr : nameKey "substr" = "substr" := by decide

/-- `instr(k, ':')` on a text is one plus the number of characters before the first `':'`,
and `0` when there is none; a NUL character counts like any other. -/
theorem scalarCall_instr_colon (k : String) :
    scalarCall "instr" [.text k, .text ":"] =
      .ok (.int (((splitFirst ':' k.toList).map fun p => p.1.length + 1).getD 0 : Nat)) := by
  have colonBytes : (":" : String).toByteArray.toList = [58] := by
    rw [toByteArray_toList]
    rfl
  have room : k.toList.length < (k.toList.flatMap String.utf8EncodeChar).length + 2 := by
    have := length_le_flatMap_utf8EncodeChar k.toList
    omega
  simp only [scalarCall, nameKey_instr, List.getElem?_cons_zero, List.getElem?_cons_succ,
    Option.getD_some, Value.isNull, Bool.or_self, Bool.false_eq_true, ↓reduceIte, Value.asText?,
    String.toUTF8_eq_toByteArray]
  rw [colonBytes, toByteArray_toList, findBytes_colon room 1]

theorem substring_one_some (cs : List Char) (n : Nat) : substring cs 1 (some n) = cs.take n := by
  have nonneg : ¬(n : Int) < 0 := by omega
  simp [substring, nonneg]

theorem substring_succ_none (cs : List Char) (n : Nat) : substring cs (n + 1) none = cs.drop n := by
  have nonneg : ¬(n : Int) + 1 < 0 := by omega
  have short : (cs.drop n).length ≤ cs.length + 1 := by
    simp only [List.length_drop]
    omega
  simp [substring, nonneg, List.take_of_length_le short]

theorem scalarCall_substr_take (k : String) (n : Nat) :
    scalarCall "substr" [.text k, .int 1, .int n] =
      .ok (.text (String.ofList ((k.toList.takeWhile (· != '\x00')).take n))) := by
  simp [scalarCall, nameKey_substr, Value.isNull, Value.toNumber, textChars, Value.asText?,
    substring_one_some]

theorem scalarCall_substr_drop (k : String) (n : Nat) :
    scalarCall "substr" [.text k, .int (n + 1)] =
      .ok (.text (String.ofList ((k.toList.takeWhile (· != '\x00')).drop n))) := by
  simp [scalarCall, nameKey_substr, Value.isNull, Value.toNumber, textChars, Value.asText?,
    substring_succ_none]

/-- Cutting `a ++ ':' :: b` at its first NUL and then around position `a.length` gives back
`a` and `b` exactly when there is no NUL in it. -/
theorem cut_at_nul_split_iff (a b : List Char) :
    (((a ++ ':' :: b).takeWhile (· != '\x00')).take a.length = a ∧
      ((a ++ ':' :: b).takeWhile (· != '\x00')).drop (a.length + 1) = b) ↔
      '\x00' ∉ a ++ ':' :: b := by
  by_cases ha : '\x00' ∈ a
  · -- the cut ends inside `a`, so it is shorter than `a`
    have short : (a.takeWhile (· != '\x00')).length < a.length := by
      refine lt_of_le_of_ne (List.takeWhile_prefix _).length_le fun same => ?_
      have all := List.takeWhile_eq_self_iff.mp ((List.takeWhile_prefix _).eq_of_length same)
      simpa using all _ ha
    rw [List.takeWhile_append, if_neg short.ne, List.take_of_length_le short.le]
    simp only [List.mem_append, ha, true_or, not_true_eq_false, iff_false, not_and]
    intro same
    exact absurd (same ▸ short) (lt_irrefl _)
  · have pass : ∀ x ∈ a, (x != '\x00') = true := fun x hx => by
      simpa using fun h : x = '\x00' => ha (h ▸ hx)
    rw [List.takeWhile_append_of_pos pass, List.takeWhile_cons_of_pos (by decide)]
    simp [List.takeWhile_eq_self_iff, ha]
    exact ⟨fun h nul => h _ nul rfl, fun h x hx nul => h (nul ▸ hx)⟩

/-! ## The split -/

theorem arithmetic_sub_int {x y : Int} (lo : minInt ≤ x - y) (hi : x - y ≤ maxInt) :
    arithmetic .sub (.int x) (.int y) = .int (x - y) := by
  simp [arithmetic, Value.toNumber, lo, hi]

theorem arithmetic_add_int {x y : Int} (lo : minInt ≤ x + y) (hi : x + y ≤ maxInt) :
    arithmetic .add (.int x) (.int y) = .int (x + y) := by
  simp [arithmetic, Value.toNumber, lo, hi]

theorem minInt_eq : minInt = -9223372036854775808 := by decide

/-- The SQL that moves a legacy key `k` into a namespace filters on `instr(k, ':') > 1` and
splits with `substr(k, 1, instr(k, ':') - 1)` and `substr(k, instr(k, ':') + 1)`. The
filter picks exactly the keys `splitLegacyKey` splits, and the two `substr` give its
namespace and key exactly when `k` holds no NUL character: `substr` reads a text only up
to its first NUL, while `instr` counts past it. -/
theorem legacy_split_in_sql_iff_no_nul (k : String) (fits : (k.length : Int) < maxInt) :
    ∃ i : Int, scalarCall "instr" [.text k, .text ":"] = .ok (.int i) ∧
      (1 < i ↔ (splitLegacyKey k).isSome) ∧
      ∀ ns rest, splitLegacyKey k = some (ns, rest) →
        ((scalarCall "substr" [.text k, .int 1, arithmetic .sub (.int i) (.int 1)] = .ok (.text ns) ∧
          scalarCall "substr" [.text k, arithmetic .add (.int i) (.int 1)] = .ok (.text rest)) ↔
          '\x00' ∉ k.toList) := by
  refine ⟨_, scalarCall_instr_colon k, ?_, ?_⟩
  · -- the filter: `instr` is one past the namespace, which `splitLegacyKey` wants non-empty
    unfold splitLegacyKey
    cases splitFirst ':' k.toList with
    | none => simp
    | some p =>
      obtain ⟨a, b⟩ := p
      cases a with
      | nil => simp
      | cons c a =>
        simp only [Option.map_some, Option.getD_some, List.length_cons, List.isEmpty_cons,
          Bool.false_eq_true, ↓reduceIte, Option.isSome_some, iff_true]
        omega
  · intro ns rest split
    obtain ⟨whole, fresh, -⟩ := splitLegacyKey_eq_some_iff.mp split
    have found : splitFirst ':' k.toList = some (ns.toList, rest.toList) :=
      splitFirst_eq_some_iff.mpr ⟨whole, fresh⟩
    have long : k.toList.length = ns.toList.length + 1 + rest.toList.length := by
      rw [whole]
      simp only [List.length_append, List.length_cons]
      omega
    rw [← String.length_toList] at fits
    have before : ((ns.toList.length + 1 : Nat) : Int) - 1 = (ns.toList.length : Nat) := by omega
    rw [found, Option.map_some, Option.getD_some]
    dsimp only
    rw [arithmetic_sub_int (by rw [minInt_eq]; omega) (by omega), before,
      arithmetic_add_int (by rw [minInt_eq]; omega) (by omega),
      scalarCall_substr_take, scalarCall_substr_drop, whole]
    simp only [Except.ok.injEq, Value.text.injEq, ← String.toList_inj, String.toList_ofList]
    exact cut_at_nul_split_iff _ _

/-- The key `"a\x00b:c"` splits into `"a\x00b"` and `"c"`, and the filter picks it, but the
two `substr` do not give that split. -/
theorem nul_key_split_apart_in_sql :
    (("a\x00b:c" : String).length : Int) < maxInt ∧
      ∃ i : Int, scalarCall "instr" [.text "a\x00b:c", .text ":"] = .ok (.int i) ∧ 1 < i ∧
        ¬(scalarCall "substr" [.text "a\x00b:c", .int 1, arithmetic .sub (.int i) (.int 1)] =
            .ok (.text "a\x00b") ∧
          scalarCall "substr" [.text "a\x00b:c", arithmetic .add (.int i) (.int 1)] =
            .ok (.text "c")) := by
  have fits : (("a\x00b:c" : String).length : Int) < maxInt := by decide
  have split : splitLegacyKey "a\x00b:c" = some ("a\x00b", "c") := by decide
  obtain ⟨i, instr, filter, agree⟩ := legacy_split_in_sql_iff_no_nul "a\x00b:c" fits
  refine ⟨fits, i, instr, filter.mpr (by rw [split]; rfl), fun both => ?_⟩
  exact (agree _ _ split).mp both (by decide)

end Sql

end KvStore
