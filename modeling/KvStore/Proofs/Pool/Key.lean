import Mathlib.Data.String.Basic
import Mathlib.Data.List.Perm.Basic
import Mathlib.Data.List.Nodup
import KvStore.Store.Open
import KvStore.Proofs.Json.Reading

/-!
The key of a shared pool: a configuration's URI and the JSON text of its pool options.
The text records the options faithfully, so two configurations get one key exactly when
their URIs and their pool options are equal (`StoreConfig.poolKey_eq_iff`). Driver options
are kept sorted by name, so the order they were given in does not change the options
(`PoolOptions.ofDriverOptions_perm`).

Faithfulness comes from reading: the reader takes a quoted string back from any bytes that
start with it, so no quoted string starts another one, and the same holds of fields and
of numbers before a comma.
-/

namespace KvStore

namespace Json

open Reader

def textBytes (s : String) : List UInt8 := s.toUTF8.data.toList

theorem textBytes_append (a b : String) : textBytes (a ++ b) = textBytes a ++ textBytes b := by
  simp [textBytes, String.toUTF8_eq_toByteArray, String.toByteArray_append]

theorem textBytes_quote (s : String) : textBytes (quote s) = quoteBytes s := rfl

theorem quoteBytes_cons (s : String) : ∃ rest, quoteBytes s = 34 :: rest :=
  ⟨_, by rw [quoteBytes, quote_bytes]; rfl⟩

theorem quoteBytes_prefix_unique {s s' : String} {r r' : List UInt8}
    (h : quoteBytes s ++ r = quoteBytes s' ++ r') : s = s' ∧ r = r' := by
  let b : ByteArray := ⟨(quoteBytes s ++ r).toArray⟩
  have hb : b.data.toList.drop 0 = quoteBytes s ++ r := by simp [b]
  have first := @readString_at b 0 r s hb
  have second := @readString_at b 0 r' s' (hb.trans h)
  rw [first] at second
  obtain ⟨rfl, -⟩ := Prod.mk.inj (Except.ok.inj second)
  exact ⟨rfl, List.append_cancel_left h⟩

def textFieldBytes (fields : List (String × String)) : List UInt8 :=
  textBytes (renderFields (fields.map fun (k, v) => (k, Json.str v)))

theorem textFieldBytes_nil : textFieldBytes [] = [] := rfl

theorem textFieldBytes_cons (e : String × String) (rest : List (String × String)) :
    textFieldBytes (e :: rest) =
      quoteBytes e.1 ++ 58 :: quoteBytes e.2 ++ (if rest = [] then [] else 44 :: textFieldBytes rest) := by
  cases rest with
  | nil => simp [textFieldBytes, renderFields, render, textBytes_append, textBytes_quote]; rfl
  | cons e rest =>
    simp [textFieldBytes, renderFields, render, textBytes_append, textBytes_quote]
    rfl

theorem textFieldBytes_prefix_unique {fields fields' : List (String × String)} {r r' : List UInt8}
    (h : textFieldBytes fields ++ 125 :: r = textFieldBytes fields' ++ 125 :: r') :
    fields = fields' ∧ r = r' := by
  induction fields generalizing fields' with
  | nil =>
    cases fields' with
    | nil => simpa [textFieldBytes_nil] using h
    | cons e fields' =>
      obtain ⟨q, hq⟩ := quoteBytes_cons e.1
      rw [textFieldBytes_cons, hq] at h
      simp [textFieldBytes_nil] at h
  | cons e fields ih =>
    cases fields' with
    | nil =>
      obtain ⟨q, hq⟩ := quoteBytes_cons e.1
      rw [textFieldBytes_cons, hq] at h
      simp [textFieldBytes_nil] at h
    | cons e' fields' =>
      rw [textFieldBytes_cons, textFieldBytes_cons] at h
      simp only [List.append_assoc, List.cons_append] at h
      obtain ⟨hk, hafterKey⟩ := quoteBytes_prefix_unique h
      obtain ⟨hv, hafterValue⟩ := quoteBytes_prefix_unique (List.cons.inj hafterKey).2
      have he : e = e' := Prod.ext hk hv
      -- after the value comes a comma and more fields, or the closing brace
      by_cases hrest : fields = [] <;> by_cases hrest' : fields' = [] <;>
        simp [hrest, hrest'] at hafterValue
      · exact ⟨by rw [he, hrest, hrest'], hafterValue⟩
      · obtain ⟨hf, hr⟩ := ih hafterValue
        exact ⟨by rw [he, hf], hr⟩

theorem digits_prefix_unique {xs ys r r' : List UInt8} {y y' : UInt8}
    (hxs : ∀ x ∈ xs, isDigit x = true) (hys : ∀ x ∈ ys, isDigit x = true)
    (hy : isDigit y = false) (hy' : isDigit y' = false) (h : xs ++ y :: r = ys ++ y' :: r') :
    xs = ys ∧ y = y' ∧ r = r' := by
  induction xs generalizing ys with
  | nil =>
    cases ys with
    | nil => simpa using h
    | cons x ys =>
      have hfirst : y = x := (List.cons.inj (by simpa using h)).1
      rw [hfirst, hys x List.mem_cons_self] at hy
      cases hy
  | cons x xs ih =>
    cases ys with
    | nil =>
      have hfirst : x = y' := (List.cons.inj (by simpa using h)).1
      rw [← hfirst, hxs x List.mem_cons_self] at hy'
      cases hy'
    | cons x' ys =>
      have hsplit : x = x' ∧ xs ++ y :: r = ys ++ y' :: r' := List.cons.inj (by simpa using h)
      obtain ⟨hrest, hlast⟩ := ih (fun z hz => hxs z (List.mem_cons_of_mem x hz))
        (fun z hz => hys z (List.mem_cons_of_mem x' hz)) hsplit.2
      exact ⟨by rw [hsplit.1, hrest], hlast⟩

theorem textBytes_nat (n : Nat) : textBytes (render (Json.nat n)) = digitBytes n := by
  rw [Json.nat, render, JsonNumber.render, textBytes, Nat.toString_eq_repr, Nat.repr,
    String.toUTF8_eq_toByteArray, bytes_ofList_ascii _ digit_lt_128]
  rfl

theorem digitBytes_prefix_unique {n m : Nat} {r r' : List UInt8}
    (h : digitBytes n ++ 44 :: r = digitBytes m ++ 44 :: r') : n = m ∧ r = r' := by
  obtain ⟨hdigits, -, hr⟩ := digits_prefix_unique (fun x hx => (isDigit_of_mem_digitBytes hx).1)
    (fun x hx => (isDigit_of_mem_digitBytes hx).1) rfl rfl h
  refine ⟨?_, hr⟩
  rw [← foldl_digitBytes n, ← foldl_digitBytes m, hdigits]

end Json

namespace PoolOptions

open Json

theorem cacheKey_bytes (p : PoolOptions) :
    textBytes p.cacheKey =
      123 :: (match p.maxSize with
        | some n => quoteBytes "max_size" ++ 58 :: digitBytes n ++ [44]
        | none => []) ++
      quoteBytes "driver_options" ++ 58 :: 123 :: textFieldBytes p.driverOptions ++ [125, 125] := by
  rcases p with ⟨_ | n, options⟩ <;>
    simp [cacheKey, toJson, render, renderFields, textBytes_append, textBytes_quote, textBytes_nat,
      textFieldBytes] <;> rfl

theorem driverOptions_of_bytes {options options' : List (String × String)}
    (h : quoteBytes "driver_options" ++ 58 :: 123 :: textFieldBytes options ++ [125, 125] =
      quoteBytes "driver_options" ++ 58 :: 123 :: textFieldBytes options' ++ [125, 125]) :
    options = options' := by
  simp only [List.append_assoc, List.cons_append] at h
  have hfields := List.append_cancel_left h
  simp only [List.cons.injEq, true_and] at hfields
  exact (textFieldBytes_prefix_unique hfields).1

theorem cacheKey_injective {p q : PoolOptions} (h : p.cacheKey = q.cacheKey) : p = q := by
  have hbytes := congrArg textBytes h
  rw [cacheKey_bytes, cacheKey_bytes] at hbytes
  rcases p with ⟨_ | n, options⟩ <;> rcases q with ⟨_ | m, options'⟩ <;>
    simp only [List.cons.injEq, true_and, List.nil_append, List.append_assoc, List.cons_append] at hbytes
  · rw [driverOptions_of_bytes hbytes]
  · have := (quoteBytes_prefix_unique hbytes).1
    simp at this
  · have := (quoteBytes_prefix_unique hbytes).1
    simp at this
  · have hsize := (List.cons.inj (List.append_cancel_left hbytes)).2
    obtain ⟨rfl, hrest⟩ := digitBytes_prefix_unique hsize
    rw [driverOptions_of_bytes hrest]

section Order

variable {a b k x y v : String} {l : List (String × String)}

theorem insertOption_nil : insertOption a x [] = [(a, x)] := rfl

theorem insertOption_same : insertOption a x ((a, v) :: l) = (a, x) :: l := by
  simp [insertOption]

theorem insertOption_before (h : a < k) : insertOption a x ((k, v) :: l) = (a, x) :: (k, v) :: l := by
  simp [insertOption, ne_of_lt h, h]

theorem insertOption_after (h : k < a) :
    insertOption a x ((k, v) :: l) = (k, v) :: insertOption a x l := by
  simp [insertOption, ne_of_gt h, not_lt_of_gt h]

theorem insertOption_comm (hab : a ≠ b) (x y : String) (l : List (String × String)) :
    insertOption a x (insertOption b y l) = insertOption b y (insertOption a x l) := by
  induction l with
  | nil =>
    rcases lt_or_gt_of_ne hab with h | h <;>
      simp [insertOption_nil, insertOption_before, insertOption_after, h, -String.lt_iff_ltb]
  | cons e l ih =>
    obtain ⟨k, v⟩ := e
    -- where each name falls against the first option `k`
    rcases lt_trichotomy a k with hak | rfl | hak
    · rcases lt_trichotomy b k with hbk | rfl | hbk
      · rcases lt_or_gt_of_ne hab with h | h <;>
          simp [insertOption_before, insertOption_after, hak, hbk, h, -String.lt_iff_ltb]
      · simp [insertOption_same, insertOption_before, insertOption_after, hak, -String.lt_iff_ltb]
      · simp [insertOption_before, insertOption_after, hak, hbk, hak.trans hbk, -String.lt_iff_ltb]
    · rcases lt_or_gt_of_ne hab with h | h <;>
        simp [insertOption_same, insertOption_before, insertOption_after, h, -String.lt_iff_ltb]
    · rcases lt_trichotomy b k with hbk | rfl | hbk
      · simp [insertOption_before, insertOption_after, hak, hbk, hbk.trans hak, -String.lt_iff_ltb]
      · simp [insertOption_same, insertOption_after, hak, -String.lt_iff_ltb]
      · simp [insertOption_after, hak, hbk, ih, -String.lt_iff_ltb]

theorem ofDriverOptions_perm {maxSize : Option Nat} {options options' : List (String × String)}
    (hperm : options.Perm options') (hnames : (options.map Prod.fst).Nodup) :
    ofDriverOptions maxSize options = ofDriverOptions maxSize options' := by
  refine hperm.foldl_eq' (fun e he e' he' p => ?_) _
  by_cases hsame : e.1 = e'.1
  · rw [List.inj_on_of_nodup_map hnames he he' hsame]
  · simp only [withDriverOption, insertOption_comm hsame]

end Order

end PoolOptions

theorem StoreConfig.poolKey_eq_iff {c c' : StoreConfig} :
    c.poolKey = c'.poolKey ↔ c.uri = c'.uri ∧ c.pool = c'.pool := by
  constructor
  · intro h
    simp only [StoreConfig.poolKey, PoolKey.mk.injEq] at h
    exact ⟨h.1, PoolOptions.cacheKey_injective h.2⟩
  · rintro ⟨huri, hpool⟩
    simp [StoreConfig.poolKey, huri, hpool]

end KvStore
