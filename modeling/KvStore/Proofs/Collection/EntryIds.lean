import KvStore.Collection.Layout
import KvStore.Proofs.Json.Reading

/-!
Entry ids of a collection store never collide.

An id is the namespace's byte length in decimal, a colon, the namespace, a colon and the
key. Reading it back, as the collection's reaping script splits an id, takes the decimal
up to the first colon, which no digit is; the length then says where the namespace ends,
so the id gives back both parts (`readEntryId_entryId`). Ids are therefore equal only for
the same namespace and key, and so are the hash keys of entries and the sorted sets that
index a namespace's keys.
-/

namespace KvStore

namespace Collection

open Json

def utf8 (s : String) : List UInt8 := s.toByteArray.data.toList

@[simp] theorem utf8_append (s t : String) : utf8 (s ++ t) = utf8 s ++ utf8 t := by
  simp [utf8, String.toByteArray_append]

theorem utf8_inj {s t : String} (h : utf8 s = utf8 t) : s = t := by
  rw [← String.toByteArray_inj]
  cases hs : s.toByteArray
  cases ht : t.toByteArray
  rw [utf8, hs, utf8, ht] at h
  simpa using h

theorem length_utf8 (s : String) : (utf8 s).length = s.utf8ByteSize := by
  rw [utf8, Array.length_toList, ByteArray.size_data, String.size_toByteArray]

theorem utf8_toString (n : Nat) : utf8 (toString n) = digitBytes n := by
  rw [utf8, Nat.toString_eq_repr, Nat.repr_eq_ofList_toDigits,
    bytes_ofList_ascii _ digit_lt_128, digitBytes]

/-- The value of a run of decimal digits; none when the run is empty or holds another
byte. -/
def decimal (ds : List UInt8) : Option Nat :=
  if ds ≠ [] ∧ ∀ d ∈ ds, Reader.isDigit d = true then
    some ((ds.map fun d => (d - 48).toNat).foldl (fun a d => a * 10 + d) 0)
  else none

def readLength (id : List UInt8) : Option (Nat × List UInt8) :=
  let digits := id.takeWhile (· != 58)
  match id.drop digits.length with
  | 58 :: rest => (decimal digits).map fun n => (n, rest)
  | _ => none

/-- An id read back: the length, then that many bytes of namespace, one separator, and
the rest as the key. -/
def readEntryId (id : List UInt8) : Option (List UInt8 × List UInt8) :=
  (readLength id).map fun p => (p.2.take p.1, (p.2.drop p.1).drop 1)

theorem decimal_digitBytes (n : Nat) : decimal (digitBytes n) = some n := by
  have hne : digitBytes n ≠ [] := by
    simp [digitBytes, Nat.toDigits_ne_nil]
  rw [decimal, if_pos ⟨hne, fun d hd => (isDigit_of_mem_digitBytes hd).1⟩, foldl_digitBytes]

theorem ne_colon_of_mem_digitBytes {n : Nat} {x : UInt8} (hx : x ∈ digitBytes n) : x ≠ 58 := by
  have hd := (isDigit_of_mem_digitBytes hx).1
  intro h
  rw [h] at hd
  exact absurd hd (by decide)

theorem readLength_digitBytes (n : Nat) (rest : List UInt8) :
    readLength (digitBytes n ++ 58 :: rest) = some (n, rest) := by
  have htake : (digitBytes n ++ 58 :: rest).takeWhile (· != 58) = digitBytes n := by
    rw [List.takeWhile_append_of_pos fun x hx => by simpa using ne_colon_of_mem_digitBytes hx]
    simp
  simp only [readLength, htake, List.drop_left, decimal_digitBytes, Option.map_some]

theorem lengthPrefixed_inj {n₁ n₂ : Nat} {r₁ r₂ : List UInt8}
    (h : digitBytes n₁ ++ 58 :: r₁ = digitBytes n₂ ++ 58 :: r₂) : n₁ = n₂ ∧ r₁ = r₂ := by
  have hread := congrArg readLength h
  rw [readLength_digitBytes, readLength_digitBytes, Option.some_inj, Prod.mk.injEq] at hread
  exact hread

theorem utf8_entryId (ns key : String) :
    utf8 (collectionEntryId ns key) = digitBytes ns.utf8ByteSize ++ 58 :: (utf8 ns ++ 58 :: utf8 key) := by
  have hcolon : utf8 ":" = [58] := rfl
  simp only [collectionEntryId, utf8_append, utf8_toString, hcolon, List.append_assoc, List.cons_append,
    List.nil_append]

theorem readEntryId_entryId (ns key : String) :
    readEntryId (utf8 (collectionEntryId ns key)) = some (utf8 ns, utf8 key) := by
  rw [readEntryId, utf8_entryId, readLength_digitBytes, Option.map_some, ← length_utf8]
  simp

theorem entryId_inj {ns₁ k₁ ns₂ k₂ : String} (h : collectionEntryId ns₁ k₁ = collectionEntryId ns₂ k₂) :
    ns₁ = ns₂ ∧ k₁ = k₂ := by
  have hread := congrArg (readEntryId ∘ utf8) h
  simp only [Function.comp_apply, readEntryId_entryId, Option.some_inj, Prod.mk.injEq] at hread
  exact ⟨utf8_inj hread.1, utf8_inj hread.2⟩

theorem docKey_inj {c ns₁ k₁ ns₂ k₂ : String} (h : docKey c ns₁ k₁ = docKey c ns₂ k₂) :
    ns₁ = ns₂ ∧ k₁ = k₂ :=
  entryId_inj ((String.append_right_inj _).1 h)

theorem indexKey_inj {c ns₁ ns₂ : String} (h : indexKey c ns₁ = indexKey c ns₂) : ns₁ = ns₂ := by
  have hcolon : utf8 ":" = [58] := rfl
  have hbytes := congrArg utf8 h
  simp only [indexKey, utf8_append, utf8_toString, hcolon, List.append_assoc, List.singleton_append,
    List.append_cancel_left_eq] at hbytes
  exact utf8_inj (lengthPrefixed_inj hbytes).2

/-- Entry ids never collide, as they read back uniquely; nor do the hash keys of a
collection's entries, nor the index sets of its namespaces. -/
theorem entry_ids_decode_uniquely :
    (∀ ns₁ k₁ ns₂ k₂ : String, collectionEntryId ns₁ k₁ = collectionEntryId ns₂ k₂ ↔ ns₁ = ns₂ ∧ k₁ = k₂) ∧
    (∀ ns k : String, readEntryId (utf8 (collectionEntryId ns k)) = some (utf8 ns, utf8 k)) ∧
    (∀ c ns₁ k₁ ns₂ k₂ : String, docKey c ns₁ k₁ = docKey c ns₂ k₂ ↔ ns₁ = ns₂ ∧ k₁ = k₂) ∧
    (∀ c ns₁ ns₂ : String, indexKey c ns₁ = indexKey c ns₂ ↔ ns₁ = ns₂) := by
  refine ⟨fun _ _ _ _ => ⟨entryId_inj, ?_⟩, readEntryId_entryId, fun _ _ _ _ _ => ⟨docKey_inj, ?_⟩,
    fun _ _ _ => ⟨indexKey_inj, ?_⟩⟩
  · rintro ⟨rfl, rfl⟩; rfl
  · rintro ⟨rfl, rfl⟩; rfl
  · rintro rfl; rfl

end Collection

end KvStore
