import KvStore.Bucket.Name
import KvStore.Bucket.Object
import KvStore.Host.Files
import KvStore.Proofs.Json.Reading
import KvStore.Proofs.Host.Paths

/-!
How a bucket names and writes its objects.

An object file reads back as the object written (`decode_encode`), when its numbers fit
their signed 64-bit fields. A key of at most 125 bytes gets the hex name of its bytes,
from which it reads back (`keyOfFileName?_of_le`); a longer one gets the hex digest of
its bytes, which is recognised as hashed and yields no key from the name
(`isHashedName_of_gt`, `keyOfFileName?_of_gt`). Two keys share a name only when both are
long and share a digest (`objectFileName_eq`). Object, namespace and hidden names are
plain path components, and hidden names never collide with object names.
-/

namespace ByteArray

theorem toList_eq_data (b : ByteArray) : b.toList = b.data.toList := by
  have loop : ∀ i r, ByteArray.toList.loop b i r = r.reverse ++ b.data.toList.drop i := by
    intro i r
    fun_induction ByteArray.toList.loop b i r with
    | case1 i r hi ih =>
      have hi' : i < b.data.toList.length := by simpa using hi
      rw [ih]
      conv => rhs; rw [List.drop_eq_getElem_cons hi']
      have hget : b.get! i = b.data.toList[i] := by
        simp [ByteArray.get!, hi]
      simp [hget]
    | case2 i r hi =>
      rw [List.drop_eq_nil_of_le (by simpa using hi), List.append_nil]
  rw [ByteArray.toList]
  simpa using loop 0 []

end ByteArray

namespace KvStore

theorem Sha256.length_compress (h : List UInt32) (block : List UInt8) (hlen : h.length = 8) :
    (Sha256.compress h block).length = 8 := by
  unfold Sha256.compress
  show (List.zipWith _ h [_, _, _, _, _, _, _, _]).length = 8
  simp [hlen]

theorem Sha256.length_digest (msg : List UInt8) : (Sha256.digest msg).length = 32 := by
  have hwords : ∀ (bs : List (List UInt8)) (h : List UInt32), h.length = 8 →
      (bs.foldl Sha256.compress h).length = 8 := by
    intro bs
    induction bs with
    | nil => intro h hlen; exact hlen
    | cons block bs ih => intro h hlen; exact ih _ (Sha256.length_compress h block hlen)
  rw [Sha256.digest, List.length_flatMap]
  have h8 := hwords (Sha256.blocks (Sha256.pad msg).length (Sha256.pad msg)) Sha256.initial rfl
  simp only [Sha256.wordBytes, List.length_cons, List.length_nil, List.map_const', h8]
  rfl

namespace Hex

theorem digitValue_digit : ∀ n, n < 16 → digitValue (digit n) = some n := by decide

theorem toList_encodeBytes (bs : List UInt8) :
    (encodeBytes bs).toList = bs.flatMap fun b => [digit (b.toNat / 16), digit (b.toNat % 16)] := by
  rw [encodeBytes, String.toList_ofList]

theorem decodeChars_encodeBytes (bs : List UInt8) : decodeChars (encodeBytes bs).toList = some bs := by
  rw [toList_encodeBytes]
  induction bs with
  | nil => rfl
  | cons b bs ih =>
    have hb : b.toNat < 256 := b.toNat_lt
    simp only [List.flatMap_cons, List.cons_append, List.nil_append, decodeChars,
      digitValue_digit _ (show b.toNat / 16 < 16 by omega), digitValue_digit _ (show b.toNat % 16 < 16 by omega), ih]
    show some ((b.toNat / 16 * 16 + b.toNat % 16).toUInt8 :: bs) = some (b :: bs)
    rw [show b.toNat / 16 * 16 + b.toNat % 16 = b.toNat by omega, Nat.toUInt8, UInt8.ofNat_toNat]

theorem decode_encodeBytes (bs : List UInt8) : decode (encodeBytes bs) = some bs :=
  decodeChars_encodeBytes bs

theorem mem_encodeBytes {bs : List UInt8} {c : Char} (hc : c ∈ (encodeBytes bs).toList) :
    ∃ n < 16, c = digit n := by
  rw [toList_encodeBytes] at hc
  obtain ⟨b, -, hb⟩ := List.mem_flatMap.mp hc
  have hlt : b.toNat < 256 := b.toNat_lt
  simp only [List.mem_cons, List.not_mem_nil, or_false] at hb
  rcases hb with rfl | rfl
  · exact ⟨_, by omega, rfl⟩
  · exact ⟨_, by omega, rfl⟩

theorem length_encodeBytes (bs : List UInt8) : (encodeBytes bs).length = 2 * bs.length := by
  rw [← String.length_toList, toList_encodeBytes]
  induction bs with
  | nil => rfl
  | cons b bs ih => simp [ih]; omega

end Hex

namespace Bucket

open Json Reader

section Objects

def metadataBytes (m : ObjectMetadata) : List UInt8 :=
  123 :: memberBytes true [("expiresAt", optionBytes m.expiresAt), ("lastAccessed", intBytes m.lastAccessed),
    ("namespace", quoteBytes m.namespaceName)] ++ [125]

def InI64 (e : Int) : Prop := -(2 ^ 63 : Int) ≤ e ∧ e < 2 ^ 63

instance (e : Int) : Decidable (InI64 e) := inferInstanceAs (Decidable (_ ∧ _))

theorem inI64_of_lt {n : Nat} (h : n < 2 ^ 63) : InI64 n :=
  ⟨by omega, by exact_mod_cast h⟩

structure ObjectMetadata.Fits (m : ObjectMetadata) : Prop where
  expiresAt : ∀ e ∈ m.expiresAt, InI64 e
  lastAccessed : InI64 m.lastAccessed

theorem metadataReader_at {b : ByteArray} {i : Nat} {rest : List UInt8} (m : ObjectMetadata)
    (hfits : m.Fits) (h : b.data.toList.drop i = metadataBytes m ++ rest) :
    metadataReader b i = .ok (m, i + (metadataBytes m).length) := by
  simp only [metadataBytes, List.cons_append, List.append_assoc] at h
  rw [metadataReader]
  -- the record as it stands after each member
  let acc₁ : Option (Option Int) × Option Int × Option String := (some m.expiresAt, none, none)
  let acc₂ : Option (Option Int) × Option Int × Option String := (some m.expiresAt, some m.lastAccessed, none)
  let acc₃ : Option (Option Int) × Option Int × Option String :=
    (some m.expiresAt, some m.lastAccessed, some m.namespaceName)
  refine (readRecord_object _ h (?_ : ReadsMembers _ _ _ acc₃) ?_ ?_ (?_ : _ = Except.ok m)).trans ?_
  · refine ⟨acc₁, fun b i y rest h hy => ?_, acc₂, fun b i y rest h hy => ?_, acc₃,
      fun b i y rest h hy => ?_, rfl⟩
    · exact (bind_run_ok (readOptionalI64_at _ hfits.expiresAt h hy)).trans rfl
    · exact (bind_run_ok (readI64_at _ hfits.lastAccessed.1 hfits.lastAccessed.2 h hy)).trans rfl
    · exact (bind_run_ok (readString_at _ h)).trans rfl
  · simp
  · simp
  · rfl
  · simp [metadataBytes]
    omega

def objectBytes (o : StoredObject) : List UInt8 :=
  123 :: memberBytes true [("key", quoteBytes o.key), ("value", quoteBytes o.value),
    ("metadata", metadataBytes o.metadata)] ++ [125]

theorem quoteJson_eq (s : String) : quoteJson s = quote s := by
  rw [quoteJson, Json.render]

theorem encode_bytes (o : StoredObject) : o.encode.toUTF8.data.toList = objectBytes o := by
  have lkey : "\x7b\"key\":".toByteArray.data.toList = 123 :: quoteBytes "key" ++ [58] := by decide
  have lvalue : ",\"value\":".toByteArray.data.toList = 44 :: quoteBytes "value" ++ [58] := by decide
  have lmeta : ",\"metadata\":\x7b\"expiresAt\":".toByteArray.data.toList =
      44 :: quoteBytes "metadata" ++ 58 :: 123 :: quoteBytes "expiresAt" ++ [58] := by decide
  have llast : ",\"lastAccessed\":".toByteArray.data.toList = 44 :: quoteBytes "lastAccessed" ++ [58] := by
    decide
  have lns : ",\"namespace\":".toByteArray.data.toList = 44 :: quoteBytes "namespace" ++ [58] := by decide
  have lend : "\x7d\x7d".toByteArray.data.toList = [125, 125] := by decide
  have lnull : "null".toByteArray.data.toList = [110, 117, 108, 108] := by decide
  obtain ⟨key, value, ⟨expires, last, ns⟩⟩ := o
  -- `unfold`, not `simp`: simp takes over twenty seconds to unfold the text
  unfold StoredObject.encode
  cases expires <;>
  simp only [quoteJson_eq, String.toUTF8_eq_toByteArray, String.toByteArray_append,
    ByteArray.toList_data_append, lkey, lvalue, lmeta, llast, lns, lend, lnull] <;>
  simp [objectBytes, metadataBytes, memberBytes, quoteBytes, intBytes, optionBytes]

theorem objectReader_at {b : ByteArray} {i : Nat} {rest : List UInt8} (o : StoredObject)
    (hfits : o.metadata.Fits) (h : b.data.toList.drop i = objectBytes o ++ rest) :
    objectReader b i = .ok (o, i + (objectBytes o).length) := by
  simp only [objectBytes, List.cons_append, List.append_assoc] at h
  rw [objectReader]
  -- the record as it stands after each member
  let acc₁ : Option String × Option String × Option ObjectMetadata := (some o.key, none, none)
  let acc₂ : Option String × Option String × Option ObjectMetadata := (some o.key, some o.value, none)
  let acc₃ : Option String × Option String × Option ObjectMetadata :=
    (some o.key, some o.value, some o.metadata)
  refine (readRecord_object _ h (?_ : ReadsMembers _ _ _ acc₃) ?_ ?_ (?_ : _ = Except.ok o)).trans ?_
  · refine ⟨acc₁, fun b i y rest h _ => ?_, acc₂, fun b i y rest h _ => ?_, acc₃,
      fun b i y rest h _ => ?_, rfl⟩
    · exact (bind_run_ok (readString_at _ h)).trans rfl
    · exact (bind_run_ok (readString_at _ h)).trans rfl
    · exact (bind_run_ok (metadataReader_at _ hfits h)).trans rfl
  · simp
  · simp
  · rfl
  · simp [objectBytes]
    omega

theorem decode_encode (o : StoredObject) (hfits : o.metadata.Fits) :
    StoredObject.decode o.encode = .ok o := by
  have h : (o.encode.toUTF8).data.toList.drop 0 = objectBytes o ++ [] := by
    rw [List.drop_zero, List.append_nil, encode_bytes]
  rw [StoredObject.decode]
  apply decodeBytes_of_whole
  rw [objectReader_at o hfits h, Nat.zero_add, ← encode_bytes]
  rfl

end Objects

section Names

theorem dropSuffix?_append (s t : String) : dropSuffix? (s ++ t) t = some s := by
  have hend : (s ++ t).endsWith t = true := by
    rw [String.endsWith_eq_endsWith_toSlice, String.Slice.endsWith_string_iff, String.copy_toSlice]
    simp
  rw [dropSuffix?, if_pos hend]
  congr
  rw [← String.length_toList, ← String.length_toList, String.toList_append, List.length_append,
    Nat.add_sub_cancel, List.take_left, String.ofList_toList]

theorem utf8ByteSize_ofList_ascii (l : List Char) (h : ∀ c ∈ l, c.toNat < 128) :
    (String.ofList l).utf8ByteSize = l.length := by
  rw [← String.size_toByteArray, ← ByteArray.size_data, ← Array.length_toList,
    Json.bytes_ofList_ascii l h, List.length_map]

theorem toList_toUTF8 (s : String) : s.toUTF8.toList = s.toUTF8.data.toList :=
  ByteArray.toList_eq_data _

theorem digit_ascii : ∀ n, n < 16 → (Hex.digit n).toNat < 128 := by decide

theorem encodeBytes_ascii (bs : List UInt8) : ∀ c ∈ (Hex.encodeBytes bs).toList, c.toNat < 128 := by
  intro c hc
  obtain ⟨n, hn, rfl⟩ := Hex.mem_encodeBytes hc
  exact digit_ascii n hn

theorem utf8ByteSize_encodeBytes (bs : List UInt8) : (Hex.encodeBytes bs).utf8ByteSize = 2 * bs.length := by
  have h := utf8ByteSize_ofList_ascii _ (encodeBytes_ascii bs)
  rw [String.ofList_toList, String.length_toList, Hex.length_encodeBytes] at h
  exact h

theorem utf8ByteSize_encode (s : String) : (Hex.encode s).utf8ByteSize = 2 * s.utf8ByteSize := by
  rw [Hex.encode, utf8ByteSize_encodeBytes, toList_toUTF8, Array.length_toList, ByteArray.size_data,
    String.toUTF8_eq_toByteArray, String.size_toByteArray]

theorem utf8ByteSize_hexDigest (s : String) : (Sha256.hexDigest s).utf8ByteSize = 64 := by
  rw [Sha256.hexDigest, utf8ByteSize_encodeBytes, Sha256.length_digest]

theorem objectFileName_of_le {k : String} (h : k.utf8ByteSize ≤ 125) :
    objectFileName k = Hex.encode k ++ extension := by
  have hext : extension.utf8ByteSize = 5 := by decide
  rw [objectFileName, if_pos]
  rw [String.utf8ByteSize_append, utf8ByteSize_encode, hext, maxFileName]
  omega

theorem objectFileName_of_gt {k : String} (h : 125 < k.utf8ByteSize) :
    objectFileName k = hashedPrefix ++ Sha256.hexDigest k ++ extension := by
  have hext : extension.utf8ByteSize = 5 := by decide
  rw [objectFileName, if_neg]
  rw [String.utf8ByteSize_append, utf8ByteSize_encode, hext, maxFileName]
  omega

theorem utf8ByteSize_objectFileName_le (k : String) : (objectFileName k).utf8ByteSize ≤ 255 := by
  by_cases h : k.utf8ByteSize ≤ 125
  · have hext : extension.utf8ByteSize = 5 := by decide
    rw [objectFileName_of_le h, String.utf8ByteSize_append, utf8ByteSize_encode, hext]
    omega
  · rw [objectFileName_of_gt (by omega), String.utf8ByteSize_append, String.utf8ByteSize_append,
      utf8ByteSize_hexDigest]
    decide

theorem bytes_mk_toList (b : ByteArray) : ByteArray.mk b.toList.toArray = b := by
  rw [ByteArray.toList_eq_data, Array.toArray_toList]

theorem keyOfFileName?_of_le {k : String} (h : k.utf8ByteSize ≤ 125) :
    keyOfFileName? (objectFileName k) = some k := by
  rw [objectFileName_of_le h, keyOfFileName?, dropSuffix?_append]
  simp only [Hex.encode, Hex.decode_encodeBytes, bytes_mk_toList, Option.bind_eq_bind,
    Option.bind_some, String.toUTF8_eq_toByteArray, Json.fromUTF8?_toByteArray]

theorem digit_ne : ∀ n, n < 16 →
    Hex.digit n ≠ 'h' ∧ Hex.digit n ≠ '/' ∧ Hex.digit n ≠ '.' ∧ Hex.digit n ≠ '\x00' := by
  decide

/-- Hex text holds none of the characters that mark hashed names, separators, hidden
names or names that are not text. -/
theorem ne_of_mem_encodeBytes {bs : List UInt8} {c : Char} (hc : c ∈ (Hex.encodeBytes bs).toList) :
    c ≠ 'h' ∧ c ≠ '/' ∧ c ≠ '.' ∧ c ≠ '\x00' := by
  obtain ⟨n, hn, rfl⟩ := Hex.mem_encodeBytes hc
  exact digit_ne n hn

theorem decode_hashed (d : String) : Hex.decode (hashedPrefix ++ d) = none := by
  rw [Hex.decode, String.toList_append]
  rfl

theorem keyOfFileName?_of_gt {k : String} (h : 125 < k.utf8ByteSize) :
    keyOfFileName? (objectFileName k) = none := by
  rw [objectFileName_of_gt h, keyOfFileName?, dropSuffix?_append]
  simp [decode_hashed]

theorem isHashedName_of_gt {k : String} (h : 125 < k.utf8ByteSize) :
    isHashedName (objectFileName k) = true := by
  have hdrop : String.ofList ((objectFileName k).toList.drop hashedPrefix.length) =
      Sha256.hexDigest k ++ extension := by
    rw [objectFileName_of_gt h, String.append_assoc, String.toList_append]
    rw [show hashedPrefix.length = hashedPrefix.toList.length from rfl, List.drop_left,
      String.ofList_toList]
  have hlen : (Sha256.hexDigest k).length = 64 := by
    rw [Sha256.hexDigest, Hex.length_encodeBytes, Sha256.length_digest]
  have hstart : (objectFileName k).startsWith hashedPrefix = true := by
    rw [objectFileName_of_gt h, String.startsWith_string_iff, String.append_assoc, String.toList_append]
    exact List.prefix_append _ _
  rw [isHashedName, if_pos hstart, hdrop, dropSuffix?_append]
  show ((Sha256.hexDigest k).length == 64 && (Hex.decode (Sha256.hexDigest k)).isSome) = true
  rw [hlen, Sha256.hexDigest, Hex.decode_encodeBytes]
  rfl

theorem toList_objectFileName_of_le {k : String} (h : k.utf8ByteSize ≤ 125) :
    (objectFileName k).toList = (Hex.encode k).toList ++ ['.', 'j', 's', 'o', 'n'] := by
  rw [objectFileName_of_le h, String.toList_append]
  rfl

theorem toList_objectFileName_of_gt {k : String} (h : 125 < k.utf8ByteSize) :
    (objectFileName k).toList = 'h' :: '-' :: ((Sha256.hexDigest k).toList ++ ['.', 'j', 's', 'o', 'n']) := by
  rw [objectFileName_of_gt h, String.toList_append, String.toList_append]
  rfl

theorem objectFileName_toList (k : String) :
    ∃ stem, (objectFileName k).toList = stem ++ ['.', 'j', 's', 'o', 'n'] ∧ '/' ∉ stem ∧
      (stem = [] ∨ ∃ c rest, stem = c :: rest ∧ c ≠ '.' ∧ c ≠ '\x00') := by
  by_cases h : k.utf8ByteSize ≤ 125
  · refine ⟨_, toList_objectFileName_of_le h, fun hm => (ne_of_mem_encodeBytes hm).2.1 rfl, ?_⟩
    cases hcs : (Hex.encode k).toList with
    | nil => exact .inl rfl
    | cons c rest =>
      have hmem : c ∈ (Hex.encodeBytes k.toUTF8.toList).toList := by
        show c ∈ (Hex.encode k).toList
        rw [hcs]; simp
      have hc := ne_of_mem_encodeBytes hmem
      exact .inr ⟨c, rest, rfl, hc.2.2.1, hc.2.2.2⟩
  · refine ⟨'h' :: '-' :: (Sha256.hexDigest k).toList, ?_, ?_, .inr ⟨'h', _, rfl, by decide, by decide⟩⟩
    · rw [toList_objectFileName_of_gt (by omega)]; rfl
    · simp only [List.mem_cons, not_or]
      exact ⟨by decide, by decide, fun hm => (ne_of_mem_encodeBytes hm).2.1 rfl⟩

theorem plain_objectFileName (k : String) : PathText.Plain (objectFileName k) := by
  obtain ⟨stem, hname, hsep, -⟩ := objectFileName_toList k
  have hlen : 5 ≤ (objectFileName k).toList.length := by rw [hname]; simp
  refine ⟨?_, ?_, ?_, ?_⟩
  · intro h; rw [h] at hlen; simp at hlen
  · rw [hname]; simp [hsep]
  · intro h; rw [h] at hlen; simp at hlen
  · intro h; rw [h] at hlen; simp at hlen

theorem getLast?_objectFileName (k : String) : (objectFileName k).toList.getLast? = some 'n' := by
  obtain ⟨stem, hname, -⟩ := objectFileName_toList k
  rw [hname]
  simp

theorem isText_objectFileName (k : String) : FileName.isText (objectFileName k) = true := by
  obtain ⟨stem, hname, -, hfirst⟩ := objectFileName_toList k
  rw [FileName.isText, Bool.not_eq_true', Bool.eq_false_iff, ne_eq, String.startsWith_string_iff, hname]
  rcases hfirst with rfl | ⟨c, rest, rfl, -, hc⟩
  · decide
  · simpa using Ne.symm hc

theorem encode_inj {s t : String} (h : Hex.encode s = Hex.encode t) : s = t := by
  have hbytes : s.toUTF8.toList = t.toUTF8.toList := by
    have := congrArg Hex.decode h
    rwa [Hex.encode, Hex.encode, Hex.decode_encodeBytes, Hex.decode_encodeBytes, Option.some_inj] at this
  have hmk := congrArg (fun l : List UInt8 => String.fromUTF8? (ByteArray.mk l.toArray)) hbytes
  simpa only [bytes_mk_toList, String.toUTF8_eq_toByteArray, Json.fromUTF8?_toByteArray,
    Option.some_inj] using hmk

theorem objectFileName_eq {k k' : String} (h : objectFileName k = objectFileName k') :
    k = k' ∨ (125 < k.utf8ByteSize ∧ 125 < k'.utf8ByteSize ∧ Sha256.hexDigest k = Sha256.hexDigest k') := by
  -- a hex name never starts with the `h` of a hashed name
  have hcross : ∀ a b, a.utf8ByteSize ≤ 125 → 125 < b.utf8ByteSize → objectFileName a ≠ objectFileName b := by
    intro a b ha hb hab
    have hl := congrArg String.toList hab
    rw [toList_objectFileName_of_le ha, toList_objectFileName_of_gt hb] at hl
    cases hcs : (Hex.encode a).toList with
    | nil => rw [hcs] at hl; simp at hl
    | cons c rest =>
      rw [hcs, List.cons_append, List.cons.injEq] at hl
      have hmem : c ∈ (Hex.encodeBytes a.toUTF8.toList).toList := by
        show c ∈ (Hex.encode a).toList
        rw [hcs]; simp
      exact (ne_of_mem_encodeBytes hmem).1 hl.1
  by_cases hk : k.utf8ByteSize ≤ 125 <;> by_cases hk' : k'.utf8ByteSize ≤ 125
  · left
    rw [objectFileName_of_le hk, objectFileName_of_le hk'] at h
    exact encode_inj ((String.append_left_inj _).1 h)
  · exact absurd h (hcross k k' hk (by omega))
  · exact absurd h.symm (hcross k' k hk' (by omega))
  · right
    refine ⟨by omega, by omega, ?_⟩
    rw [objectFileName_of_gt (by omega), objectFileName_of_gt (by omega)] at h
    exact (String.append_right_inj _).1 ((String.append_left_inj _).1 h)

theorem toList_namespaceDirName (ns : String) :
    (namespaceDirName ns).toList = 'n' :: 's' :: '-' :: (Hex.encode ns).toList := by
  rw [namespaceDirName, String.toList_append]
  rfl

theorem utf8ByteSize_namespaceDirName (ns : String) :
    (namespaceDirName ns).utf8ByteSize = 3 + 2 * ns.utf8ByteSize := by
  rw [namespaceDirName, String.utf8ByteSize_append, utf8ByteSize_encode]
  rfl

theorem namespaceDirName_inj {ns ns' : String} (h : namespaceDirName ns = namespaceDirName ns') :
    ns = ns' :=
  encode_inj ((String.append_right_inj _).1 h)

theorem plain_namespaceDirName (ns : String) : PathText.Plain (namespaceDirName ns) := by
  have hname := toList_namespaceDirName ns
  refine ⟨?_, ?_, ?_, ?_⟩
  · intro h; rw [h] at hname; simp at hname
  · rw [hname]
    simp only [List.mem_cons, not_or]
    exact ⟨by decide, by decide, by decide, fun hm => (ne_of_mem_encodeBytes hm).2.1 rfl⟩
  · intro h; rw [h] at hname; simp at hname
  · intro h; rw [h] at hname; simp at hname

theorem isText_namespaceDirName (ns : String) : FileName.isText (namespaceDirName ns) = true := by
  rw [FileName.isText, Bool.not_eq_true', Bool.eq_false_iff, ne_eq, String.startsWith_string_iff,
    toList_namespaceDirName]
  simp

theorem startsWith_namespaceDirName (ns : String) :
    (namespaceDirName ns).startsWith namespacePrefix = true := by
  rw [String.startsWith_string_iff, toList_namespaceDirName]
  simp [namespacePrefix]

theorem toString_ascii (n : Nat) : ∀ c ∈ (toString n).toList, c.toNat < 128 := by
  rw [Nat.toString_eq_repr, Nat.repr_eq_ofList_toDigits, String.toList_ofList]
  exact Json.digit_lt_128

theorem utf8ByteSize_hidden (n : Nat) (ext : String) :
    ("." ++ toString n ++ ext).utf8ByteSize = 1 + (toString n).length + ext.utf8ByteSize := by
  have hnum : (toString n).utf8ByteSize = (toString n).length := by
    have h := utf8ByteSize_ofList_ascii _ (toString_ascii n)
    rwa [String.ofList_toList, String.length_toList] at h
  rw [String.utf8ByteSize_append, String.utf8ByteSize_append, hnum]
  rfl

theorem plain_hidden (n : Nat) {ext : String} (hext : '/' ∉ ext.toList) (hlen : ext ≠ "") :
    PathText.Plain ("." ++ toString n ++ ext) := by
  have hdigits : '/' ∉ (toString n).toList := fun hm => by
    have hm' : '/' ∈ Nat.toDigits 10 n := by
      rwa [Nat.toString_eq_repr, Nat.repr_eq_ofList_toDigits, String.toList_ofList] at hm
    have := Nat.isDigit_of_mem_toDigits (by decide) (by decide) hm'
    exact absurd this (by decide)
  have hext' : 0 < ext.length := by
    rw [← String.length_toList]
    exact List.length_pos_iff.2 (by simpa using hlen)
  have hsize : 3 ≤ ("." ++ toString n ++ ext).toList.length := by
    have := @Nat.length_repr_pos n
    have hdot : ".".length = 1 := rfl
    rw [Nat.toString_eq_repr]
    simp only [String.toList_append, List.length_append, String.length_toList, hdot]
    omega
  refine ⟨?_, ?_, ?_, ?_⟩
  · intro h; rw [h] at hsize; simp at hsize
  · simp only [String.toList_append, List.mem_append, not_or]
    exact ⟨⟨by decide, hdigits⟩, hext⟩
  · intro h; rw [h] at hsize; simp at hsize
  · intro h; rw [h] at hsize; simp at hsize

theorem objectFileName_ne_of_getLast? (k : String) {c : String} (hlast : c.toList.getLast? ≠ some 'n') :
    objectFileName k ≠ c := by
  intro h
  exact hlast (h ▸ getLast?_objectFileName k)

theorem objectFileName_ne_hidden (k : String) (n : Nat) {ext : String}
    (hlast : ext.toList.getLast? ≠ some 'n') (hne : ext ≠ "") :
    objectFileName k ≠ "." ++ toString n ++ ext := by
  have hne' : ext.toList ≠ [] := fun e => hne (String.toList_eq_nil_iff.1 e)
  obtain ⟨x, hx⟩ := Option.isSome_iff_exists.1 (List.getLast?_isSome.2 hne')
  apply objectFileName_ne_of_getLast?
  rw [String.toList_append, List.getLast?_append, hx, Option.some_or]
  rwa [hx] at hlast

end Names

end Bucket

end KvStore
