import KvStore.Proofs.Bucket.Contract

/-!
Object names in a bucket directory, and what listing the directory finds.

A key of at most 125 bytes is named by its hex, from which it reads back; a longer key is
named by the hex of its digest, a name of 71 bytes that is recognised as hashed and yields
no key. The hidden names of temporaries and tombstones, `.<u>.tmp` and `.<u>.reap`, are
neither, whatever `u` is, and the one object name that starts with a dot is `.json`, the
empty key's. So listing a directory that holds objects beside temporaries and tombstones
finds each object once, under its own key (`listObjects_finds_each_object_once`).
-/

namespace KvStore

namespace Bucket

open Act

section Names

theorem keyOfFileName?_of_getLast? {c : String} (h : c.toList.getLast? ≠ some 'n') :
    keyOfFileName? c = none := by
  have hend : c.endsWith extension = false := by
    rw [Bool.eq_false_iff]
    intro hend
    rw [String.endsWith_eq_endsWith_toSlice, String.Slice.endsWith_string_iff, String.copy_toSlice] at hend
    obtain ⟨t, ht⟩ := hend
    exact h (by rw [← ht, List.getLast?_append]; rfl)
  simp [keyOfFileName?, dropSuffix?, hend]

theorem isHashedName_of_head? {c : String} (h : c.toList.head? ≠ some 'h') : isHashedName c = false := by
  have hstart : c.startsWith hashedPrefix = false := by
    rw [String.startsWith_string_eq_false_iff]
    rintro ⟨t, ht⟩
    exact h (by rw [← ht]; rfl)
  rw [isHashedName, hstart]
  rfl

theorem objectFileName_empty : objectFileName "" = ".json" := by
  have hempty : Hex.encode "" = "" := String.utf8ByteSize_eq_zero_iff.1 (by rw [utf8ByteSize_encode]; rfl)
  rw [objectFileName_of_le (by decide), hempty, String.empty_append]
  rfl

theorem isHashedName_of_le {k : String} (h : k.utf8ByteSize ≤ 125) : isHashedName (objectFileName k) = false := by
  apply isHashedName_of_head?
  rw [toList_objectFileName_of_le h]
  cases hcs : (Hex.encode k).toList with
  | nil => decide
  | cons c rest =>
    have hmem : c ∈ (Hex.encodeBytes k.toUTF8.toList).toList := by
      show c ∈ (Hex.encode k).toList
      rw [hcs]; simp
    simpa using (ne_of_mem_encodeBytes hmem).1

theorem utf8ByteSize_objectFileName_of_gt {k : String} (h : 125 < k.utf8ByteSize) :
    (objectFileName k).utf8ByteSize = 71 := by
  rw [objectFileName_of_gt h, String.utf8ByteSize_append, String.utf8ByteSize_append, utf8ByteSize_hexDigest]
  rfl

theorem startsWith_dot_objectFileName (k : String) : (objectFileName k).startsWith "." = true ↔ k = "" := by
  constructor
  · intro h
    obtain ⟨stem, hname, -, hfirst⟩ := objectFileName_toList k
    rw [String.startsWith_string_iff, hname] at h
    rcases hfirst with rfl | ⟨c, rest, rfl, hc, -⟩
    · -- the name is `.json`, which a long key's name is not
      have hsame : objectFileName k = objectFileName "" := by
        rw [objectFileName_empty, ← String.toList_inj, hname]
        rfl
      rcases objectFileName_eq hsame with hk | ⟨-, hlong, -⟩
      · exact hk
      · exact absurd hlong (by decide)
    · obtain ⟨t, ht⟩ := h
      have hhead := congrArg List.head? ht
      simp only [List.cons_append, List.head?_cons] at hhead
      exact absurd hhead.symm (by simpa using hc)
  · rintro rfl
    rw [objectFileName_empty, String.startsWith_string_iff]
    decide

def Hidden (c : String) : Prop := ∃ u, c = "." ++ u ++ ".tmp" ∨ c = "." ++ u ++ ".reap"

theorem Hidden.getLast? {c : String} (h : Hidden c) : c.toList.getLast? = some 'p' := by
  obtain ⟨u, rfl | rfl⟩ := h <;>
  · rw [String.toList_append, List.getLast?_append]
    rfl

theorem Hidden.head? {c : String} (h : Hidden c) : c.toList.head? = some '.' := by
  obtain ⟨u, rfl | rfl⟩ := h <;>
  · rw [String.toList_append, String.toList_append]
    rfl

theorem keyOfFileName?_hidden {c : String} (h : Hidden c) : keyOfFileName? c = none :=
  keyOfFileName?_of_getLast? (by rw [h.getLast?]; decide)

theorem isHashedName_hidden {c : String} (h : Hidden c) : isHashedName c = false :=
  isHashedName_of_head? (by rw [h.head?]; decide)

theorem isText_hidden {c : String} (h : Hidden c) : FileName.isText c = true := by
  rw [FileName.isText, Bool.not_eq_true', String.startsWith_string_eq_false_iff]
  rintro ⟨t, ht⟩
  have hhead := congrArg List.head? ht
  have hnul : ("\x00".toList ++ t).head? = some '\x00' := by
    rw [List.head?_append]
    rfl
  rw [h.head?, hnul] at hhead
  exact absurd hhead (by decide)

theorem objectFileName_ne_of_hidden (k : String) {c : String} (h : Hidden c) : objectFileName k ≠ c :=
  objectFileName_ne_of_getLast? k (by rw [h.getLast?]; decide)

end Names

section Listing

variable {w : World} {l : Layout} {dir : String}

def HoldsObject (w : World) (path key : String) : Prop :=
  ∃ o : StoredObject, o.key = key ∧ o.metadata.Fits ∧
    w.host.files.readFile (w.host.resolve path) = .ok (.text o.encode)

/-- Listing a directory whose entries are the objects of `keys`, each holding its own key,
beside hidden temporaries and tombstones, finds each key once, with its object's path. -/
theorem listObjects_finds_each_object_once {keys hidden : List String}
    (hopen : (w.pool l.pool).closed = false) (hwf : w.host.files.WellFormed)
    (hdir : w.host.files.lookup (w.host.resolve dir) = .ok (some .dir))
    (hnames : (w.host.files.children (w.host.resolve dir)).Perm (keys.map objectFileName ++ hidden))
    (hhidden : ∀ c ∈ hidden, Hidden c)
    (hstored : ∀ k ∈ keys, 125 < k.utf8ByteSize → HoldsObject w (PathText.join dir (objectFileName k)) k) :
    ∃ objs, (l.listObjects dir).Returns w objs w ∧ (objs.map Prod.fst).Perm keys ∧
      ∀ o ∈ objs, o.2 = PathText.join dir (objectFileName o.1) := by
  suffices h : ∃ objs w', (l.listObjects dir).Returns w objs w' ∧ w' = w ∧ (objs.map Prod.fst).Perm keys ∧
      ∀ o ∈ objs, o.2 = PathText.join dir (objectFileName o.1) by
    obtain ⟨objs, _, hrun, rfl, hobjs⟩ := h
    exact ⟨objs, hrun, hobjs⟩
  have hnodupNames : (w.host.files.children (w.host.resolve dir)).Nodup := FileTree.nodup_children hwf
  have hnodup : (keys.map objectFileName).Nodup :=
    (hnames.nodup_iff.1 hnodupNames).sublist (List.sublist_append_left _ _)
  have hobject : ∀ k, objectFileName k ∉ hidden := fun k hk => objectFileName_ne_of_hidden k (hhidden _ hk) rfl
  unfold Layout.listObjects
  refine returns_files.bind_exists ((returns_resolve _).bind_exists ?_)
  simp only [FileTree.readDir_of_dir hdir]
  -- the objects found so far are those of the object names passed, in order
  refine returns_foldlM _ (fun done acc w' => w = w' ∧ acc.map (objectFileName ·.1) = done.filter (· ∉ hidden) ∧
    ∀ o ∈ acc, o.1 ∈ keys ∧ o.2 = PathText.join dir (objectFileName o.1)) ?_ [] w ⟨rfl, rfl, by simp⟩ ?_
  · intro done c rest acc w₁ hsplit ⟨hw, hacc, hobjs⟩
    subst hw
    have hc : c ∈ w.host.files.children (w.host.resolve dir) := by rw [← hsplit]; simp
    rcases List.mem_append.1 (hnames.subset hc) with hobj | hh
    · obtain ⟨k, hk, rfl⟩ := List.mem_map.1 hobj
      refine ⟨acc ++ [(k, PathText.join dir (objectFileName k))], w, ?_, rfl, by simp [hacc, hobject k], ?_⟩
      · -- the key comes from a hex name, or from the object in a hashed file
        simp only [isText_objectFileName, Bool.not_true, Bool.false_eq_true, if_false]
        by_cases hshort : k.utf8ByteSize ≤ 125
        · simp only [keyOfFileName?_of_le hshort]
          exact returns_pure _ _
        · have hlong : 125 < k.utf8ByteSize := Nat.lt_of_not_le hshort
          obtain ⟨o, rfl, hfits, hread⟩ := hstored _ hk hlong
          simp only [keyOfFileName?_of_gt hlong, isHashedName_of_gt hlong, if_true]
          exact (returns_attempt (returns_load_of_text hopen hread (decode_encode o hfits))).bind (returns_pure _ _)
      · intro o ho
        rcases List.mem_append.1 ho with ho | ho
        · exact hobjs o ho
        · rw [List.mem_singleton.1 ho]
          exact ⟨hk, rfl⟩
    · have hhid := hhidden c hh
      refine ⟨acc, w, ?_, rfl, by simp [hacc, hh], hobjs⟩
      simp only [isText_hidden hhid, Bool.not_true, Bool.false_eq_true, if_false, keyOfFileName?_hidden hhid,
        isHashedName_hidden hhid]
      exact returns_pure _ _
  · intro acc w' ⟨hw, hfound, hobjs⟩
    refine ⟨hw.symm, ?_, fun o ho => (hobjs o ho).2⟩
    -- the object names of the directory are those of `keys`, each once
    have hfilter : ((w.host.files.children (w.host.resolve dir)).filter (· ∉ hidden)).Perm (keys.map objectFileName) := by
      refine (hnames.filter _).trans ?_
      rw [List.filter_append, List.filter_eq_self.2 (fun c hc => ?_), List.filter_eq_nil_iff.2 (fun c hc => ?_),
        List.append_nil]
      · simpa using hc
      · obtain ⟨k, -, rfl⟩ := List.mem_map.1 hc
        simpa using hobject k
    have hnodupFound : (acc.map Prod.fst).Nodup := by
      refine List.Nodup.of_map objectFileName ?_
      rw [List.map_map]
      exact hfound ▸ hnodupNames.filter _
    refine (List.perm_ext_iff_of_nodup hnodupFound (hnodup.of_map _)).2 fun k => ⟨fun hmem => ?_, fun hk => ?_⟩
    · obtain ⟨o, ho, rfl⟩ := List.mem_map.1 hmem
      exact (hobjs o ho).1
    · have hname : objectFileName k ∈ acc.map (objectFileName ·.1) := by
        rw [hfound]
        exact hfilter.symm.subset (List.mem_map_of_mem hk)
      obtain ⟨o, ho, hok⟩ := List.mem_map.1 hname
      rw [← List.inj_on_of_nodup_map hnodup (hobjs o ho).1 hk hok]
      exact List.mem_map_of_mem ho

/-- Object names read back apart from the hidden names beside them: a short key from its hex
name; a long key's 71-byte name recognised as hashed and read as no key; the names of
temporaries and tombstones taken for neither; the empty key's `.json` the one object name
with a leading dot. Listing a directory of objects, temporaries and tombstones therefore
finds each object once, under its own key. -/
theorem object_names_read_back_apart_from_hidden :
    (∀ k : String, k.utf8ByteSize ≤ 125 →
      objectFileName k = Hex.encode k ++ ".json" ∧ keyOfFileName? (objectFileName k) = some k ∧
        isHashedName (objectFileName k) = false) ∧
    (∀ k : String, 125 < k.utf8ByteSize →
      objectFileName k = "h-" ++ Sha256.hexDigest k ++ ".json" ∧ (objectFileName k).utf8ByteSize = 71 ∧
        isHashedName (objectFileName k) = true ∧ keyOfFileName? (objectFileName k) = none) ∧
    (∀ u : String, ∀ ext ∈ [".tmp", ".reap"],
      keyOfFileName? ("." ++ u ++ ext) = none ∧ isHashedName ("." ++ u ++ ext) = false) ∧
    (∀ k : String, (objectFileName k).startsWith "." = true ↔ k = "") ∧
    objectFileName "" = ".json" ∧ keyOfFileName? ".json" = some "" ∧
    (∀ (w : World) (l : Layout) (dir : String) (keys hidden : List String),
      (w.pool l.pool).closed = false → w.host.files.WellFormed →
      w.host.files.lookup (w.host.resolve dir) = .ok (some .dir) →
      (w.host.files.children (w.host.resolve dir)).Perm (keys.map objectFileName ++ hidden) →
      (∀ c ∈ hidden, Hidden c) →
      (∀ k ∈ keys, 125 < k.utf8ByteSize → HoldsObject w (PathText.join dir (objectFileName k)) k) →
      ∃ objs, (l.listObjects dir).Returns w objs w ∧ (objs.map Prod.fst).Perm keys ∧
        ∀ o ∈ objs, o.2 = PathText.join dir (objectFileName o.1)) := by
  refine ⟨fun k hk => ⟨objectFileName_of_le hk, keyOfFileName?_of_le hk, isHashedName_of_le hk⟩,
    fun k hk => ⟨objectFileName_of_gt hk, utf8ByteSize_objectFileName_of_gt hk, isHashedName_of_gt hk,
      keyOfFileName?_of_gt hk⟩, fun u ext hext => ?_, startsWith_dot_objectFileName, objectFileName_empty,
    objectFileName_empty ▸ keyOfFileName?_of_le (by decide),
    fun _ _ _ _ _ => listObjects_finds_each_object_once⟩
  have hhidden : Hidden ("." ++ u ++ ext) := by
    rcases List.mem_pair.1 hext with rfl | rfl
    · exact ⟨u, .inl rfl⟩
    · exact ⟨u, .inr rfl⟩
  exact ⟨keyOfFileName?_hidden hhidden, isHashedName_hidden hhidden⟩

/-- The namespace `ns` of the fresh bucket holding the object of key `42` beside a temporary
and a tombstone; listing reads no short key's file. -/
def listingWorld : World where
  host := { files := ⟨[(["b"], .dir), (["b", "ns-6e73"], .dir), (["b", "ns-6e73", "3432.json"], .file (.text "{}") 0),
    (["b", "ns-6e73", ".0b5c1e.tmp"], .file (.text "") 0), (["b", "ns-6e73", ".0b5c1e.reap"], .file (.text "") 0)]⟩ }

theorem listing_finds_object_beside_hidden_files :
    keyOfFileName? (objectFileName "42") = some "42" ∧ isHashedName (objectFileName "42") = false ∧
    keyOfFileName? ".0b5c1e.tmp" = none ∧ isHashedName ".0b5c1e.reap" = false ∧
    ∃ objs, (freshLayout.listObjects (freshLayout.namespaceDir "ns")).Returns listingWorld objs listingWorld ∧
      (objs.map Prod.fst).Perm ["42"] ∧
      ∀ o ∈ objs, o.2 = PathText.join (freshLayout.namespaceDir "ns") (objectFileName o.1) := by
  have hname : objectFileName "42" = "3432.json" := by decide +kernel
  have hdir : listingWorld.host.resolve (freshLayout.namespaceDir "ns") = ["b", "ns-6e73"] := by decide +kernel
  have hshort : "42".utf8ByteSize ≤ 125 := by decide
  have hnames := object_names_read_back_apart_from_hidden
  refine ⟨(hnames.1 "42" hshort).2.1, (hnames.1 "42" hshort).2.2, (hnames.2.2.1 "0b5c1e" ".tmp" (by simp)).1,
    (hnames.2.2.1 "0b5c1e" ".reap" (by simp)).2, ?_⟩
  refine hnames.2.2.2.2.2.2 listingWorld freshLayout _ ["42"] [".0b5c1e.tmp", ".0b5c1e.reap"] rfl
    (by unfold FileTree.WellFormed; decide) (by rw [hdir]; rfl) ?_ ?_ ?_
  · rw [hdir, FileTree.children_eq, List.map_singleton, hname]
    exact (List.mergeSort_perm _ _).trans (List.Perm.refl _)
  · intro c hc
    rcases List.mem_pair.1 hc with rfl | rfl
    · exact ⟨"0b5c1e", .inl rfl⟩
    · exact ⟨"0b5c1e", .inr rfl⟩
  · -- no key here is long enough to be read from its file
    intro k hk hlong
    rw [List.mem_singleton.1 hk] at hlong
    exact absurd hlong (by decide)

end Listing

end Bucket

end KvStore
