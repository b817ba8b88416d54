import KvStore.Proofs.Store.Runs
import KvStore.Proofs.Host.Tree
import KvStore.Proofs.Bucket.Encoding
import KvStore.Proofs.Backend.Contents

/-!
The invariant of a bucket: the file tree below the bucket directory holds exactly the layout
of an abstract map from namespace and key to stored entry (`Holds`).

Each namespace has a directory named from its hex, holding one object file per key, named
from the key's hex or, for a long key, its SHA-256 digest; the file holds the key, value,
expiry and last use as JSON. Nothing else stands below the bucket directory. A key's object
file is found by a lookup along the path (`lookup_object_of_lookup`); writing an object
through a hidden temporary file, or moving it to a hidden tombstone and removing that, moves
the tree from the layout of one map to the layout of the map updated at that key
(`moved_hidden`, `erase_moved_hidden`). Two keys share a file name only if both are long and
share a digest; `NameFree` states that no other key held in the namespace does.
-/

namespace KvStore

/-- The world after a file call that left the tree `t`: the clock moved on. -/
def World.changed (w : World) (t : FileTree) : World := { w with host := { w.host.tick with files := t } }

@[simp] theorem World.changed_files (w : World) (t : FileTree) : (w.changed t).host.files = t := rfl
@[simp] theorem World.changed_cwd (w : World) (t : FileTree) : (w.changed t).host.cwd = w.host.cwd := rfl
@[simp] theorem World.changed_clock (w : World) (t : FileTree) :
    (w.changed t).host.clock = w.host.clock + 1000 := rfl
@[simp] theorem World.changed_pools (w : World) (t : FileTree) : (w.changed t).pools = w.pools := rfl
@[simp] theorem World.changed_unique (w : World) (t : FileTree) : (w.changed t).unique = w.unique := rfl

namespace Bucket

open Act

variable {w : World} {l : Layout}

theorem returns_resolve (p : String) : (resolve p).Returns w (w.host.resolve p) w := rfl

theorem returns_files : files.Returns w w.host.files w := rfl

theorem returns_change_ok {f : FileTree → Nat → Except IoError FileTree} {t : FileTree}
    (h : f w.host.files (w.host.clock + 1000) = .ok t) : (change f).Returns w (.ok ()) (w.changed t) := by
  unfold change
  refine (returns_get w).bind ?_
  have h' : f w.host.tick.files w.host.tick.clock = .ok t := h
  simp only [h']
  exact (returns_set _ _).bind (returns_pure _ _)

theorem returns_ensureOpen (hopen : (w.pool l.pool).closed = false) : l.ensureOpen.Returns w () w := by
  unfold Layout.ensureOpen
  exact (returns_get w).bind (by simp only [hopen, Bool.false_eq_true, if_false]; exact returns_pure _ _)

theorem returns_change_error {f : FileTree → Nat → Except IoError FileTree} {e : IoError}
    (h : f w.host.files (w.host.clock + 1000) = .error e) :
    (change f).Returns w (.error e) (w.changed w.host.files) := by
  unfold change
  refine (returns_get w).bind ?_
  have h' : f w.host.tick.files w.host.tick.clock = .error e := h
  simp only [h']
  exact (returns_set _ _).bind (returns_pure _ _)

def objectOf (ns key : String) (s : Stored) (lastAccessed : Int) : StoredObject where
  key := key
  value := s.value
  metadata := { expiresAt := s.expires, lastAccessed, namespaceName := ns }

def objectText (ns key : String) (s : Stored) (lastAccessed : Int) : String :=
  (objectOf ns key s lastAccessed).encode

def Fits (s : Stored) : Prop := ∀ e ∈ s.expires, InI64 e

theorem decode_objectText {ns key : String} {s : Stored} {la : Int} (hs : Fits s) (hla : InI64 la) :
    StoredObject.decode (objectText ns key s la) = .ok (objectOf ns key s la) :=
  decode_encode _ ⟨hs, hla⟩
theorem expiredAt_objectOf (now : Int) (ns k : String) (s : Stored) (la : Int) :
    Layout.expiredAt now (objectOf ns k s la) = s.expiredAt now := by
  obtain ⟨v, _ | e⟩ := s <;> rfl

/-- What the layout keeps at a path below the bucket directory, for contents `M`: the
directory of a namespace, or the object file of an entry. -/
def Placed (M : Contents) : Path → Entry → Prop
  | [d], e => e = .dir ∧ ∃ ns, d = namespaceDirName ns ∧ ns.utf8ByteSize ≤ 126
  | [d, f], e => ∃ ns k s la m, d = namespaceDirName ns ∧ f = objectFileName k ∧
      M.lookup (ns, k) = some s ∧ InI64 la ∧ e = .file (.text (objectText ns k s la)) m
  | _, _ => False

/-- No other key that `M` holds in the namespace has the file name of `k`. -/
def NameFree (M : Contents) (ns k : String) : Prop :=
  ∀ k' s, M.lookup (ns, k') = some s → objectFileName k' = objectFileName k → k' = k
section NameFree

variable {M : Contents} {ns k : String}

theorem NameFree.of_sub {M' : Contents} (hfree : NameFree M ns k)
    (hsub : ∀ a s, M'.lookup a = some s → M.lookup a = some s) : NameFree M' ns k :=
  fun k' s hs hname => hfree k' s (hsub _ _ hs) hname

theorem NameFree.upsert {ns' : String} {entries : List StoredEntry} (hfree : NameFree M ns k)
    (hapart : ∀ e ∈ entries, objectFileName e.key = objectFileName k → e.key = k) :
    NameFree (M.upsert ns' entries) ns k := by
  intro k' s hs hname
  rcases Contents.lookup_upsert_of_some hs with hM | ⟨e, he, hkey⟩
  · exact hfree k' s hM hname
  · obtain rfl : k' = e.key := (Prod.mk.inj hkey).2
    exact hapart e he hname

end NameFree

/-- The directory `B` of the tree `t` holds exactly the layout of the contents `M`: every
entry below it is placed, and every entry of `M` has its object file. -/
structure Holds (B : Path) (t : FileTree) (M : Contents) : Prop where
  wellFormed : t.WellFormed
  root : t.lookup B = .ok (some .dir)
  placed : ∀ q e, q ≠ [] → t.find? (B ++ q) = some e → Placed M q e
  dirOf : ∀ d f, (t.find? (B ++ [d, f])).isSome → t.find? (B ++ [d]) = some .dir
  stored : ∀ ns k s, M.lookup (ns, k) = some s → ∃ la m, InI64 la ∧
    t.find? (B ++ [namespaceDirName ns, objectFileName k]) = some (.file (.text (objectText ns k s la)) m)
  fits : ∀ ns k s, M.lookup (ns, k) = some s → ns.utf8ByteSize ≤ 126 ∧ Fits s

namespace Holds

variable {B : Path} {t : FileTree} {M : Contents} {ns k : String}

theorem short_namespaceDirName (hns : ns.utf8ByteSize ≤ 126) : FileTree.Short (namespaceDirName ns) := by
  unfold FileTree.Short FileTree.maxNameBytes
  rw [utf8ByteSize_namespaceDirName]
  omega

theorem short_objectFileName (k : String) : FileTree.Short (objectFileName k) :=
  utf8ByteSize_objectFileName_le k

theorem namespaceDir_cases (h : Holds B t M) (ns : String) :
    t.find? (B ++ [namespaceDirName ns]) = none ∨ t.find? (B ++ [namespaceDirName ns]) = some .dir := by
  cases hfind : t.find? (B ++ [namespaceDirName ns]) with
  | none => exact .inl rfl
  | some e => exact .inr (congrArg some (h.placed [_] e (by simp) hfind).1)

theorem lookup_namespaceDir (h : Holds B t M) (hns : ns.utf8ByteSize ≤ 126) :
    t.lookup (B ++ [namespaceDirName ns]) = .ok (t.find? (B ++ [namespaceDirName ns])) := by
  rw [FileTree.lookup_child h.root (short_namespaceDirName hns), FileTree.get?_of_ne_nil (by simp)]

theorem lookup_object_of_dir (h : Holds B t M) (hns : ns.utf8ByteSize ≤ 126)
    (hdir : t.find? (B ++ [namespaceDirName ns]) = some .dir) (f : String) (hf : FileTree.Short f) :
    t.lookup (B ++ [namespaceDirName ns, f]) = .ok (t.find? (B ++ [namespaceDirName ns, f])) := by
  have hroot : t.lookup (B ++ [namespaceDirName ns]) = .ok (some .dir) := by
    rw [h.lookup_namespaceDir hns, hdir]
  rw [show B ++ [namespaceDirName ns, f] = (B ++ [namespaceDirName ns]) ++ [f] by simp,
    FileTree.lookup_child hroot hf, FileTree.get?_of_ne_nil (by simp)]

theorem lookup_object_of_none (h : Holds B t M) (hns : ns.utf8ByteSize ≤ 126)
    (hnone : t.find? (B ++ [namespaceDirName ns]) = none) (f : String) :
    t.lookup (B ++ [namespaceDirName ns, f]) = .error .notFound :=
  FileTree.lookup_below_missing h.root (short_namespaceDirName hns)
    (by rw [FileTree.get?_of_ne_nil (by simp), hnone]) (List.cons_ne_nil _ _)

/-- The object file at a key's name when `M` does not hold the key: nothing, or the file
of another key of the namespace with the same name. -/
theorem object_of_lookup_none (h : Holds B t M) (hk : M.lookup (ns, k) = none) :
    t.find? (B ++ [namespaceDirName ns, objectFileName k]) = none ∨
      ∃ k' s la m, k' ≠ k ∧ objectFileName k' = objectFileName k ∧ M.lookup (ns, k') = some s ∧
        InI64 la ∧
        t.find? (B ++ [namespaceDirName ns, objectFileName k]) = some (.file (.text (objectText ns k' s la)) m) := by
  cases hfind : t.find? (B ++ [namespaceDirName ns, objectFileName k]) with
  | none => exact .inl rfl
  | some e =>
    obtain ⟨ns', k', s, la, m, hd, hf, hs, hla, rfl⟩ := h.placed [_, _] e (by simp) hfind
    obtain rfl := namespaceDirName_inj hd.symm
    refine .inr ⟨k', s, la, m, ?_, hf.symm, hs, hla, rfl⟩
    rintro rfl
    rw [hk] at hs
    cases hs

theorem key_unique (h : Holds B t M) {k₁ k₂ : String} {s₁ s₂ : Stored}
    (h₁ : M.lookup (ns, k₁) = some s₁) (h₂ : M.lookup (ns, k₂) = some s₂)
    (hname : objectFileName k₁ = objectFileName k₂) : k₁ = k₂ := by
  obtain ⟨la₁, m₁, hla₁, hf₁⟩ := h.stored ns k₁ s₁ h₁
  obtain ⟨la₂, m₂, hla₂, hf₂⟩ := h.stored ns k₂ s₂ h₂
  rw [hname, hf₂] at hf₁
  have htext : objectText ns k₂ s₂ la₂ = objectText ns k₁ s₁ la₁ := by
    simp only [Option.some.injEq, Entry.file.injEq, FileData.text.injEq] at hf₁
    exact hf₁.1
  have hdec := congrArg StoredObject.decode htext
  rw [decode_objectText (h.fits ns k₂ s₂ h₂).2 hla₂, decode_objectText (h.fits ns k₁ s₁ h₁).2 hla₁] at hdec
  injection hdec with hobj
  exact (congrArg StoredObject.key hobj).symm

theorem objectPath_ne (h : Holds B t M) {a b : String × String} (ha : (M.lookup a).isSome)
    (hb : (M.lookup b).isSome) (hab : a ≠ b) :
    B ++ [namespaceDirName a.1, objectFileName a.2] ≠ B ++ [namespaceDirName b.1, objectFileName b.2] := by
  intro hpath
  have hd : namespaceDirName a.1 = namespaceDirName b.1 ∧ objectFileName a.2 = objectFileName b.2 := by
    simpa using hpath
  obtain ⟨a₁, a₂⟩ := a
  obtain ⟨b₁, b₂⟩ := b
  obtain rfl : a₁ = b₁ := namespaceDirName_inj hd.1
  obtain ⟨s, hs⟩ := Option.isSome_iff_exists.1 ha
  obtain ⟨s', hs'⟩ := Option.isSome_iff_exists.1 hb
  exact hab (by rw [h.key_unique hs hs' hd.2])

theorem find?_erase_other (h : Holds B t M) {a b : String × String} (ha : (M.lookup a).isSome)
    (hb : (M.lookup b).isSome) (hab : a ≠ b) :
    (t.erase (B ++ [namespaceDirName b.1, objectFileName b.2])).find? (B ++ [namespaceDirName a.1, objectFileName a.2]) =
      t.find? (B ++ [namespaceDirName a.1, objectFileName a.2]) := by
  rw [FileTree.find?_erase, if_neg fun hpre => h.objectPath_ne ha hb hab (hpre.eq_of_length (by simp)).symm]

theorem mem_children_namespaceDir (h : Holds B t M) {c : String} :
    c ∈ t.children (B ++ [namespaceDirName ns]) ↔
      ∃ k, (M.lookup (ns, k)).isSome ∧ objectFileName k = c := by
  rw [FileTree.mem_children, List.append_assoc, List.singleton_append]
  constructor
  · intro hsome
    obtain ⟨e, he⟩ := Option.isSome_iff_exists.1 hsome
    obtain ⟨ns', k', s, -, -, hd, hf, hs, -, -⟩ := h.placed [_, _] e (by simp) he
    obtain rfl := namespaceDirName_inj hd.symm
    exact ⟨k', by rw [hs]; rfl, hf.symm⟩
  · rintro ⟨k, hk, rfl⟩
    obtain ⟨s, hs⟩ := Option.isSome_iff_exists.1 hk
    obtain ⟨la, m, -, hf⟩ := h.stored ns k s hs
    rw [hf]
    rfl

theorem congr {M' : Contents} (h : Holds B t M) (hM : ∀ a, M'.lookup a = M.lookup a) : Holds B t M' where
  wellFormed := h.wellFormed
  root := h.root
  placed q e hq he := by
    have hp := h.placed q e hq he
    match q, hp with
    | [_], hp => exact hp
    | [_, _], ⟨ns, k, s, la, m, hd, hf, hs, hla, he⟩ => exact ⟨ns, k, s, la, m, hd, hf, by rw [hM]; exact hs, hla, he⟩
  dirOf := h.dirOf
  stored ns k s hs := h.stored ns k s (by rw [← hM]; exact hs)
  fits ns k s hs := h.fits ns k s (by rw [← hM]; exact hs)

theorem congr_tree {t' : FileTree} (h : Holds B t M) (hwf : t'.WellFormed)
    (ht : ∀ q, t'.find? q = t.find? q) : Holds B t' M where
  wellFormed := hwf
  root := by
    rw [FileTree.lookup_congr fun r _ => ?_]
    · exact h.root
    · by_cases hr : r = []
      · subst hr; rfl
      · rw [FileTree.get?_of_ne_nil hr, FileTree.get?_of_ne_nil hr, ht]
  placed q e hq he := h.placed q e hq (by rw [← ht]; exact he)
  dirOf d f hf := by rw [ht] at hf ⊢; exact h.dirOf d f hf
  stored ns k s hs := by simpa only [ht] using h.stored ns k s hs
  fits := h.fits

theorem fresh (hwf : t.WellFormed) (hroot : t.lookup B = .ok (some .dir))
    (hbelow : ∀ q, q ≠ [] → t.find? (B ++ q) = none) : Holds B t ∅ where
  wellFormed := hwf
  root := hroot
  placed q e hq he := by rw [hbelow q hq] at he; cases he
  dirOf d f hf := by rw [hbelow _ (by simp)] at hf; cases hf
  stored _ _ _ hs := by cases hs
  fits _ _ _ hs := by cases hs

theorem root_of_below {t' : FileTree} (h : Holds B t M)
    (hbelow : ∀ r, r <+: B → t'.get? r = t.get? r) : t'.lookup B = .ok (some .dir) := by
  rw [FileTree.lookup_congr hbelow]
  exact h.root

theorem put_dir (h : Holds B t M) (hns : ns.utf8ByteSize ≤ 126) :
    Holds B (t.put (B ++ [namespaceDirName ns]) .dir) M where
  wellFormed := FileTree.wellFormed_put h.wellFormed
  root := h.root_of_below fun r hr => FileTree.get?_put_of_lt (by simp) hr
  placed q e hq he := by
    rw [FileTree.find?_put] at he
    by_cases hqd : B ++ q = B ++ [namespaceDirName ns]
    · rw [if_pos hqd] at he
      obtain rfl := List.append_cancel_left hqd
      cases he
      exact ⟨rfl, ns, rfl, hns⟩
    · rw [if_neg hqd] at he
      exact h.placed q e hq he
  dirOf d f hf := by
    have hne : B ++ [d, f] ≠ B ++ [namespaceDirName ns] := by simp
    rw [FileTree.find?_put, if_neg hne] at hf
    rw [FileTree.find?_put]
    split
    · rfl
    · exact h.dirOf d f hf
  stored ns' k s hs := by
    have hne : B ++ [namespaceDirName ns', objectFileName k] ≠ B ++ [namespaceDirName ns] := by simp
    rw [FileTree.find?_put, if_neg hne]
    exact h.stored ns' k s hs
  fits := h.fits

theorem nameFree_of_lookup (h : Holds B t M) {s : Stored} (hs : M.lookup (ns, k) = some s) :
    NameFree M ns k :=
  fun _ _ hs' hname => h.key_unique hs' hs hname

/-- Writing the object file of an entry keeps the invariant for the contents holding the
entry, when no other key of the namespace has its name. -/
theorem put_object (h : Holds B t M) (hns : ns.utf8ByteSize ≤ 126)
    (hdir : t.find? (B ++ [namespaceDirName ns]) = some .dir) {s : Stored} (hs : Fits s) {la : Int}
    (hla : InI64 la) (hfree : NameFree M ns k) (m : Nat) :
    Holds B (t.put (B ++ [namespaceDirName ns, objectFileName k]) (.file (.text (objectText ns k s la)) m))
      (M.insert (ns, k) s) where
  wellFormed := FileTree.wellFormed_put h.wellFormed
  root := h.root_of_below fun r hr => FileTree.get?_put_of_lt (by simp) hr
  placed q e hq he := by
    rw [FileTree.find?_put] at he
    by_cases hqo : B ++ q = B ++ [namespaceDirName ns, objectFileName k]
    · rw [if_pos hqo] at he
      obtain rfl := List.append_cancel_left hqo
      cases he
      exact ⟨ns, k, s, la, m, rfl, rfl, AList.lookup_insert _, hla, rfl⟩
    · rw [if_neg hqo] at he
      have hp := h.placed q e hq he
      match q, hp with
      | [_], hp => exact hp
      | [_, _], ⟨ns', k', s', la', m', hd, hf, hs', hla', he'⟩ =>
        refine ⟨ns', k', s', la', m', hd, hf, ?_, hla', he'⟩
        rw [AList.lookup_insert_ne]
        · exact hs'
        · rintro ⟨⟩
          exact hqo (by rw [hd, hf])
  dirOf d f hf := by
    rw [FileTree.find?_put] at hf
    have hne : B ++ [d] ≠ B ++ [namespaceDirName ns, objectFileName k] := by simp
    rw [FileTree.find?_put, if_neg hne]
    split at hf
    · rename_i hdf
      obtain ⟨rfl, -⟩ : d = namespaceDirName ns ∧ f = objectFileName k := by simpa using hdf
      exact hdir
    · exact h.dirOf d f hf
  stored ns' k' s' hs' := by
    by_cases hkey : (ns', k') = (ns, k)
    · obtain ⟨rfl, rfl⟩ := Prod.mk.inj hkey
      rw [AList.lookup_insert] at hs'
      cases hs'
      exact ⟨la, m, hla, by rw [FileTree.find?_put, if_pos rfl]⟩
    · rw [AList.lookup_insert_ne hkey] at hs'
      obtain ⟨la', m', hla', hf⟩ := h.stored ns' k' s' hs'
      refine ⟨la', m', hla', ?_⟩
      rw [FileTree.find?_put, if_neg, hf]
      intro hpath
      have hd : namespaceDirName ns' = namespaceDirName ns ∧ objectFileName k' = objectFileName k := by
        simpa using hpath
      obtain rfl := namespaceDirName_inj hd.1
      exact hkey (by rw [hfree k' s' hs' hd.2])
  fits ns' k' s' hs' := by
    by_cases hkey : (ns', k') = (ns, k)
    · obtain ⟨rfl, rfl⟩ := Prod.mk.inj hkey
      rw [AList.lookup_insert] at hs'
      cases hs'
      exact ⟨hns, hs⟩
    · rw [AList.lookup_insert_ne hkey] at hs'
      exact h.fits ns' k' s' hs'

/-- Removing the object file at a key's name keeps the invariant for the contents without
the key, when no other key of the namespace has its name. -/
theorem erase_object (h : Holds B t M) (hfree : NameFree M ns k) :
    Holds B (t.erase (B ++ [namespaceDirName ns, objectFileName k])) (M.erase (ns, k)) where
  wellFormed := FileTree.wellFormed_erase h.wellFormed
  root := h.root_of_below fun r hr => by
    by_cases hr0 : r = []
    · subst hr0; rfl
    · rw [FileTree.get?_of_ne_nil hr0, FileTree.get?_of_ne_nil hr0, FileTree.find?_erase, if_neg]
      intro hpre
      have h₁ := hpre.length_le
      have h₂ := hr.length_le
      simp at h₁
      omega
  placed q e hq he := by
    rw [FileTree.find?_erase] at he
    split at he
    · cases he
    · rename_i hnot
      have hp := h.placed q e hq he
      match q, hp with
      | [_], hp => exact hp
      | [_, _], ⟨ns', k', s', la', m', hd, hf, hs', hla', he'⟩ =>
        refine ⟨ns', k', s', la', m', hd, hf, ?_, hla', he'⟩
        rw [AList.lookup_erase_ne]
        · exact hs'
        · rintro ⟨⟩
          exact hnot (by simp only [hd, hf, List.prefix_refl])
  dirOf d f hf := by
    rw [FileTree.find?_erase] at hf
    split at hf
    · cases hf
    · rw [FileTree.find?_erase, if_neg]
      · exact h.dirOf d f hf
      · intro hpre
        have := hpre.length_le
        simp at this
  stored ns' k' s' hs' := by
    have hkey : (ns', k') ≠ (ns, k) := by
      intro hkey
      rw [hkey, AList.lookup_erase] at hs'
      cases hs'
    rw [AList.lookup_erase_ne hkey] at hs'
    obtain ⟨la', m', hla', hf⟩ := h.stored ns' k' s' hs'
    refine ⟨la', m', hla', ?_⟩
    rw [FileTree.find?_erase, if_neg, hf]
    intro hpre
    have hpath := hpre.eq_of_length (by simp)
    have hd : namespaceDirName ns = namespaceDirName ns' ∧ objectFileName k = objectFileName k' := by
      simpa using hpath
    obtain rfl := namespaceDirName_inj hd.1
    exact hkey (by rw [hfree k' s' hs' hd.2.symm])
  fits ns' k' s' hs' := by
    have hkey : (ns', k') ≠ (ns, k) := by
      intro hkey
      rw [hkey, AList.lookup_erase] at hs'
      cases hs'
    rw [AList.lookup_erase_ne hkey] at hs'
    exact h.fits ns' k' s' hs'

end Holds

theorem resolve_namespaceDir (ns : String) :
    w.host.resolve (l.namespaceDir ns) = w.host.resolve l.bucketDir ++ [namespaceDirName ns] :=
  PathText.resolve_join _ _ (plain_namespaceDirName ns)

theorem resolve_objectPath (ns k : String) :
    w.host.resolve (l.objectPath ns k) =
      w.host.resolve l.bucketDir ++ [namespaceDirName ns, objectFileName k] := by
  show PathText.resolve w.host.cwd (PathText.join (l.namespaceDir ns) (objectFileName k)) = _
  rw [PathText.resolve_join _ _ (plain_objectFileName k)]
  show w.host.resolve (l.namespaceDir ns) ++ _ = _
  rw [resolve_namespaceDir]
  simp
theorem namespaceDir_inj {ns ns' : String} (h : l.namespaceDir ns = l.namespaceDir ns') : ns = ns' := by
  have hres := congrArg (default : World).host.resolve h
  rw [resolve_namespaceDir, resolve_namespaceDir] at hres
  exact namespaceDirName_inj (List.append_cancel_left hres |> List.singleton_inj.1)

/-- A hidden name numbered below `10 ^ 249`, with an extension of at most five bytes, is
short enough for a directory. -/
theorem short_hidden {n : Nat} (hn : n < 10 ^ 249) {ext : String} (hext : ext.utf8ByteSize ≤ 5) :
    FileTree.Short ("." ++ toString n ++ ext) := by
  have hdigits : (toString n).length ≤ 249 := by
    rw [Nat.toString_eq_repr]
    exact (Nat.length_repr_le_iff (by decide)).2 hn
  unfold FileTree.Short FileTree.maxNameBytes
  rw [utf8ByteSize_hidden]
  omega

theorem resolve_hidden (ns : String) (n : Nat) {ext : String} (hext : '/' ∉ ext.toList) (hne : ext ≠ "") :
    w.host.resolve (PathText.join (l.namespaceDir ns) ("." ++ toString n ++ ext)) =
      w.host.resolve l.bucketDir ++ [namespaceDirName ns, "." ++ toString n ++ ext] := by
  show PathText.resolve w.host.cwd _ = _
  rw [PathText.resolve_join _ _ (plain_hidden n hext hne)]
  show w.host.resolve (l.namespaceDir ns) ++ _ = _
  rw [resolve_namespaceDir]
  simp
namespace Holds

variable {B : Path} {t : FileTree} {M : Contents} {ns k : String}

theorem lookup_object_of_lookup (h : Holds B t M) {s : Stored} (hs : M.lookup (ns, k) = some s) :
    ∃ la m, InI64 la ∧ t.find? (B ++ [namespaceDirName ns]) = some .dir ∧
      t.lookup (B ++ [namespaceDirName ns, objectFileName k]) =
        .ok (some (.file (.text (objectText ns k s la)) m)) := by
  obtain ⟨la, m, hla, hf⟩ := h.stored ns k s hs
  have hdir := h.dirOf _ _ (by rw [hf]; rfl)
  refine ⟨la, m, hla, hdir, ?_⟩
  rw [h.lookup_object_of_dir (h.fits ns k s hs).1 hdir _ (short_objectFileName k), hf]

theorem readFile_object_of_lookup (h : Holds B t M) {s : Stored} (hs : M.lookup (ns, k) = some s) :
    ∃ la, InI64 la ∧
      t.readFile (B ++ [namespaceDirName ns, objectFileName k]) = .ok (.text (objectText ns k s la)) := by
  obtain ⟨la, m, hla, -, hl⟩ := h.lookup_object_of_lookup hs
  exact ⟨la, hla, FileTree.readFile_of_file hl⟩

theorem readFile_object_of_lookup_none (h : Holds B t M) (hns : ns.utf8ByteSize ≤ 126)
    (hk : M.lookup (ns, k) = none) :
    t.readFile (B ++ [namespaceDirName ns, objectFileName k]) = .error .notFound ∨
      ∃ k' s la, k' ≠ k ∧ M.lookup (ns, k') = some s ∧ InI64 la ∧ objectFileName k' = objectFileName k ∧
        t.readFile (B ++ [namespaceDirName ns, objectFileName k]) = .ok (.text (objectText ns k' s la)) := by
  rcases h.namespaceDir_cases ns with hnone | hdir
  · exact .inl (FileTree.readFile_of_error (h.lookup_object_of_none hns hnone _))
  · have hlookup := h.lookup_object_of_dir hns hdir _ (short_objectFileName k)
    rcases h.object_of_lookup_none hk with hobj | ⟨k', s, la, m, hne, hname, hs, hla, hobj⟩
    · rw [hobj] at hlookup
      exact .inl (FileTree.readFile_of_none hlookup)
    · rw [hobj] at hlookup
      exact .inr ⟨k', s, la, hne, hs, hla, hname, FileTree.readFile_of_file hlookup⟩

theorem lookup_object_absent (h : Holds B t M) (hns : ns.utf8ByteSize ≤ 126)
    (hnone : M.lookup (ns, k) = none) (hfree : NameFree M ns k) :
    t.lookup (B ++ [namespaceDirName ns, objectFileName k]) = .error .notFound ∨
      t.lookup (B ++ [namespaceDirName ns, objectFileName k]) = .ok none := by
  rcases h.namespaceDir_cases ns with hdir | hdir
  · exact .inl (h.lookup_object_of_none hns hdir _)
  · right
    rw [h.lookup_object_of_dir hns hdir _ (short_objectFileName k)]
    rcases h.object_of_lookup_none hnone with hobj | ⟨k', s, -, -, hne, hname, hs, -, -⟩
    · rw [hobj]
    · exact absurd (hfree k' s hs hname) hne

theorem tryExists_object (h : Holds B t M) (hns : ns.utf8ByteSize ≤ 126) (hfree : NameFree M ns k) :
    t.tryExists (B ++ [namespaceDirName ns, objectFileName k]) = .ok (M.lookup (ns, k)).isSome := by
  cases hk : M.lookup (ns, k) with
  | some s =>
    obtain ⟨la, m, -, -, hl⟩ := h.lookup_object_of_lookup hk
    rw [FileTree.tryExists_of_ok hl]
    rfl
  | none =>
    rcases h.lookup_object_absent hns hk hfree with hl | hl
    · exact FileTree.tryExists_of_notFound hl
    · rw [FileTree.tryExists_of_ok hl]
      rfl

theorem removeFile_object_absent (h : Holds B t M) (hns : ns.utf8ByteSize ≤ 126)
    (hnone : M.lookup (ns, k) = none) (hfree : NameFree M ns k) :
    t.removeFile (B ++ [namespaceDirName ns, objectFileName k]) = .error .notFound := by
  rcases h.lookup_object_absent hns hnone hfree with hl | hl
  · exact FileTree.removeFile_of_error hl
  · exact FileTree.removeFile_of_none hl

theorem find?_deep (h : Holds B t M) {q : Path} (hq : 2 < q.length) : t.find? (B ++ q) = none := by
  cases hf : t.find? (B ++ q) with
  | none => rfl
  | some e =>
    have hp := h.placed q e (by rintro rfl; simp at hq) hf
    obtain _ | ⟨_, _ | ⟨_, _ | ⟨_, _⟩⟩⟩ := q
    all_goals simp at hq
    exact hp.elim

theorem find?_below (h : Holds B t M) {d f : String} {r : Path} (hr : r ≠ []) :
    t.find? (B ++ [d, f] ++ r) = none := by
  obtain ⟨x, r, rfl⟩ := List.exists_cons_of_ne_nil hr
  simpa using h.find?_deep (show 2 < ([d, f, x] ++ r).length by simp)

theorem find?_not_object (h : Holds B t M) {d c : String} (hc : ∀ k, objectFileName k ≠ c) :
    t.find? (B ++ [d, c]) = none := by
  cases hf : t.find? (B ++ [d, c]) with
  | none => rfl
  | some e =>
    obtain ⟨-, k, -, -, -, -, hk, -⟩ := h.placed [d, c] e (by simp) hf
    exact absurd hk.symm (hc k)

theorem find?_object_ne_dir (h : Holds B t M) (d f : String) : t.find? (B ++ [d, f]) ≠ some .dir := by
  intro hf
  have hp : Placed M [d, f] .dir := h.placed [d, f] .dir (by simp) hf
  obtain ⟨_, _, _, _, _, _, _, _, _, he⟩ := hp
  cases he

/-- A namespace directory that is there, as a lookup in any tree that agrees with `t`
above it finds it. -/
theorem lookup_namespaceDir_of_agree (h : Holds B t M) (hns : ns.utf8ByteSize ≤ 126)
    (hdir : t.find? (B ++ [namespaceDirName ns]) = some .dir) {t' : FileTree}
    (ht' : ∀ r, r <+: B ++ [namespaceDirName ns] → t'.get? r = t.get? r) :
    t'.lookup (B ++ [namespaceDirName ns]) = .ok (some .dir) := by
  rw [FileTree.lookup_congr ht', h.lookup_namespaceDir hns, hdir]

theorem lookup_child_of_agree (h : Holds B t M) (hns : ns.utf8ByteSize ≤ 126)
    (hdir : t.find? (B ++ [namespaceDirName ns]) = some .dir) {t' : FileTree}
    (ht' : ∀ r, r <+: B ++ [namespaceDirName ns] → t'.get? r = t.get? r) {f : String} (hf : FileTree.Short f) :
    t'.lookup (B ++ [namespaceDirName ns, f]) = .ok (t'.find? (B ++ [namespaceDirName ns, f])) := by
  rw [show B ++ [namespaceDirName ns, f] = (B ++ [namespaceDirName ns]) ++ [f] by simp,
    FileTree.lookup_child (h.lookup_namespaceDir_of_agree hns hdir ht') hf, FileTree.get?_of_ne_nil (by simp)]

theorem checkParent_child_of_agree (h : Holds B t M) (hns : ns.utf8ByteSize ≤ 126)
    (hdir : t.find? (B ++ [namespaceDirName ns]) = some .dir) {t' : FileTree}
    (ht' : ∀ r, r <+: B ++ [namespaceDirName ns] → t'.get? r = t.get? r) {f : String} (hf : FileTree.Short f) :
    t'.checkParent (B ++ [namespaceDirName ns, f]) = .ok () := by
  rw [show B ++ [namespaceDirName ns, f] = (B ++ [namespaceDirName ns]) ++ [f] by simp]
  exact FileTree.checkParent_child (h.lookup_namespaceDir_of_agree hns hdir ht') hf

theorem length_lt_of_prefix_namespaceDir {r : Path} {d d' f : String} (hr : r <+: B ++ [d]) :
    r.length < (B ++ [d', f]).length := by
  have := hr.length_le
  simp only [List.length_append, List.length_cons, List.length_nil] at this ⊢
  omega

section Hidden

variable {c : String} (h : Holds B t M) (hns : ns.utf8ByteSize ≤ 126)
  (hdir : t.find? (B ++ [namespaceDirName ns]) = some .dir) (hc : FileTree.Short c)
  (hcfree : ∀ k, objectFileName k ≠ c)
include h hns hdir hc hcfree

omit hc hns hdir in
theorem find?_hidden (r : Path) : t.find? (B ++ [namespaceDirName ns, c] ++ r) = none := by
  cases r with
  | nil => simpa using h.find?_not_object hcfree
  | cons x r => exact h.find?_below (List.cons_ne_nil x r)

theorem writeFile_hidden (d : FileData) (now : Nat) :
    t.writeFile (B ++ [namespaceDirName ns, c]) d now =
      .ok (t.put (B ++ [namespaceDirName ns, c]) (.file d now)) := by
  refine FileTree.writeFile_of_not_dir (h.checkParent_child_of_agree hns hdir (fun _ _ => rfl) hc)
    (h.lookup_object_of_dir hns hdir c hc) ?_
  rw [h.find?_not_object hcfree]
  simp

theorem rename_hidden (k : String) (d : FileData) (m : Nat) :
    (t.put (B ++ [namespaceDirName ns, c]) (.file d m)).rename (B ++ [namespaceDirName ns, c])
        (B ++ [namespaceDirName ns, objectFileName k]) =
      .ok ((t.put (B ++ [namespaceDirName ns, c]) (.file d m)).moved (B ++ [namespaceDirName ns, c])
        (B ++ [namespaceDirName ns, objectFileName k])) := by
  have hne : B ++ [namespaceDirName ns, objectFileName k] ≠ B ++ [namespaceDirName ns, c] := by
    simpa using hcfree k
  have hagree : ∀ r, r <+: B ++ [namespaceDirName ns] →
      (t.put (B ++ [namespaceDirName ns, c]) (.file d m)).get? r = t.get? r :=
    fun _ hr => FileTree.get?_put_of_lt (by simp) hr
  refine FileTree.rename_of_file (by rw [h.lookup_child_of_agree hns hdir hagree hc, FileTree.find?_put, if_pos rfl])
    (h.checkParent_child_of_agree hns hdir hagree (short_objectFileName k))
    (h.lookup_child_of_agree hns hdir hagree (short_objectFileName k)) ?_ (Ne.symm hne)
  rw [FileTree.find?_put, if_neg hne]
  exact h.find?_object_ne_dir _ _

omit hc hns hdir in
/-- A file written at a hidden name and moved onto a key's object file stands as if it had
been written there. -/
theorem find?_moved_hidden (k : String) (F : Entry) (q : Path) :
    ((t.put (B ++ [namespaceDirName ns, c]) F).moved (B ++ [namespaceDirName ns, c])
        (B ++ [namespaceDirName ns, objectFileName k])).find? q =
      (t.put (B ++ [namespaceDirName ns, objectFileName k]) F).find? q :=
  FileTree.find?_moved_put (h.find?_hidden hcfree) fun _ hr => h.find?_below hr

omit hc in
/-- Writing an entry's object to a hidden file and moving it onto the key's object file
keeps the invariant for the contents holding the entry. -/
theorem moved_hidden {s : Stored} (hs : Fits s) {la : Int} (hla : InI64 la) (hfree : NameFree M ns k)
    (m : Nat) :
    Holds B ((t.put (B ++ [namespaceDirName ns, c]) (.file (.text (objectText ns k s la)) m)).moved
        (B ++ [namespaceDirName ns, c]) (B ++ [namespaceDirName ns, objectFileName k])) (M.insert (ns, k) s) :=
  (h.put_object hns hdir hs hla hfree m).congr_tree
    (FileTree.wellFormed_moved (FileTree.wellFormed_put h.wellFormed)) (h.find?_moved_hidden hcfree k _)

theorem rename_to_hidden (k : String) {d : FileData} {m : Nat}
    (hf : t.find? (B ++ [namespaceDirName ns, objectFileName k]) = some (.file d m)) :
    t.rename (B ++ [namespaceDirName ns, objectFileName k]) (B ++ [namespaceDirName ns, c]) =
      .ok (t.moved (B ++ [namespaceDirName ns, objectFileName k]) (B ++ [namespaceDirName ns, c])) := by
  have hne : B ++ [namespaceDirName ns, objectFileName k] ≠ B ++ [namespaceDirName ns, c] := by
    simpa using hcfree k
  refine FileTree.rename_of_file (by rw [h.lookup_object_of_dir hns hdir _ (short_objectFileName k), hf])
    (h.checkParent_child_of_agree hns hdir (fun _ _ => rfl) hc) (h.lookup_object_of_dir hns hdir c hc) ?_ hne
  rw [h.find?_not_object hcfree]
  simp

omit h hns hdir hc hcfree in
theorem get?_moved_hidden_above (k : String) {r : Path} (hr : r <+: B ++ [namespaceDirName ns]) :
    (t.moved (B ++ [namespaceDirName ns, objectFileName k]) (B ++ [namespaceDirName ns, c])).get? r = t.get? r :=
  FileTree.get?_moved_of_lt (length_lt_of_prefix_namespaceDir hr) (length_lt_of_prefix_namespaceDir hr)

omit hcfree in
theorem lookup_moved_hidden (k : String) {e : Entry}
    (hf : t.find? (B ++ [namespaceDirName ns, objectFileName k]) = some e) :
    (t.moved (B ++ [namespaceDirName ns, objectFileName k]) (B ++ [namespaceDirName ns, c])).lookup
      (B ++ [namespaceDirName ns, c]) = .ok (some e) := by
  rw [h.lookup_child_of_agree hns hdir (fun _ => get?_moved_hidden_above k) hc, FileTree.find?_moved,
    if_pos (List.prefix_refl _)]
  simpa using hf

theorem hardLink_restore_hidden (k : String) {d : FileData} {m : Nat}
    (hf : t.find? (B ++ [namespaceDirName ns, objectFileName k]) = some (.file d m)) :
    (t.moved (B ++ [namespaceDirName ns, objectFileName k]) (B ++ [namespaceDirName ns, c])).hardLink
        (B ++ [namespaceDirName ns, c]) (B ++ [namespaceDirName ns, objectFileName k]) =
      .ok ((t.moved (B ++ [namespaceDirName ns, objectFileName k]) (B ++ [namespaceDirName ns, c])).put
        (B ++ [namespaceDirName ns, objectFileName k]) (.file d m)) := by
  have hne : B ++ [namespaceDirName ns, c] ≠ B ++ [namespaceDirName ns, objectFileName k] := by
    simpa using (hcfree k).symm
  have hagree : ∀ r, r <+: B ++ [namespaceDirName ns] →
      (t.moved (B ++ [namespaceDirName ns, objectFileName k]) (B ++ [namespaceDirName ns, c])).get? r = t.get? r :=
    fun _ => get?_moved_hidden_above k
  refine FileTree.hardLink_of_file (h.lookup_moved_hidden hns hdir hc k hf)
    (h.checkParent_child_of_agree hns hdir hagree (short_objectFileName k)) ?_
  rw [h.lookup_child_of_agree hns hdir hagree (short_objectFileName k), FileTree.find?_moved,
    if_neg fun hp => hne (hp.eq_of_length (by simp)), if_pos (List.prefix_refl _)]

theorem removeFile_restored_hidden (k : String) {d : FileData} {m : Nat}
    (hf : t.find? (B ++ [namespaceDirName ns, objectFileName k]) = some (.file d m)) :
    ((t.moved (B ++ [namespaceDirName ns, objectFileName k]) (B ++ [namespaceDirName ns, c])).put
        (B ++ [namespaceDirName ns, objectFileName k]) (.file d m)).removeFile (B ++ [namespaceDirName ns, c]) =
      .ok (((t.moved (B ++ [namespaceDirName ns, objectFileName k]) (B ++ [namespaceDirName ns, c])).put
        (B ++ [namespaceDirName ns, objectFileName k]) (.file d m)).erase (B ++ [namespaceDirName ns, c])) := by
  have hne : B ++ [namespaceDirName ns, c] ≠ B ++ [namespaceDirName ns, objectFileName k] := by
    simpa using (hcfree k).symm
  refine FileTree.removeFile_of_file (d := d) (m := m) ?_
  rw [h.lookup_child_of_agree hns hdir
      (fun _ hr => (FileTree.get?_put_of_lt (by simp) hr).trans (get?_moved_hidden_above k hr)) hc,
    FileTree.find?_put, if_neg hne, FileTree.find?_moved, if_pos (List.prefix_refl _)]
  simpa using hf

omit hc hns hdir in
theorem find?_restore_hidden (k : String) {F : Entry}
    (hf : t.find? (B ++ [namespaceDirName ns, objectFileName k]) = some F) (q : Path) :
    (((t.moved (B ++ [namespaceDirName ns, objectFileName k]) (B ++ [namespaceDirName ns, c])).put
        (B ++ [namespaceDirName ns, objectFileName k]) F).erase (B ++ [namespaceDirName ns, c])).find? q =
      t.find? q := by
  rw [FileTree.find?_erase, FileTree.find?_put, FileTree.find?_moved]
  by_cases hT : B ++ [namespaceDirName ns, c] <+: q
  · obtain ⟨r, rfl⟩ := hT
    rw [if_pos (List.prefix_append _ _), h.find?_hidden hcfree]
  rw [if_neg hT, if_neg hT]
  by_cases hP : q = B ++ [namespaceDirName ns, objectFileName k]
  · rw [if_pos hP, hP, hf]
  rw [if_neg hP]
  by_cases hbelow : B ++ [namespaceDirName ns, objectFileName k] <+: q
  · -- strictly below the object file: nothing was there, and nothing is
    obtain ⟨r, rfl⟩ := hbelow
    rw [if_pos (List.prefix_append _ _), h.find?_below fun hr => hP (by simp [hr])]
  · rw [if_neg hbelow]

omit hc hns hdir in
theorem restore_hidden (k : String) {F : Entry}
    (hf : t.find? (B ++ [namespaceDirName ns, objectFileName k]) = some F) :
    Holds B (((t.moved (B ++ [namespaceDirName ns, objectFileName k]) (B ++ [namespaceDirName ns, c])).put
        (B ++ [namespaceDirName ns, objectFileName k]) F).erase (B ++ [namespaceDirName ns, c])) M :=
  h.congr_tree (FileTree.wellFormed_erase (FileTree.wellFormed_put (FileTree.wellFormed_moved h.wellFormed)))
    (h.find?_restore_hidden hcfree k hf)

omit hc hns hdir in
theorem find?_erase_moved_hidden (k : String) (q : Path) :
    ((t.moved (B ++ [namespaceDirName ns, objectFileName k]) (B ++ [namespaceDirName ns, c])).erase
      (B ++ [namespaceDirName ns, c])).find? q = (t.erase (B ++ [namespaceDirName ns, objectFileName k])).find? q :=
  FileTree.find?_erase_moved (h.find?_hidden hcfree)

omit hc hns hdir in
theorem erase_moved_hidden (hfree : NameFree M ns k) :
    Holds B ((t.moved (B ++ [namespaceDirName ns, objectFileName k]) (B ++ [namespaceDirName ns, c])).erase
      (B ++ [namespaceDirName ns, c])) (M.erase (ns, k)) :=
  (h.erase_object hfree).congr_tree
    (FileTree.wellFormed_erase (FileTree.wellFormed_moved h.wellFormed)) (h.find?_erase_moved_hidden hcfree k)

end Hidden

end Holds

end Bucket

end KvStore
