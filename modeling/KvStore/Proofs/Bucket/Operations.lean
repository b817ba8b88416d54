import KvStore.Proofs.Bucket.Invariant

/-!
What each primitive call of a bucket does to a world whose bucket directory holds the layout
of a map `M` (`Keeps`): it answers as the map does and leaves the layout of the updated map.

Every statement has the same shape: the call returns a given answer in some later world, the
invariant holds there for the new map, and the later world `Follows` the first one, with the
number of file changes the call made and of unique numbers it drew. Loops over keys, entries,
names and directories are proved with the loop lemmas of `Act`, carrying the invariant over
the part of the list done. Clearing counts what it removes through `Contents.Swept`.
-/

namespace KvStore

namespace Bucket

open Act

variable {w : World} {l : Layout}

section Load

variable {path : String} {o : StoredObject}

theorem returns_load_of_text {c : String} (hopen : (w.pool l.pool).closed = false)
    (hread : w.host.files.readFile (w.host.resolve path) = .ok (.text c))
    (hdec : StoredObject.decode c = .ok o) : (l.load path).Returns w (some o) w := by
  unfold Layout.load
  refine (returns_ensureOpen hopen).bind (returns_files.bind ((returns_resolve path).bind ?_))
  have hdec' : Json.decodeBytes objectReader (contentBytes (.text c)) = .ok o := hdec
  simp only [hread, hdec']
  exact returns_pure _ _

theorem returns_load_of_notFound (hopen : (w.pool l.pool).closed = false)
    (hread : w.host.files.readFile (w.host.resolve path) = .error .notFound) :
    (l.load path).Returns w none w := by
  unfold Layout.load
  refine (returns_ensureOpen hopen).bind (returns_files.bind ((returns_resolve path).bind ?_))
  simp only [hread]
  exact returns_pure _ _

end Load

/-- The world keeps the bucket open, its directory holding the layout of `M`. -/
structure Keeps (l : Layout) (w : World) (M : Contents) : Prop where
  poolOpen : (w.pool l.pool).closed = false
  holds : Holds (w.host.resolve l.bucketDir) w.host.files M

/-- `w'` comes after `w` in a run of bucket calls that changed the files at most `ticks`
times and drew `fresh` unique numbers; the pools and the working directory stay. -/
structure Follows (w w' : World) (ticks fresh : Nat) : Prop where
  pools : w'.pools = w.pools
  cwd : w'.host.cwd = w.host.cwd
  clock : w'.host.clock ≤ w.host.clock + 1000 * ticks
  unique : w'.unique = w.unique + fresh

namespace Follows

variable {w₁ w₂ w₃ : World} {a b c d : Nat}

theorem refl (w : World) : Follows w w 0 0 := ⟨rfl, rfl, by omega, rfl⟩

theorem trans (h₁ : Follows w₁ w₂ a b) (h₂ : Follows w₂ w₃ c d) : Follows w₁ w₃ (a + c) (b + d) :=
  ⟨h₂.pools.trans h₁.pools, h₂.cwd.trans h₁.cwd, by have := h₁.clock; have := h₂.clock; omega,
    by rw [h₂.unique, h₁.unique, Nat.add_assoc]⟩

theorem of_le (h : Follows w₁ w₂ a b) (hac : a ≤ c) (hbd : b = d) : Follows w₁ w₂ c d :=
  ⟨h.pools, h.cwd, by have := h.clock; omega, by rw [h.unique, hbd]⟩

theorem changed (w : World) (t : FileTree) : Follows w (w.changed t) 1 0 :=
  ⟨rfl, rfl, by simp, rfl⟩

theorem fresh (w : World) : Follows w { w with unique := w.unique + 1 } 0 1 :=
  ⟨rfl, rfl, by simp, rfl⟩

theorem resolve (hf : Follows w₁ w₂ a b) (p : String) : w₂.host.resolve p = w₁.host.resolve p := by
  unfold Host.resolve
  rw [hf.cwd]

theorem pool (hf : Follows w₁ w₂ a b) (n : Nat) : w₂.pool n = w₁.pool n := by
  unfold World.pool
  rw [hf.pools]

end Follows

theorem Keeps.congr {M' : Contents} (hk : Keeps l w M) (hM : ∀ a, M'.lookup a = M.lookup a) : Keeps l w M' :=
  ⟨hk.poolOpen, hk.holds.congr hM⟩

theorem Keeps.step {w' : World} {M M' : Contents} {a b : Nat} (hk : Keeps l w M) (hf : Follows w w' a b)
    (hholds : Holds (w.host.resolve l.bucketDir) w'.host.files M') : Keeps l w' M' :=
  ⟨by rw [hf.pool]; exact hk.poolOpen, by rw [hf.resolve]; exact hholds⟩

/-- When the object of a key was last written or read: the modification time of its file. -/
def Layout.lastAccessed (l : Layout) (w : World) (a : String × String) : Option Nat :=
  match w.host.files.find? (w.host.resolve (l.objectPath a.1 a.2)) with
  | some (.file _ m) => some m
  | _ => none

section LastAccessed

variable {w' : World} {a : String × String}

theorem lastAccessed_of_file {d : FileData} {m : Nat}
    (h : w.host.files.find? (w.host.resolve l.bucketDir ++ [namespaceDirName a.1, objectFileName a.2]) =
      some (.file d m)) : l.lastAccessed w a = some m := by
  rw [Layout.lastAccessed, resolve_objectPath, h]

theorem lastAccessed_congr (hcwd : w'.host.cwd = w.host.cwd)
    (h : w'.host.files.find? (w.host.resolve l.bucketDir ++ [namespaceDirName a.1, objectFileName a.2]) =
      w.host.files.find? (w.host.resolve l.bucketDir ++ [namespaceDirName a.1, objectFileName a.2])) :
    l.lastAccessed w' a = l.lastAccessed w a := by
  have hres : w'.host.resolve l.bucketDir = w.host.resolve l.bucketDir := by
    unfold Host.resolve
    rw [hcwd]
  rw [Layout.lastAccessed, Layout.lastAccessed, resolve_objectPath, resolve_objectPath, hres, h]

theorem Keeps.lastAccessed_held {M : Contents} (hk : Keeps l w M) (ha : (M.lookup a).isSome) :
    ∃ m, l.lastAccessed w a = some m := by
  obtain ⟨s, hs⟩ := Option.isSome_iff_exists.1 ha
  obtain ⟨_, m, _, hf⟩ := hk.holds.stored a.1 a.2 s hs
  exact ⟨m, lastAccessed_of_file hf⟩

end LastAccessed

/-- From `w` to `w'` the clock did not go back, and each key that `M'` holds was either
used in between, when `S` names it, or was held by `M` and kept its time of last use. -/
structure Refreshes (l : Layout) (w w' : World) (M M' : Contents) (S : String × String → Prop) : Prop where
  clock : w.host.clock ≤ w'.host.clock
  used : ∀ a, (M'.lookup a).isSome → S a →
    ∃ m, l.lastAccessed w' a = some m ∧ w.host.clock < m ∧ m ≤ w'.host.clock
  held : ∀ a, (M'.lookup a).isSome → ¬ S a → (M.lookup a).isSome
  kept : ∀ a, (M'.lookup a).isSome → ¬ S a → l.lastAccessed w' a = l.lastAccessed w a

namespace Refreshes

variable {w₁ w₂ w₃ w' : World} {M M₁ M₂ M₃ M' N N' : Contents} {S S₁ S₂ S' : String × String → Prop}

theorem refl (l : Layout) (w : World) (M : Contents) : Refreshes l w w M M fun _ => False :=
  ⟨le_refl _, fun _ _ h => h.elim, fun _ h _ => h, fun _ _ _ => rfl⟩

/-- A key used in the second stretch was used last there; one used only in the first kept
the time it got there. -/
theorem trans (h₁ : Refreshes l w₁ w₂ M₁ M₂ S₁) (h₂ : Refreshes l w₂ w₃ M₂ M₃ S₂) :
    Refreshes l w₁ w₃ M₁ M₃ fun a => S₁ a ∨ S₂ a where
  clock := h₁.clock.trans h₂.clock
  used a ha hS := by
    by_cases h₂a : S₂ a
    · obtain ⟨m, hm, hlo, hhi⟩ := h₂.used a ha h₂a
      exact ⟨m, hm, Nat.lt_of_le_of_lt h₁.clock hlo, hhi⟩
    · obtain ⟨m, hm, hlo, hhi⟩ := h₁.used a (h₂.held a ha h₂a) (hS.resolve_right h₂a)
      exact ⟨m, (h₂.kept a ha h₂a).trans hm, hlo, hhi.trans h₂.clock⟩
  held a ha hS := h₁.held a (h₂.held a ha fun h => hS (.inr h)) fun h => hS (.inl h)
  kept a ha hS :=
    (h₂.kept a ha fun h => hS (.inr h)).trans (h₁.kept a (h₂.held a ha fun h => hS (.inr h)) fun h => hS (.inl h))

theorem congr (h : Refreshes l w w' M M' S) (hS : ∀ a, (M'.lookup a).isSome → (S a ↔ S' a)) :
    Refreshes l w w' M M' S' :=
  ⟨h.clock, fun a ha hs => h.used a ha ((hS a ha).2 hs), fun a ha hs => h.held a ha fun h' => hs ((hS a ha).1 h'),
    fun a ha hs => h.kept a ha fun h' => hs ((hS a ha).1 h')⟩

theorem congr_contents (h : Refreshes l w w' M M' S) (hM : ∀ a, N.lookup a = M.lookup a)
    (hM' : ∀ a, N'.lookup a = M'.lookup a) : Refreshes l w w' N N' S :=
  ⟨h.clock, fun a ha => h.used a (by rwa [← hM']), fun a ha hs => by rw [hM]; exact h.held a (by rwa [← hM']) hs,
    fun a ha => h.kept a (by rwa [← hM'])⟩

theorem of_frame (hclock : w.host.clock ≤ w'.host.clock) (hcwd : w'.host.cwd = w.host.cwd)
    (hheld : ∀ a, (M'.lookup a).isSome → (M.lookup a).isSome)
    (hfile : ∀ a, (M'.lookup a).isSome →
      w'.host.files.find? (w.host.resolve l.bucketDir ++ [namespaceDirName a.1, objectFileName a.2]) =
        w.host.files.find? (w.host.resolve l.bucketDir ++ [namespaceDirName a.1, objectFileName a.2])) :
    Refreshes l w w' M M' fun _ => False :=
  ⟨hclock, fun _ _ h => h.elim, fun a ha _ => hheld a ha, fun a ha _ => lastAccessed_congr hcwd (hfile a ha)⟩

theorem of_stamp {b : String × String} (hclock : w.host.clock ≤ w'.host.clock) (hcwd : w'.host.cwd = w.host.cwd)
    (hheld : ∀ a, (M'.lookup a).isSome → a ≠ b → (M.lookup a).isSome) {d : FileData} {m : Nat}
    (hb : w'.host.files.find? (w.host.resolve l.bucketDir ++ [namespaceDirName b.1, objectFileName b.2]) =
      some (.file d m))
    (hlo : w.host.clock < m) (hhi : m ≤ w'.host.clock)
    (hfile : ∀ a, (M'.lookup a).isSome → a ≠ b →
      w'.host.files.find? (w.host.resolve l.bucketDir ++ [namespaceDirName a.1, objectFileName a.2]) =
        w.host.files.find? (w.host.resolve l.bucketDir ++ [namespaceDirName a.1, objectFileName a.2])) :
    Refreshes l w w' M M' (· = b) := by
  have hres : w'.host.resolve l.bucketDir = w.host.resolve l.bucketDir := by
    unfold Host.resolve
    rw [hcwd]
  refine ⟨hclock, fun a _ hab => ⟨m, ?_, hlo, hhi⟩, hheld, fun a ha hab => lastAccessed_congr hcwd (hfile a ha hab)⟩
  subst hab
  exact lastAccessed_of_file (by rw [hres]; exact hb)

theorem changed_same (l : Layout) (w : World) (M : Contents) :
    Refreshes l w (w.changed w.host.files) M M fun _ => False :=
  of_frame (by simp) rfl (fun _ h => h) fun _ _ => rfl

theorem frame_trans (h₁ : Refreshes l w₁ w₂ M₁ M₂ fun _ => False) (h₂ : Refreshes l w₂ w₃ M₂ M₃ fun _ => False) :
    Refreshes l w₁ w₃ M₁ M₃ fun _ => False :=
  (h₁.trans h₂).congr fun _ _ => or_self_iff

end Refreshes

theorem isSome_of_lookup_erase {M : Contents} {a b : String × String} (ha : ((M.erase b).lookup a).isSome) :
    a ≠ b ∧ (M.lookup a).isSome := by
  by_cases hab : a = b
  · rw [hab, AList.lookup_erase] at ha
    cases ha
  · exact ⟨hab, by rwa [AList.lookup_erase_ne hab] at ha⟩

theorem mem_append_singleton_pair {ns x : String} {done : List String} (a : String × String) :
    (a.1 = ns ∧ a.2 ∈ done ++ [x]) ↔ (a.1 = ns ∧ a.2 ∈ done) ∨ a = (ns, x) := by
  obtain ⟨a₁, a₂⟩ := a
  simp only [List.mem_append, List.mem_singleton, Prod.mk.injEq]
  tauto

variable {M : Contents} {ns k : String}

theorem Keeps.load_held (hk : Keeps l w M) {s : Stored} (hs : M.lookup (ns, k) = some s) :
    ∃ la, (l.load (l.objectPath ns k)).Returns w (some (objectOf ns k s la)) w := by
  obtain ⟨la, hla, hread⟩ := hk.holds.readFile_object_of_lookup hs
  refine ⟨la, returns_load_of_text hk.poolOpen ?_ (decode_objectText (hk.holds.fits ns k s hs).2 hla)⟩
  rw [resolve_objectPath, hread]

theorem Keeps.load_not_held (hk : Keeps l w M) (hns : ns.utf8ByteSize ≤ 126)
    (hnone : M.lookup (ns, k) = none) :
    (l.load (l.objectPath ns k)).Returns w none w ∨
      ∃ o : StoredObject, o.key ≠ k ∧ (l.load (l.objectPath ns k)).Returns w (some o) w := by
  rcases hk.holds.readFile_object_of_lookup_none hns hnone with hread | ⟨k', s, la, hne, hs, hla, -, hread⟩
  · exact .inl (returns_load_of_notFound hk.poolOpen (by rw [resolve_objectPath, hread]))
  · exact .inr ⟨_, hne, returns_load_of_text hk.poolOpen (by rw [resolve_objectPath, hread])
      (decode_objectText (hk.holds.fits ns k' s hs).2 hla)⟩

theorem Keeps.touch_held (hk : Keeps l w M) {s : Stored} (hs : M.lookup (ns, k) = some s) :
    ∃ w', (Layout.touch (l.objectPath ns k)).Returns w () w' ∧ Keeps l w' M ∧ Follows w w' 1 0 ∧
      Refreshes l w w' M M (· = (ns, k)) := by
  obtain ⟨la, m, hla, hdir, hl⟩ := hk.holds.lookup_object_of_lookup hs
  let P := w.host.resolve l.bucketDir ++ [namespaceDirName ns, objectFileName k]
  let t' := w.host.files.put P (.file (.text (objectText ns k s la)) (w.host.clock + 1000))
  have htouch : w.host.files.touch P (w.host.clock + 1000) = .ok t' := FileTree.touch_of_file hl
  refine ⟨w.changed t', ?_, hk.step (Follows.changed w t') ?_, Follows.changed w t', ?_⟩
  · unfold Layout.touch
    refine (returns_resolve _).bind ?_
    rw [resolve_objectPath]
    exact (returns_change_ok htouch).bind (returns_pure _ _)
  · have hput := hk.holds.put_object (hk.holds.fits ns k s hs).1 hdir (hk.holds.fits ns k s hs).2 hla
      (hk.holds.nameFree_of_lookup hs) (w.host.clock + 1000)
    exact hput.congr fun a => (Contents.lookup_insert_of_lookup hs a).symm
  · have hstamp : t'.find? P = some (.file (.text (objectText ns k s la)) (w.host.clock + 1000)) := by
      rw [FileTree.find?_put, if_pos rfl]
    refine Refreshes.of_stamp (by simp) rfl (fun a ha _ => ha) hstamp (by omega) (by simp) fun a ha hab => ?_
    rw [World.changed_files, FileTree.find?_put, if_neg (hk.holds.objectPath_ne ha (show (M.lookup (ns, k)).isSome by rw [hs]; rfl) hab)]

/-- Reading keys answers the pairs `M` holds among them, keeps the layout, and stamps each
key found with the time it was read. -/
theorem Keeps.getMany (hk : Keeps l w M) (hns : ns.utf8ByteSize ≤ 126) (keys : List String) :
    ∃ w', (l.getMany ns keys).Returns w (M.found ns keys) w' ∧ Keeps l w' M ∧
      Follows w w' keys.length 0 ∧ Refreshes l w w' M M fun a => a.1 = ns ∧ a.2 ∈ keys := by
  obtain ⟨found, w', hrun, rfl, hk', hf, hr⟩ : ∃ found w', (l.getMany ns keys).Returns w found w' ∧
      found = M.found ns keys ∧ Keeps l w' M ∧ Follows w w' keys.length 0 ∧
      Refreshes l w w' M M (fun a => a.1 = ns ∧ a.2 ∈ keys) := returns_foldlM keys
    (fun done found w' => found = M.found ns done ∧ Keeps l w' M ∧ Follows w w' done.length 0 ∧
      Refreshes l w w' M M fun a => a.1 = ns ∧ a.2 ∈ done)
    (fun done x _ found w₁ _ ⟨hfound, hk₁, hf₁, hr₁⟩ => by
      rw [Contents.found_append_singleton, ← hfound]
      cases hx : M.lookup (ns, x) with
      | some s =>
        -- the key's object: it is read, then refreshed
        obtain ⟨la, hload⟩ := hk₁.load_held hx
        obtain ⟨w₂, htouch, hk₂, hf₂, hr₂⟩ := hk₁.touch_held hx
        refine ⟨_, w₂, hload.bind ?_, rfl, hk₂, by simpa using hf₁.trans hf₂,
          (hr₁.trans hr₂).congr fun a _ => (mem_append_singleton_pair a).symm⟩
        simp only [objectOf, beq_self_eq_true, if_true]
        exact htouch.bind (returns_pure _ _)
      | none =>
        -- no object, or the object of another key with the same name
        refine ⟨found, w₁, ?_, by simp, hk₁, hf₁.of_le (by simp) rfl, hr₁.congr fun a ha => ?_⟩
        · rcases hk₁.load_not_held hns hx with hload | ⟨o, hne, hload⟩
          · exact hload.bind (returns_pure _ _)
          · refine hload.bind ?_
            simp only [beq_false_of_ne hne, Bool.false_eq_true, if_false]
            exact returns_pure _ _
        · rw [mem_append_singleton_pair, or_iff_left]
          rintro rfl
          rw [hx] at ha
          cases ha)
    [] w ⟨rfl, hk, Follows.refl w, (Refreshes.refl l w M).congr (by simp)⟩ fun _ _ h => h
  exact ⟨w', hrun, hk', hf, hr⟩

theorem Keeps.hasMany (hk : Keeps l w M) (hns : ns.utf8ByteSize ≤ 126) (keys : List String)
    (hfree : ∀ k ∈ keys, NameFree M ns k) :
    (l.hasMany ns keys).Returns w (M.present ns keys) w := by
  unfold Layout.hasMany
  refine (returns_ensureOpen hk.poolOpen).bind ?_
  refine returns_foldlM_of keys (fun done found w' => found = M.present ns done ∧ w' = w)
    (fun done x rest found w₁ hsplit ⟨hfound, hw⟩ => by
      subst w₁
      have hexists := hk.holds.tryExists_object hns (hfree x (by rw [← hsplit]; simp))
      refine ⟨M.present ns (done ++ [x]), w, returns_files.bind ((returns_resolve _).bind ?_), rfl, rfl⟩
      rw [resolve_objectPath, hexists, Contents.present, List.filter_append, ← Contents.present, ← hfound]
      cases hx : (M.lookup (ns, x)).isSome
      · simpa [hx] using returns_pure found w
      · simpa [hx] using returns_pure (found ++ [x]) w)
    [] w ⟨rfl, rfl⟩ _ _ fun _ _ h => h

theorem Keeps.remove_held (hk : Keeps l w M) {s : Stored} (hs : M.lookup (ns, k) = some s) :
    ∃ w', (l.remove (l.objectPath ns k)).Returns w true w' ∧ Keeps l w' (M.erase (ns, k)) ∧
      Follows w w' 1 0 ∧ Refreshes l w w' M (M.erase (ns, k)) fun _ => False := by
  obtain ⟨la, m, -, -, hl⟩ := hk.holds.lookup_object_of_lookup hs
  let t' := w.host.files.erase (w.host.resolve l.bucketDir ++ [namespaceDirName ns, objectFileName k])
  refine ⟨w.changed t', ?_, hk.step (Follows.changed w t') (hk.holds.erase_object (hk.holds.nameFree_of_lookup hs)),
    Follows.changed w t', ?_⟩
  · unfold Layout.remove
    refine (returns_ensureOpen hk.poolOpen).bind ((returns_resolve _).bind ?_)
    rw [resolve_objectPath]
    exact (returns_change_ok (FileTree.removeFile_of_file hl)).bind (returns_pure _ _)
  · have hheld : (M.lookup (ns, k)).isSome := by rw [hs]; rfl
    refine Refreshes.of_frame (by simp) rfl (fun a ha => (isSome_of_lookup_erase ha).2) fun a ha => ?_
    exact (hk.holds.find?_erase_other (isSome_of_lookup_erase ha).2 hheld (isSome_of_lookup_erase ha).1 :)

/-- Removing the object file of a key `M` does not hold answers false and changes nothing,
when no held key shares its name. -/
theorem Keeps.remove_absent (hk : Keeps l w M) (hns : ns.utf8ByteSize ≤ 126)
    (hnone : M.lookup (ns, k) = none) (hfree : NameFree M ns k) :
    (l.remove (l.objectPath ns k)).Returns w false (w.changed w.host.files) := by
  unfold Layout.remove
  refine (returns_ensureOpen hk.poolOpen).bind ((returns_resolve _).bind ?_)
  rw [resolve_objectPath]
  exact (returns_change_error (hk.holds.removeFile_object_absent hns hnone hfree)).bind (returns_pure _ _)

theorem Keeps.delete (hk : Keeps l w M) (hns : ns.utf8ByteSize ≤ 126) (hfree : NameFree M ns k) :
    ∃ w', (l.delete ns k).Returns w (M.lookup (ns, k)).isSome w' ∧ Keeps l w' (M.erase (ns, k)) ∧
      Follows w w' 1 0 ∧ Refreshes l w w' M (M.erase (ns, k)) fun _ => False := by
  cases hk' : M.lookup (ns, k) with
  | some s => exact hk.remove_held hk'
  | none =>
    refine ⟨_, hk.remove_absent hns hk' hfree, hk.step (Follows.changed w _) ?_, Follows.changed w _,
      (Refreshes.changed_same l w M).congr_contents (fun _ => rfl) (Contents.lookup_erase_of_none hk')⟩
    exact hk.holds.congr (Contents.lookup_erase_of_none hk')

theorem Keeps.deleteMany (hk : Keeps l w M) (hns : ns.utf8ByteSize ≤ 126) (keys : List String)
    (hfree : ∀ k ∈ keys, NameFree M ns k) :
    ∃ w', (l.deleteMany ns keys).Returns w (M.deleteAll ns keys).1 w' ∧
      Keeps l w' (M.deleteAll ns keys).2 ∧ Follows w w' keys.length 0 ∧
      Refreshes l w w' M (M.deleteAll ns keys).2 fun _ => False := by
  obtain ⟨n, w', hrun, rfl, hk', hf, hr⟩ : ∃ n w', (l.deleteMany ns keys).Returns w n w' ∧
      n = (M.deleteAll ns keys).1 ∧ Keeps l w' (M.deleteAll ns keys).2 ∧ Follows w w' keys.length 0 ∧
      Refreshes l w w' M (M.deleteAll ns keys).2 (fun _ => False) :=
    returns_foldlM keys
    (fun done n w' => n = (M.deleteAll ns done).1 ∧ Keeps l w' (M.deleteAll ns done).2 ∧
      Follows w w' done.length 0 ∧ Refreshes l w w' M (M.deleteAll ns done).2 fun _ => False)
    (fun done x rest n w₁ hsplit ⟨hn, hk₁, hf₁, hr₁⟩ => by
      have hfree₁ : NameFree (M.deleteAll ns done).2 ns x :=
        (hfree x (by rw [← hsplit]; simp)).of_sub fun _ _ => Contents.lookup_deleteAll_of_some
      obtain ⟨w₂, hdel, hk₂, hf₂, hr₂⟩ := hk₁.delete hns hfree₁
      refine ⟨_, w₂, hdel.bind (returns_pure _ _), ?_, ?_, by simpa using hf₁.trans hf₂, ?_⟩
      · rw [Contents.deleteAll_append_singleton, hn]
      · rw [Contents.deleteAll_append_singleton]
        exact hk₂
      · rw [Contents.deleteAll_append_singleton]
        exact hr₁.frame_trans hr₂)
    0 w ⟨rfl, hk, Follows.refl w, Refreshes.refl l w M⟩ fun _ _ h => h
  exact ⟨w', hrun, hk', hf, hr⟩

theorem Keeps.createNamespaceDir (hk : Keeps l w M) (hns : ns.utf8ByteSize ≤ 126) :
    ∃ t', (change fun t _ => t.createDirAll (w.host.resolve l.bucketDir ++ [namespaceDirName ns])).Returns
        w (.ok ()) (w.changed t') ∧
      Holds (w.host.resolve l.bucketDir) t' M ∧
      t'.find? (w.host.resolve l.bucketDir ++ [namespaceDirName ns]) = some .dir ∧
      ∀ d f, t'.find? (w.host.resolve l.bucketDir ++ [d, f]) = w.host.files.find? (w.host.resolve l.bucketDir ++ [d, f]) := by
  have hlookup := hk.holds.lookup_namespaceDir hns
  rcases hk.holds.namespaceDir_cases ns with hnone | hdir
  · rw [hnone] at hlookup
    refine ⟨_, returns_change_ok (FileTree.createDirAll_of_none ?_ hlookup), hk.holds.put_dir hns, ?_,
      fun d f => by rw [FileTree.find?_put, if_neg (by simp)]⟩
    · exact FileTree.checkParent_child hk.holds.root (Holds.short_namespaceDirName hns)
    · rw [FileTree.find?_put, if_pos rfl]
  · rw [hdir] at hlookup
    exact ⟨_, returns_change_ok (FileTree.createDirAll_of_dir hlookup), hk.holds, hdir, fun _ _ => rfl⟩

theorem Keeps.upsertMany (hk : Keeps l w M) (hns : ns.utf8ByteSize ≤ 126) (entries : List StoredEntry)
    (hfits : ∀ e ∈ entries, Fits ⟨e.value, e.expires⟩) (hfree : ∀ e ∈ entries, NameFree M ns e.key)
    (hapart : ∀ e ∈ entries, ∀ e' ∈ entries, objectFileName e.key = objectFileName e'.key → e.key = e'.key)
    (hclock : w.host.clock + 1000 < 2 ^ 63 * 1000000) (hunique : w.unique + entries.length ≤ 10 ^ 249) :
    ∃ w', (l.upsertMany ns entries).Returns w () w' ∧ Keeps l w' (M.upsert ns entries) ∧
      Follows w w' (1 + 2 * entries.length) entries.length ∧
      Refreshes l w w' M (M.upsert ns entries) fun a => a.1 = ns ∧ a.2 ∈ entries.map (·.key) := by
  obtain ⟨t₁, hdirRun, hholds₁, hdir₁, hframe₁⟩ := hk.createNamespaceDir hns
  let w₁ := w.changed t₁
  have hk₁ : Keeps l w₁ M := hk.step (Follows.changed w t₁) hholds₁
  have hr₁ : Refreshes l w w₁ M M fun _ => False :=
    Refreshes.of_frame (by simp [w₁]) rfl (fun _ h => h) fun a _ => hframe₁ _ _
  have hnow : InI64 w₁.nowMillis := inI64_of_lt ((Nat.div_lt_iff_lt_mul (by decide)).2 hclock)
  obtain ⟨⟨⟩, w', hrun, hk', hf', hr'⟩ : ∃ (u : Unit) (w' : World), (l.upsertMany ns entries).Returns w u w' ∧
      Keeps l w' (M.upsert ns entries) ∧ Follows w₁ w' (2 * entries.length) entries.length ∧
      Refreshes l w₁ w' M (M.upsert ns entries) (fun a => a.1 = ns ∧ a.2 ∈ entries.map (·.key)) := by
    unfold Layout.upsertMany
    refine (returns_ensureOpen hk.poolOpen).bind_exists ((returns_resolve _).bind_exists ?_)
    rw [resolve_namespaceDir]
    refine hdirRun.bind_exists ((returns_get _).bind_exists ?_)
    -- each entry goes through its own hidden file, numbered from the counter
    refine exists_bind (returns_forIn entries
      (fun done _ w' => Keeps l w' (M.upsert ns done) ∧
        w'.host.files.find? (w.host.resolve l.bucketDir ++ [namespaceDirName ns]) = some .dir ∧
        Follows w₁ w' (2 * done.length) done.length ∧
        Refreshes l w₁ w' M (M.upsert ns done) fun a => a.1 = ns ∧ a.2 ∈ done.map (·.key)) ?_ () w₁
        ⟨hk₁, hdir₁, Follows.refl w₁, (Refreshes.refl l w₁ M).congr (by simp)⟩ fun _ _ h => h)
      fun _ w' ⟨hk', _, hf', hr'⟩ => ⟨(), w', returns_pure _ _, hk', hf', hr'⟩
    intro done x rest _ w₂ hsplit ⟨hk₂, hdir₂, hf₂, hr₂⟩
    have hx : x ∈ entries := by rw [← hsplit]; simp
    have hlen : done.length < entries.length := by rw [← hsplit]; simp
    have hn : w₂.unique < 10 ^ 249 := by
      rw [hf₂.unique]
      show w.unique + done.length < _
      omega
    have hres := ((Follows.changed w t₁).trans hf₂).resolve l.bucketDir
    rw [← hres] at hdir₂
    have hfree₂ : NameFree (M.upsert ns done) ns x.key :=
      (hfree x hx).upsert fun e he hname => hapart e (by rw [← hsplit]; simp [he]) x hx hname
    have hcfree : ∀ k, objectFileName k ≠ "." ++ toString w₂.unique ++ ".tmp" :=
      (objectFileName_ne_hidden · w₂.unique (by decide) (by decide))
    have hshort : FileTree.Short ("." ++ toString w₂.unique ++ ".tmp") := short_hidden hn (by decide)
    have hmoved := hk₂.holds.moved_hidden hns hdir₂ hcfree (hfits x hx) hnow hfree₂ (w₂.host.clock + 1000)
    let T := w₂.host.resolve l.bucketDir ++ [namespaceDirName ns, "." ++ toString w₂.unique ++ ".tmp"]
    let t₄ := w₂.host.files.put T
      (.file (.text (objectText ns x.key ⟨x.value, x.expires⟩ w₁.nowMillis)) (w₂.host.clock + 1000))
    let t₅ := t₄.moved T (w₂.host.resolve l.bucketDir ++ [namespaceDirName ns, objectFileName x.key])
    let w₃ : World := { w₂ with unique := w₂.unique + 1 }
    have hf₅ : Follows w₂ ((w₃.changed t₄).changed t₅) 2 1 :=
      ((Follows.fresh w₂).trans ((Follows.changed w₃ t₄).trans (Follows.changed _ t₅))).of_le
        (le_refl _) rfl
    have hholds₅ : Holds (w₂.host.resolve l.bucketDir) t₅ (M.upsert ns (done ++ [x])) := by
      rw [Contents.upsert_append_singleton]
      exact hmoved
    have hx₅ : ((M.upsert ns (done ++ [x])).lookup (ns, x.key)).isSome := by
      rw [Contents.upsert_append_singleton, AList.lookup_insert]
      rfl
    -- the entry's key is stamped with the time its hidden file was written; no other file moved
    have hr₅ : Refreshes l w₂ ((w₃.changed t₄).changed t₅) (M.upsert ns done) (M.upsert ns (done ++ [x]))
        (· = (ns, x.key)) := by
      have hput : ∀ q, t₅.find? q = (w₂.host.files.put
          (w₂.host.resolve l.bucketDir ++ [namespaceDirName ns, objectFileName x.key])
          (.file (.text (objectText ns x.key ⟨x.value, x.expires⟩ w₁.nowMillis)) (w₂.host.clock + 1000))).find? q :=
        hk₂.holds.find?_moved_hidden hcfree x.key _
      have hstamp : t₅.find? (w₂.host.resolve l.bucketDir ++ [namespaceDirName ns, objectFileName x.key]) =
          some (.file (.text (objectText ns x.key ⟨x.value, x.expires⟩ w₁.nowMillis)) (w₂.host.clock + 1000)) := by
        rw [hput, FileTree.find?_put, if_pos rfl]
      refine Refreshes.of_stamp (by show w₂.host.clock ≤ w₂.host.clock + 1000 + 1000; omega) rfl
        (fun a ha hab => ?_) hstamp (by omega) (by show _ ≤ w₂.host.clock + 1000 + 1000; omega) fun a ha hab => ?_
      · rwa [Contents.upsert_append_singleton, AList.lookup_insert_ne hab] at ha
      · rw [World.changed_files, hput, FileTree.find?_put, if_neg (hholds₅.objectPath_ne ha hx₅ hab)]
    refine ⟨(), (w₃.changed t₄).changed t₅, (returns_fresh w₂).bind ((returns_resolve _).bind ?_),
      hk₂.step hf₅ hholds₅, ?_, (hf₂.trans hf₅).of_le (by simp; omega) (by simp),
      (hr₂.trans hr₅).congr fun a _ => ?_⟩
    · rw [resolve_hidden ns w₂.unique (by decide) (by decide)]
      refine (returns_change_ok (hk₂.holds.writeFile_hidden hns hdir₂ hshort hcfree _ _)).bind
        ((returns_resolve _).bind ?_)
      rw [resolve_objectPath]
      exact (returns_change_ok (hk₂.holds.rename_hidden hns hdir₂ hshort hcfree x.key _ _)).bind (returns_pure _ _)
    · have hlookup : (M.upsert ns (done ++ [x])).lookup (ns, x.key) = some ⟨x.value, x.expires⟩ := by
        rw [Contents.upsert_append_singleton, AList.lookup_insert]
      obtain ⟨_, _, _, hdir₅, _⟩ := hholds₅.lookup_object_of_lookup hlookup
      rw [← hres]
      exact hdir₅
    · rw [List.map_append, List.map_singleton]
      exact (mem_append_singleton_pair a).symm
  exact ⟨w', hrun, hk', ((Follows.changed w t₁).trans hf').of_le (le_refl _) (Nat.zero_add _),
    (hr₁.trans hr').congr fun _ _ => by simp⟩

/-- Listing a namespace's directory reads back each held key once, with its object's path:
from the hex name of a short key, from the object in the hashed file of a long one. -/
theorem Keeps.listObjects (hk : Keeps l w M) (hns : ns.utf8ByteSize ≤ 126) :
    ∃ objs w', (l.listObjects (l.namespaceDir ns)).Returns w objs w' ∧
      w' = w ∧ (objs.map Prod.fst).Perm (M.keysIn ns) ∧ ∀ o ∈ objs, o.2 = l.objectPath ns o.1 := by
  unfold Layout.listObjects
  refine returns_files.bind_exists ((returns_resolve _).bind_exists ?_)
  rw [resolve_namespaceDir]
  rcases hk.holds.namespaceDir_cases ns with hnone | hdir
  · have hread : w.host.files.readDir (w.host.resolve l.bucketDir ++ [namespaceDirName ns]) = .error .notFound :=
      FileTree.readDir_of_none (by rw [hk.holds.lookup_namespaceDir hns, hnone])
    simp only [hread]
    refine ⟨[], w, returns_pure _ _, rfl, ?_, by simp⟩
    -- a namespace without its directory holds no key
    rw [List.map_nil, List.nil_perm, List.eq_nil_iff_forall_not_mem]
    intro k hmem
    obtain ⟨s, hs⟩ := Option.isSome_iff_exists.1 (Contents.mem_keysIn.1 hmem)
    obtain ⟨_, _, _, hdir, _⟩ := hk.holds.lookup_object_of_lookup hs
    rw [hnone] at hdir
    cases hdir
  · have hread := FileTree.readDir_of_dir (by rw [hk.holds.lookup_namespaceDir hns, hdir])
    simp only [hread]
    refine returns_foldlM _ (fun done acc w' => w = w' ∧ acc.map (objectFileName ·.1) = done ∧
      ∀ o ∈ acc, (M.lookup (ns, o.1)).isSome ∧ o.2 = l.objectPath ns o.1) ?_ [] w ⟨rfl, rfl, by simp⟩ ?_
    · intro done c rest acc w₁ hsplit ⟨hw, hacc, hobjs⟩
      subst hw
      have hc : c ∈ w.host.files.children (w.host.resolve l.bucketDir ++ [namespaceDirName ns]) := by
        rw [← hsplit]; simp
      obtain ⟨k, hheld, rfl⟩ := hk.holds.mem_children_namespaceDir.1 hc
      obtain ⟨s, hs⟩ := Option.isSome_iff_exists.1 hheld
      refine ⟨acc ++ [(k, l.objectPath ns k)], w, ?_, rfl, by simp [hacc], ?_⟩
      · simp only [isText_objectFileName, Bool.not_true, Bool.false_eq_true, if_false]
        by_cases hshort : k.utf8ByteSize ≤ 125
        · simp only [keyOfFileName?_of_le hshort]
          exact returns_pure _ _
        · simp only [keyOfFileName?_of_gt (Nat.lt_of_not_le hshort), isHashedName_of_gt (Nat.lt_of_not_le hshort),
            if_true]
          obtain ⟨la, hload⟩ := hk.load_held hs
          exact (returns_attempt hload).bind (returns_pure _ _)
      · intro o ho
        rcases List.mem_append.1 ho with ho | ho
        · exact hobjs o ho
        · rw [List.mem_singleton.1 ho]
          exact ⟨hheld, rfl⟩
    · intro acc w' ⟨hw, hnames, hobjs⟩
      refine ⟨hw.symm, ?_, fun o ho => (hobjs o ho).2⟩
      -- distinct names of held keys: the keys listed are the namespace's keys, each once
      have hnodup : (acc.map Prod.fst).Nodup := by
        refine List.Nodup.of_map objectFileName ?_
        rw [List.map_map]
        exact hnames ▸ FileTree.nodup_children hk.holds.wellFormed
      refine (List.perm_ext_iff_of_nodup hnodup (Contents.nodup_keysIn ns)).2 fun k => ?_
      rw [Contents.mem_keysIn]
      constructor
      · intro hmem
        obtain ⟨o, ho, rfl⟩ := List.mem_map.1 hmem
        exact (hobjs o ho).1
      · intro hheld
        obtain ⟨s, hs⟩ := Option.isSome_iff_exists.1 hheld
        have hname : objectFileName k ∈ acc.map (objectFileName ·.1) := by
          rw [hnames]
          exact hk.holds.mem_children_namespaceDir.2 ⟨k, hheld, rfl⟩
        obtain ⟨o, ho, hok⟩ := List.mem_map.1 hname
        obtain ⟨s', hs'⟩ := Option.isSome_iff_exists.1 (hobjs o ho).1
        rw [← hk.holds.key_unique hs' hs hok]
        exact List.mem_map_of_mem ho

theorem Keeps.listNamespace (hk : Keeps l w M) (hns : ns.utf8ByteSize ≤ 126) :
    (l.listNamespace ns).Returns w ((M.sortedKeys ns).map fun k => (k, l.objectPath ns k)) w := by
  obtain ⟨objs, _, hlist, rfl, hperm, hpaths⟩ := hk.listObjects hns
  unfold Layout.listNamespace
  refine (returns_ensureOpen hk.poolOpen).bind (hlist.bind ?_)
  have hkeys : (objs.mergeSort fun a b => decide (a.1 ≤ b.1)).map Prod.fst = M.sortedKeys ns := by
    have hmap : (objs.mergeSort fun a b => decide (a.1 ≤ b.1)).map Prod.fst =
        (objs.map Prod.fst).mergeSort fun a b => decide (a ≤ b) := List.map_mergeSort fun _ _ _ _ => rfl
    rw [hmap]
    exact Contents.mergeSort_eq_sortedKeys hperm
  have hsorted : objs.mergeSort (fun a b => decide (a.1 ≤ b.1)) =
      (M.sortedKeys ns).map fun k => (k, l.objectPath ns k) := by
    rw [← hkeys, List.map_map]
    exact (List.map_id _).symm.trans
      (List.map_congr_left fun o ho => Prod.ext rfl (hpaths o ((List.mergeSort_perm _ _).subset ho)))
  rw [hsorted]
  exact returns_pure _ _

/-- A page of a namespace: the held keys after the cursor, at most `limit` of them, each
with its value. -/
theorem Keeps.page (hk : Keeps l w M) (hns : ns.utf8ByteSize ≤ 126) (cursor : Option String) (limit : Nat) :
    (l.page ns cursor limit).Returns w ((M.snapshot ns).page (M.valueIn ns) cursor limit) w := by
  unfold Layout.page
  refine (hk.listNamespace hns).bind ?_
  -- the objects kept are those of the keys the snapshot scans
  have hscan : ∀ p : String × String → Bool, (∀ k, p (k, l.objectPath ns k) = after cursor k) →
      (((M.sortedKeys ns).map fun k => (k, l.objectPath ns k)).filter p).take limit =
        ((M.snapshot ns).scan cursor limit).map fun k => (k, l.objectPath ns k) := by
    intro p hp
    rw [List.filter_map, ← List.map_take]
    congr 3
    funext k
    exact hp k
  rw [hscan]
  · have hheld : ∀ k ∈ (M.snapshot ns).scan cursor limit, ∃ s, M.lookup (ns, k) = some s := fun k hk =>
      Option.isSome_iff_exists.1 (Contents.mem_sortedKeys.1 (List.mem_filter.1 (List.mem_of_mem_take hk)).1)
    refine (returns_foldlM_of _ (fun done acc w' => w' = w ∧ acc = done.map fun o => (o.1, M.valueIn ns o.1))
      ?_ [] w ⟨rfl, rfl⟩ _ w fun _ _ h => ⟨h.2, h.1⟩).bind ?_
    · intro done o rest acc w₁ hsplit ⟨hw, hacc⟩
      subst w₁
      obtain ⟨k, hscanned, rfl⟩ := List.mem_map.1 (show o ∈ _ by rw [← hsplit]; simp)
      obtain ⟨s, hs⟩ := hheld k hscanned
      obtain ⟨la, hload⟩ := hk.load_held hs
      refine ⟨_, w, hload.bind (returns_pure _ _), rfl, ?_⟩
      simp [hacc, objectOf, Contents.valueIn, hs]
    · refine returns_pure_of_eq ?_
      simp [Snapshot.page, Contents.snapshot, Function.comp_def, List.getLast?_map]
  · intro k
    cases cursor <;> rfl

theorem objectPath_tomb (l : Layout) (w : World) (ns k : String) (n : Nat) :
    ∃ dir, PathText.parent? (l.objectPath ns k) = some dir ∧
      w.host.resolve (PathText.join dir ("." ++ toString n ++ ".reap")) =
        w.host.resolve l.bucketDir ++ [namespaceDirName ns, "." ++ toString n ++ ".reap"] := by
  obtain ⟨dir, hparent, hdirres⟩ := PathText.parent?_join (l.namespaceDir ns) (plain_objectFileName k)
  refine ⟨dir, hparent, ?_⟩
  show PathText.resolve w.host.cwd _ = _
  rw [PathText.resolve_join _ _ (plain_hidden _ (by decide) (by decide)), hdirres]
  show w.host.resolve (l.namespaceDir ns) ++ _ = _
  rw [resolve_namespaceDir]
  simp

/-- Reaping the object of a held key that the check finds stale deletes it: the object is
moved to a tombstone, checked there, and the tombstone removed. -/
theorem Keeps.reap_stale (hk : Keeps l w M) (hns : ns.utf8ByteSize ≤ 126) {s : Stored}
    (hs : M.lookup (ns, k) = some s) (stale : StoredObject → Nat → Bool)
    (hstale : ∀ la m, w.host.files.find? (w.host.resolve l.bucketDir ++ [namespaceDirName ns, objectFileName k]) =
      some (.file (.text (objectText ns k s la)) m) → stale (objectOf ns k s la) m = true)
    (hn : w.unique < 10 ^ 249) :
    ∃ w', (l.reap (l.objectPath ns k) stale).Returns w true w' ∧ Keeps l w' (M.erase (ns, k)) ∧
      Follows w w' 2 1 ∧ Refreshes l w w' M (M.erase (ns, k)) fun _ => False := by
  obtain ⟨la, m, hla, hf⟩ := hk.holds.stored ns k s hs
  have hdir := hk.holds.dirOf _ _ (by rw [hf]; rfl)
  obtain ⟨dir, hparent, htomb⟩ := objectPath_tomb l w ns k w.unique
  have hcfree : ∀ k, objectFileName k ≠ "." ++ toString w.unique ++ ".reap" :=
    (objectFileName_ne_hidden · w.unique (by decide) (by decide))
  have hshort : FileTree.Short ("." ++ toString w.unique ++ ".reap") := short_hidden hn (by decide)
  have hholds := hk.holds
  let P := w.host.resolve l.bucketDir ++ [namespaceDirName ns, objectFileName k]
  let T := w.host.resolve l.bucketDir ++ [namespaceDirName ns, "." ++ toString w.unique ++ ".reap"]
  let w₁ : World := { w with unique := w.unique + 1 }
  let w₂ := w₁.changed (w.host.files.moved P T)
  let w₃ := w₂.changed ((w.host.files.moved P T).erase T)
  have hmoved := hholds.lookup_moved_hidden hns hdir hshort k hf
  have hheld : (M.lookup (ns, k)).isSome := by rw [hs]; rfl
  -- the tombstone goes, and with it only the key's own file
  have hr₃ : Refreshes l w w₃ M (M.erase (ns, k)) fun _ => False := by
    refine Refreshes.of_frame (by show w.host.clock ≤ w.host.clock + 1000 + 1000; omega) rfl
      (fun a ha => (isSome_of_lookup_erase ha).2) fun a ha => ?_
    rw [World.changed_files, hholds.find?_erase_moved_hidden hcfree k,
      hholds.find?_erase_other (isSome_of_lookup_erase ha).2 hheld (isSome_of_lookup_erase ha).1]
  refine ⟨w₃, ?_, hk.step (((Follows.fresh w).trans ((Follows.changed w₁ _).trans (Follows.changed w₂ _))).of_le
    (le_refl _) rfl) (hholds.erase_moved_hidden hcfree (hholds.nameFree_of_lookup hs)),
    ((Follows.fresh w).trans ((Follows.changed w₁ _).trans (Follows.changed w₂ _))).of_le (le_refl _) rfl, hr₃⟩
  unfold Layout.reap
  refine (returns_ensureOpen hk.poolOpen).bind ?_
  simp only [hparent]
  refine (returns_fresh w).bind ((returns_resolve _).bind ((returns_resolve _).bind ?_))
  rw [htomb, resolve_objectPath]
  refine (returns_change_ok (hholds.rename_to_hidden hns hdir hshort hcfree k hf)).bind ?_
  -- the check reads the tombstone back: it holds the key's object
  have hload : (l.load (PathText.join dir ("." ++ toString w.unique ++ ".reap"))).Returns w₂
      (some (objectOf ns k s la)) w₂ :=
    returns_load_of_text hk.poolOpen
      (by show (w.host.files.moved P T).readFile (w.host.resolve _) = _
          rw [htomb]
          exact FileTree.readFile_of_file hmoved)
      (decode_objectText (hk.holds.fits ns k s hs).2 hla)
  dsimp only
  refine (returns_attempt (returns_files.bind (?_ : Returns _ _ true w₂))).bind ?_
  · rw [World.changed_files, FileTree.modified_of_file hmoved]
    exact hload.bind (returns_pure_of_eq (hstale la m hf))
  · exact (returns_change_ok (FileTree.removeFile_of_file hmoved)).bind (returns_pure _ _)

/-- Reaping the object of a held key that the check keeps puts it back: the tombstone is
linked back onto the object file and removed, and the object stands as it stood, with its
time. -/
theorem Keeps.reap_kept (hk : Keeps l w M) (hns : ns.utf8ByteSize ≤ 126) {s : Stored}
    (hs : M.lookup (ns, k) = some s) (stale : StoredObject → Nat → Bool)
    (hkeep : ∀ la m, w.host.files.find? (w.host.resolve l.bucketDir ++ [namespaceDirName ns, objectFileName k]) =
      some (.file (.text (objectText ns k s la)) m) → stale (objectOf ns k s la) m = false)
    (hn : w.unique < 10 ^ 249) :
    ∃ w', (l.reap (l.objectPath ns k) stale).Returns w false w' ∧ Keeps l w' M ∧
      Follows w w' 3 1 ∧ Refreshes l w w' M M fun _ => False := by
  obtain ⟨la, m, hla, hf⟩ := hk.holds.stored ns k s hs
  have hdir := hk.holds.dirOf _ _ (by rw [hf]; rfl)
  obtain ⟨dir, hparent, htomb⟩ := objectPath_tomb l w ns k w.unique
  have hcfree : ∀ k, objectFileName k ≠ "." ++ toString w.unique ++ ".reap" :=
    (objectFileName_ne_hidden · w.unique (by decide) (by decide))
  have hshort : FileTree.Short ("." ++ toString w.unique ++ ".reap") := short_hidden hn (by decide)
  have hholds := hk.holds
  let P := w.host.resolve l.bucketDir ++ [namespaceDirName ns, objectFileName k]
  let T := w.host.resolve l.bucketDir ++ [namespaceDirName ns, "." ++ toString w.unique ++ ".reap"]
  let F : Entry := .file (.text (objectText ns k s la)) m
  let w₁ : World := { w with unique := w.unique + 1 }
  let w₂ := w₁.changed (w.host.files.moved P T)
  let w₃ := w₂.changed ((w.host.files.moved P T).put P F)
  let w₄ := w₃.changed (((w.host.files.moved P T).put P F).erase T)
  have hmoved := hholds.lookup_moved_hidden hns hdir hshort k hf
  have hfollows : Follows w w₄ 3 1 :=
    ((Follows.fresh w).trans ((Follows.changed w₁ _).trans ((Follows.changed w₂ _).trans
      (Follows.changed w₃ _)))).of_le (le_refl _) rfl
  -- the round trip leaves every entry of the tree as it was
  have hr₄ : Refreshes l w w₄ M M fun _ => False :=
    Refreshes.of_frame (by show w.host.clock ≤ w.host.clock + 1000 + 1000 + 1000; omega) rfl (fun _ ha => ha)
      fun _ _ => by
      rw [World.changed_files, hholds.find?_restore_hidden hcfree k hf]
  refine ⟨w₄, ?_, hk.step hfollows (hholds.restore_hidden hcfree k hf), hfollows, hr₄⟩
  unfold Layout.reap
  refine (returns_ensureOpen hk.poolOpen).bind ?_
  simp only [hparent]
  refine (returns_fresh w).bind ((returns_resolve _).bind ((returns_resolve _).bind ?_))
  rw [htomb, resolve_objectPath]
  refine (returns_change_ok (hholds.rename_to_hidden hns hdir hshort hcfree k hf)).bind ?_
  -- the check reads the tombstone back and keeps it
  have hload : (l.load (PathText.join dir ("." ++ toString w.unique ++ ".reap"))).Returns w₂
      (some (objectOf ns k s la)) w₂ :=
    returns_load_of_text hk.poolOpen
      (by show (w.host.files.moved P T).readFile (w.host.resolve _) = _
          rw [htomb]
          exact FileTree.readFile_of_file hmoved)
      (decode_objectText (hk.holds.fits ns k s hs).2 hla)
  dsimp only
  refine (returns_attempt (returns_files.bind (?_ : Returns _ _ false w₂))).bind ?_
  · rw [World.changed_files, FileTree.modified_of_file hmoved]
    exact hload.bind (returns_pure_of_eq (hkeep la m hf))
  · refine (?_ : Returns _ w₂ () w₄).bind (returns_pure _ _)
    unfold Layout.restore
    refine (returns_change_ok (hholds.hardLink_restore_hidden hns hdir hshort hcfree k hf)).bind ?_
    exact (returns_change_ok (hholds.removeFile_restored_hidden hns hdir hshort hcfree k hf)).bind (returns_pure _ _)

theorem Keeps.clearNamespace (hk : Keeps l w M) (hns : ns.utf8ByteSize ≤ 126) :
    ∃ w', (l.clearNamespace ns).Returns w (M.clearNamespace ns).1 w' ∧ Keeps l w' (M.clearNamespace ns).2 ∧
      Follows w w' (M.keysIn ns).length 0 ∧ Refreshes l w w' M (M.clearNamespace ns).2 fun _ => False := by
  have hnodup : (M.sortedKeys ns).Nodup := (List.mergeSort_perm _ _).nodup_iff.2 (Contents.nodup_keysIn ns)
  obtain ⟨n, w', hrun, M', hk', hsw, hf', hr'⟩ : ∃ n w', (l.clearNamespace ns).Returns w n w' ∧ ∃ M', Keeps l w' M' ∧
      Contents.Swept M M' (fun a _ => decide (a.1 = ns ∧ a.2 ∈ M.sortedKeys ns)) n ∧
      Follows w w' (M.sortedKeys ns).length 0 ∧ Refreshes l w w' M M' (fun _ => False) := by
    unfold Layout.clearNamespace
    refine (hk.listNamespace hns).bind_exists (returns_foldlM _
      (fun done n w' => ∃ M', Keeps l w' M' ∧
        Contents.Swept M M' (fun a _ => decide (a.1 = ns ∧ a.2 ∈ done.map Prod.fst)) n ∧
        Follows w w' done.length 0 ∧ Refreshes l w w' M M' fun _ => False)
      ?_ 0 w ⟨M, hk, (Contents.Swept.start M).congr (by simp), Follows.refl w, Refreshes.refl l w M⟩ ?_)
    · intro done o rest n w₁ hsplit ⟨M₁, hk₁, hsw, hf₁, hr₁⟩
      -- the object of a key of the namespace that is not cleared yet
      have hkeys : done.map Prod.fst ++ o.1 :: rest.map Prod.fst = M.sortedKeys ns := by
        simpa [List.map_map, Function.comp_def] using congrArg (List.map Prod.fst) hsplit
      obtain ⟨k, hkey, rfl⟩ := List.mem_map.1 (show o ∈ _ by rw [← hsplit]; simp)
      have hnot : k ∉ done.map Prod.fst := by
        rw [← hkeys] at hnodup
        exact fun hmem => (List.nodup_append.1 hnodup).2.2 k hmem k (by simp) rfl
      obtain ⟨s, hs⟩ := Option.isSome_iff_exists.1 (Contents.mem_sortedKeys.1 hkey)
      have hs₁ : M₁.lookup (ns, k) = some s := by
        rw [hsw.lookup, hs]
        simp [hnot]
      obtain ⟨w₂, hrem, hk₂, hf₂, hr₂⟩ := hk₁.remove_held hs₁
      refine ⟨n + 1, w₂, hrem.bind (returns_pure _ _), M₁.erase (ns, k), hk₂, (hsw.erase hs₁).congr ?_,
        (hf₁.trans hf₂).of_le (by simp) rfl, hr₁.frame_trans hr₂⟩
      intro a _ _
      by_cases ha : a = (ns, k)
      · subst ha
        simp
      · simp only [List.map_append, List.map_cons, List.map_nil, List.mem_append, List.mem_singleton,
          beq_false_of_ne ha, Bool.or_false]
        obtain ⟨a₁, a₂⟩ := a
        by_cases h₁ : a₁ = ns
        · subst h₁
          have : a₂ ≠ k := fun e => ha (by rw [e])
          simp [this]
        · simp [h₁]
    · intro n w' ⟨M', hk', hsw, hf', hr'⟩
      have hdone : ((M.sortedKeys ns).map fun k => (k, l.objectPath ns k)).map Prod.fst = M.sortedKeys ns := by
        simp [List.map_map, Function.comp_def]
      rw [hdone] at hsw
      exact ⟨M', hk', hsw, by simpa using hf', hr'⟩
  -- the keys swept are exactly those of the namespace
  have hD : ∀ a s, M.lookup a = some s → decide (a.1 = ns ∧ a.2 ∈ M.sortedKeys ns) = (a.1 == ns) := by
    intro a s hs
    by_cases h₁ : a.1 = ns
    · have : a.2 ∈ M.sortedKeys ns := Contents.mem_sortedKeys.2 (by rw [← h₁, hs]; rfl)
      simp [h₁, this]
    · simp [h₁]
  have hlen : (M.sortedKeys ns).length = (M.keysIn ns).length := (List.mergeSort_perm _ _).length_eq
  have hleft : ∀ a, (M.clearNamespace ns).2.lookup a = M'.lookup a := fun a => ((hsw.lookup_eq hD a).trans rfl).symm
  refine ⟨w', ?_, hk'.congr hleft, hlen ▸ hf', hr'.congr_contents (fun _ => rfl) hleft⟩
  rw [show (M.clearNamespace ns).1 = n by rw [Contents.clearNamespace, Contents.length_keysIn, hsw.count_eq hD]]
  exact hrun

theorem Keeps.namespaceDirs (hk : Keeps l w M) :
    ∃ dirs, l.namespaceDirs.Returns w dirs w ∧
      (∀ d ∈ dirs, ∃ ns, d = l.namespaceDir ns ∧ ns.utf8ByteSize ≤ 126) ∧
      ∀ ns k, (M.lookup (ns, k)).isSome → l.namespaceDir ns ∈ dirs := by
  obtain ⟨dirs, _, hrun, rfl, hdirs, hheld⟩ : ∃ dirs w', l.namespaceDirs.Returns w dirs w' ∧ w = w' ∧
      (∀ d ∈ dirs, ∃ ns, d = l.namespaceDir ns ∧ ns.utf8ByteSize ≤ 126) ∧
      ∀ ns k, (M.lookup (ns, k)).isSome → l.namespaceDir ns ∈ dirs := by
    unfold Layout.namespaceDirs
    refine (returns_ensureOpen hk.poolOpen).bind_exists ?_
    refine returns_files.bind_exists ((returns_resolve _).bind_exists ?_)
    rw [FileTree.readDir_of_dir hk.holds.root]
    refine ⟨_, w, returns_pure _ _, rfl, fun d hd => ?_, fun ns k hheld => ?_⟩
    · obtain ⟨c, hc, rfl⟩ := List.mem_map.1 hd
      obtain ⟨e, he⟩ := Option.isSome_iff_exists.1 (FileTree.mem_children.1 (List.mem_filter.1 hc).1)
      obtain ⟨-, ns, rfl, hns⟩ := hk.holds.placed [c] e (by simp) he
      exact ⟨ns, rfl, hns⟩
    · obtain ⟨s, hs⟩ := Option.isSome_iff_exists.1 hheld
      obtain ⟨_, _, _, hdir, _⟩ := hk.holds.lookup_object_of_lookup hs
      refine List.mem_map.2 ⟨namespaceDirName ns,
        List.mem_filter.2 ⟨FileTree.mem_children.2 (by rw [hdir]; rfl), ?_⟩, rfl⟩
      simp [isText_namespaceDirName, startsWith_namespaceDirName]
  exact ⟨dirs, hrun, hdirs, hheld⟩

theorem mem_keys_append_singleton {ns k p : String} {done : List (String × String)} (a : String × String) :
    (a.1 = ns ∧ a.2 ∈ (done ++ [(k, p)]).map Prod.fst) ↔ (a.1 = ns ∧ a.2 ∈ done.map Prod.fst) ∨ a = (ns, k) := by
  rw [List.map_append, List.map_singleton]
  exact mem_append_singleton_pair a

/-- The loop both sweeps of a bucket run: through every namespace directory and, in each,
through every object, with a count that `visit` carries. -/
def Layout.sweep (l : Layout) (visit : Nat → String → Act Nat) : Act Nat := do
  let dirs ← l.namespaceDirs
  dirs.foldlM (fun n dir => do
    let objects ← l.listObjects dir
    objects.foldlM (fun n (_, path) => visit n path) n) 0

/-- A sweep's visit of each object of `M` that it can still meet, in a bucket holding what the
sweep left of `M` with its times: one `V` picks is reaped and counted, and one `V` passes over
is left, with the world as it was. -/
def Visits (l : Layout) (w : World) (M : Contents) (V : String × String → Stored → Bool)
    (visit : Nat → String → Act Nat) : Prop :=
  ∀ w₂ M₂ n ns k s, Keeps l w₂ M₂ → Refreshes l w w₂ M M₂ (fun _ => False) → ns.utf8ByteSize ≤ 126 →
    M₂.lookup (ns, k) = some s →
    (V (ns, k) s = true → w₂.unique < 10 ^ 249 → ∃ w₃, (visit n (l.objectPath ns k)).Returns w₂ (n + 1) w₃ ∧
      Keeps l w₃ (M₂.erase (ns, k)) ∧ Follows w₂ w₃ 2 1 ∧ Refreshes l w₂ w₃ M₂ (M₂.erase (ns, k)) fun _ => False) ∧
    (V (ns, k) s = false → (visit n (l.objectPath ns k)).Returns w₂ n w₂)

/-- A sweep whose visits reap what `V` picks removes, in every namespace directory, exactly those
objects, and counts them; the others keep their times. -/
theorem Keeps.sweep (hk : Keeps l w M) {V : String × String → Stored → Bool} {visit : Nat → String → Act Nat}
    (hvisit : Visits l w M V visit) (hunique : w.unique + (M.filter V).entries.length ≤ 10 ^ 249) :
    ∃ w', (l.sweep visit).Returns w (M.filter V).entries.length w' ∧ Keeps l w' (M.filter fun a s => !V a s) ∧
      Follows w w' (2 * (M.filter V).entries.length) (M.filter V).entries.length ∧
      Refreshes l w w' M (M.filter fun a s => !V a s) fun _ => False := by
  obtain ⟨dirs, hdirsRun, hdirs, hcover⟩ := hk.namespaceDirs
  obtain ⟨n, w', hrun, M', hk', hsw, hf', hr'⟩ : ∃ n w', (l.sweep visit).Returns w n w' ∧ ∃ M', Keeps l w' M' ∧
      Contents.Swept M M' (fun a s => decide (l.namespaceDir a.1 ∈ dirs) && V a s) n ∧
      Follows w w' (2 * n) n ∧ Refreshes l w w' M M' (fun _ => False) := by
    unfold Layout.sweep
    -- the directories done so far: what `V` picks in them is gone
    refine hdirsRun.bind_exists (returns_foldlM _ (fun done n w' => ∃ M', Keeps l w' M' ∧
        Contents.Swept M M' (fun a s => decide (l.namespaceDir a.1 ∈ done) && V a s) n ∧
        Follows w w' (2 * n) n ∧ Refreshes l w w' M M' fun _ => False)
      ?_ 0 w ⟨M, hk, (Contents.Swept.start M).congr (by simp), Follows.refl w, Refreshes.refl l w M⟩ fun _ _ h => h)
    intro done dir rest n w₁ hsplit ⟨M₁, hk₁, hsw₁, hf₁, hr₁⟩
    obtain ⟨ns, rfl, hns⟩ := hdirs dir (by rw [← hsplit]; simp)
    obtain ⟨objs, w₁', hlist, hw₁, hperm, hpaths⟩ := hk₁.listObjects hns
    subst w₁'
    have hnodup : (objs.map Prod.fst).Nodup := hperm.nodup_iff.2 (Contents.nodup_keysIn ns)
    -- within the directory, the objects done so far: what `V` picks among them is gone
    refine hlist.bind_exists (returns_foldlM _ (fun kdone n' w'' => ∃ M'', Keeps l w'' M'' ∧
        Contents.Swept M M'' (fun a s => (decide (l.namespaceDir a.1 ∈ done) ||
          decide (a.1 = ns ∧ a.2 ∈ kdone.map Prod.fst)) && V a s) n' ∧
        Follows w w'' (2 * n') n' ∧ Refreshes l w w'' M M'' fun _ => False)
      ?_ n w₁ ⟨M₁, hk₁, hsw₁.congr fun a s _ => by simp, hf₁, hr₁⟩ ?_)
    · intro kdone o orest n' w₂ hsplit' ⟨M₂, hk₂, hsw₂, hf₂, hr₂⟩
      have ho : o ∈ objs := by rw [← hsplit']; simp
      obtain ⟨k, path⟩ := o
      obtain rfl : path = l.objectPath ns k := hpaths _ ho
      have hnot : k ∉ kdone.map Prod.fst := by
        have hkeys : kdone.map Prod.fst ++ k :: orest.map Prod.fst = objs.map Prod.fst := by
          simpa using congrArg (List.map Prod.fst) hsplit'
        rw [← hkeys] at hnodup
        exact fun hmem => (List.nodup_append.1 hnodup).2.2 k hmem k (by simp) rfl
      -- the key is listed, so the directory's contents hold it; it is not reaped yet
      obtain ⟨s, hs₁⟩ := Option.isSome_iff_exists.1
        (Contents.mem_keysIn.1 (hperm.subset (List.mem_map.2 ⟨_, ho, rfl⟩)))
      have hM : M.lookup (ns, k) = some s ∧ (!(decide (l.namespaceDir ns ∈ done) && V (ns, k) s)) = true := by
        have := hsw₁.lookup (ns, k)
        rw [hs₁, eq_comm, Option.filter_eq_some_iff] at this
        exact this
      have hs₂ : M₂.lookup (ns, k) = some s := by
        rw [hsw₂.lookup, hM.1, Option.filter_some_pos]
        simpa [hnot] using hM.2
      have hvisit₂ := hvisit w₂ M₂ n' ns k s hk₂ hr₂ hns hs₂
      cases hv : V (ns, k) s
      · -- an object `V` passes over stays
        refine ⟨n', w₂, hvisit₂.2 hv, M₂, hk₂, hsw₂.congr fun a s' hs' => ?_, hf₂, hr₂⟩
        by_cases ha : a = (ns, k)
        · subst ha
          rw [hM.1] at hs'
          cases hs'
          simp [hv]
        · simp only [mem_keys_append_singleton, ha, or_false]
      · -- an object `V` picks is reaped, with a fresh number for its tombstone
        have hcount : n' < (M.filter V).entries.length :=
          hsw₂.count_lt (fun _ _ hDa => (Bool.and_eq_true _ _ ▸ hDa).2) hs₂ hv
        have hn : w₂.unique < 10 ^ 249 := by
          rw [hf₂.unique]
          omega
        obtain ⟨w₃, hreap, hk₃, hf₃, hr₃⟩ := hvisit₂.1 hv hn
        refine ⟨n' + 1, w₃, hreap, M₂.erase (ns, k), hk₃, (hsw₂.erase hs₂).congr fun a s' hs' => ?_,
          (hf₂.trans hf₃).of_le (by omega) rfl, hr₂.frame_trans hr₃⟩
        by_cases ha : a = (ns, k)
        · subst ha
          rw [hM.1] at hs'
          cases hs'
          simp [hv]
        · simp only [mem_keys_append_singleton, ha, or_false, beq_false_of_ne ha, Bool.or_false]
    · -- the directory done: what `V` picks in its namespace is gone
      intro n' w'' ⟨M'', hk'', hsw'', hf'', hr''⟩
      refine ⟨M'', hk'', hsw''.congr fun a s' hs' => ?_, hf'', hr''⟩
      cases hv : V a s'
      · simp
      · by_cases hdone : l.namespaceDir a.1 ∈ done
        · simp [hdone]
        · have hiff : (a.1 = ns ∧ a.2 ∈ objs.map Prod.fst) ↔ l.namespaceDir a.1 = l.namespaceDir ns := by
            constructor
            · rintro ⟨h, -⟩
              rw [h]
            · intro h
              obtain ⟨a₁, a₂⟩ := a
              obtain rfl : a₁ = ns := namespaceDir_inj h
              refine ⟨rfl, hperm.mem_iff.2 (Contents.mem_keysIn.2 ?_)⟩
              rw [hsw₁.lookup, hs', Option.filter_some_pos]
              · rfl
              · simp [hdone]
          apply Bool.eq_iff_iff.2
          simp only [Bool.and_eq_true, Bool.or_eq_true, decide_eq_true_eq, and_true, List.mem_append,
            List.mem_singleton, hdone, false_or, hiff]
  -- every namespace holding a key was listed
  have hD : ∀ a s, M.lookup a = some s → (decide (l.namespaceDir a.1 ∈ dirs) && V a s) = V a s := by
    intro a s hs
    have : l.namespaceDir a.1 ∈ dirs := hcover a.1 a.2 (by rw [hs]; rfl)
    simp [this]
  have hcount := hsw.count_eq hD
  subst hcount
  exact ⟨w', hrun, hk'.congr fun a => (hsw.lookup_eq hD a).symm, hf',
    hr'.congr_contents (fun _ => rfl) fun a => (hsw.lookup_eq hD a).symm⟩

def Layout.expiredVisit (l : Layout) (now : Int) (n : Nat) (path : String) : Act Nat := do
  let candidate := match ← l.load path with
    | some o => Layout.expiredAt now o
    | none => false
  if candidate then pure (if ← l.reap path (fun o _ => Layout.expiredAt now o) then n + 1 else n)
  else pure n

theorem clearExpired_eq_sweep (l : Layout) (now : Int) : l.clearExpired now = l.sweep (l.expiredVisit now) :=
  rfl

theorem Keeps.clearExpired (hk : Keeps l w M) (now : Int) (hunique : w.unique + (M.clearExpired now).1 ≤ 10 ^ 249) :
    ∃ w', (l.clearExpired now).Returns w (M.clearExpired now).1 w' ∧ Keeps l w' (M.clearExpired now).2 ∧
      Follows w w' (2 * (M.clearExpired now).1) (M.clearExpired now).1 ∧
      Refreshes l w w' M (M.clearExpired now).2 fun _ => False := by
  rw [clearExpired_eq_sweep]
  refine hk.sweep (V := fun _ s => s.expiredAt now) (fun w₂ M₂ n ns k s hk₂ _ hns hs₂ => ?_) hunique
  obtain ⟨la, hload⟩ := hk₂.load_held hs₂
  refine ⟨fun hexp hn => ?_, fun hexp => hload.bind ?_⟩
  · -- an expired object is reaped: the check on its tombstone sees the same object
    obtain ⟨w₃, hreap, hk₃, hf₃, hr₃⟩ := hk₂.reap_stale hns hs₂ (fun o _ => Layout.expiredAt now o)
      (fun _ _ _ => by simpa only [expiredAt_objectOf] using hexp) hn
    refine ⟨w₃, hload.bind ?_, hk₃, hf₃, hr₃⟩
    simp only [expiredAt_objectOf, show s.expiredAt now = true from hexp, if_true]
    exact hreap.bind (returns_pure _ _)
  · simp only [expiredAt_objectOf, show s.expiredAt now = false from hexp, Bool.false_eq_true, if_false]
    exact returns_pure _ _

theorem Keeps.bootstrap (hk : Keeps l w M) :
    ∃ w', l.bootstrap.Returns w () w' ∧ Keeps l w' M ∧ Follows w w' 1 0 ∧ Refreshes l w w' M M fun _ => False := by
  refine ⟨w.changed w.host.files, ?_, hk.step (Follows.changed w _) hk.holds, Follows.changed w _,
    Refreshes.changed_same l w M⟩
  unfold Layout.bootstrap
  refine (returns_ensureOpen hk.poolOpen).bind ((returns_resolve _).bind ?_)
  exact (returns_change_ok (FileTree.createDirAll_of_dir hk.holds.root)).bind (returns_pure _ _)

end Bucket

end KvStore
