import Mathlib.Data.List.Nodup
import KvStore.Host.Files

/-!
What the calls of a file tree do, stated through the entry found at each path.

`find?` reads the entry recorded for a path; `put`, `erase` and a move change it as a
function update (`find?_put`, `find?_erase`, `find?_moved`) and keep the paths distinct
(`WellFormed`). Below a directory that a lookup reaches, looking up a child with a short
name gives the child's entry (`lookup_child`); each call is then given by the entry it
finds, with one lemma per outcome. The names in a directory are its children's names,
each once (`mem_children`, `nodup_children`).
-/

namespace KvStore

namespace FileTree

variable {t : FileTree} {p q : Path} {e : Entry}

def WellFormed (t : FileTree) : Prop := (t.entries.map Prod.fst).Nodup

/-- The entry at a path other than the root: the first entry recorded for it. -/
def find? (t : FileTree) (p : Path) : Option Entry := (t.entries.find? (·.1 == p)).map (·.2)

theorem get?_of_ne_nil (hq : q ≠ []) : t.get? q = t.find? q := by
  simp [get?, find?, hq]

@[simp] theorem get?_nil : t.get? [] = some .dir := rfl

theorem find?_put : (t.put p e).find? q = if q = p then some e else t.find? q := by
  unfold put find?
  split
  · rename_i hany
    have hpath : ((fun x : Path × Entry => x.1 == q) ∘
        fun x : Path × Entry => if x.1 == p then (x.1, e) else (x.1, x.2)) = (·.1 == q) := by
      funext x
      by_cases h : x.1 = p <;> simp [h]
    simp only [List.find?_map, Option.map_map, hpath]
    by_cases hqp : q = p
    · subst hqp
      obtain ⟨x, hfind⟩ := Option.isSome_iff_exists.1 (List.find?_isSome.2 (List.any_eq_true.1 hany))
      have hx : x.1 = q := by simpa using List.find?_some hfind
      simp [hfind, hx]
    · cases hfind : t.entries.find? (·.1 == q) with
      | none => simp [hqp]
      | some x =>
        have hx : x.1 = q := by simpa using List.find?_some hfind
        simp [hqp, hx]
  · rename_i hany
    have hnone : t.entries.find? (·.1 == p) = none := by
      simp only [List.any_eq_true, not_exists, not_and, Bool.not_eq_true] at hany
      simpa [List.find?_eq_none] using hany
    by_cases hqp : q = p
    · subst hqp
      simp [hnone]
    · simp [hqp, Ne.symm hqp]

theorem get?_put_of_lt {r : Path} (hlen : q.length < p.length) (hr : r <+: q) :
    (t.put p e).get? r = t.get? r := by
  by_cases hr0 : r = []
  · subst hr0; rfl
  · rw [get?_of_ne_nil hr0, get?_of_ne_nil hr0, find?_put, if_neg]
    rintro rfl
    have := hr.length_le
    omega

theorem isPrefixOf_eq_false : p.isPrefixOf q = false ↔ ¬p <+: q := by
  rw [Bool.eq_false_iff, ne_eq, List.isPrefixOf_iff_prefix]

theorem find?_erase : (t.erase p).find? q = if p <+: q then none else t.find? q := by
  unfold erase find?
  rw [List.find?_filter]
  split
  · rename_i hpq
    rw [List.find?_eq_none.2]
    · rfl
    · intro x _
      by_cases hx : x.1 = q <;> simp [hx, hpq]
  · rename_i hpq
    have hpre : p.isPrefixOf q = false := isPrefixOf_eq_false.2 hpq
    congr 2
    funext x
    by_cases hx : x.1 = q <;> simp [hx, hpre]

theorem wellFormed_put (h : t.WellFormed) : (t.put p e).WellFormed := by
  unfold WellFormed put at *
  split
  · rw [List.map_map]
    convert h using 2
    funext x
    by_cases hx : x.1 = p <;> simp [hx]
  · rename_i hany
    rw [List.map_append, List.nodup_append]
    refine ⟨h, by simp, ?_⟩
    simp only [List.any_eq_true, not_exists, not_and, Bool.not_eq_true, beq_eq_false_iff_ne] at hany
    simpa using fun a x hx => hany (a, x) hx

theorem wellFormed_erase (h : t.WellFormed) : (t.erase p).WellFormed :=
  (List.filter_sublist.map Prod.fst).nodup h

def childName (p q : Path) : Option String :=
  if q.length == p.length + 1 && p.isPrefixOf q then q.getLast? else none

theorem childName_eq_some {c : String} : childName p q = some c ↔ q = p ++ [c] := by
  unfold childName
  constructor
  · intro h
    split at h
    · rename_i hq
      simp only [Bool.and_eq_true, beq_iff_eq, List.isPrefixOf_iff_prefix] at hq
      obtain ⟨hlen, r, rfl⟩ := hq
      obtain ⟨d, rfl⟩ : ∃ d, r = [d] := List.length_eq_one_iff.1 (by simpa using hlen)
      simp_all
    · cases h
  · rintro rfl
    simp [List.isPrefixOf_iff_prefix]

theorem children_eq (t : FileTree) (p : Path) :
    t.children p = ((t.entries.map Prod.fst).filterMap (childName p)).mergeSort (fun a b => decide (a ≤ b)) := by
  rw [children, List.filterMap_map]
  rfl

theorem mem_children {c : String} : c ∈ t.children p ↔ (t.find? (p ++ [c])).isSome := by
  simp [children_eq, childName_eq_some, find?]

theorem nodup_children (h : t.WellFormed) : (t.children p).Nodup := by
  rw [children_eq]
  refine (List.mergeSort_perm _ _).nodup_iff.2 (List.Nodup.filterMap ?_ h)
  intro a a' c ha ha'
  rw [Option.mem_def, childName_eq_some] at ha ha'
  rw [ha, ha']

section Lookup

variable {done rest : Path} {c : String}

def Short (c : String) : Prop := c.utf8ByteSize ≤ maxNameBytes

theorem lookup_go_single (hc : Short c) : lookup.go t done [c] = .ok (t.get? (done ++ [c])) := by
  simp [lookup.go, Nat.not_lt.2 hc]

theorem lookup_go_cons_dir (hc : Short c) (hd : t.get? (done ++ [c]) = some .dir) (hr : rest ≠ []) :
    lookup.go t done (c :: rest) = lookup.go t (done ++ [c]) rest := by
  obtain ⟨x, xs, rfl⟩ := List.exists_cons_of_ne_nil hr
  simp [lookup.go, Nat.not_lt.2 hc, hd]

theorem lookup_go_cons_none (hc : Short c) (hd : t.get? (done ++ [c]) = none) (hr : rest ≠ []) :
    lookup.go t done (c :: rest) = .error .notFound := by
  obtain ⟨x, xs, rfl⟩ := List.exists_cons_of_ne_nil hr
  simp [lookup.go, Nat.not_lt.2 hc, hd]

theorem lookup_go_append (h : lookup.go t done p = .ok (some .dir)) :
    lookup.go t done (p ++ rest) = lookup.go t (done ++ p) rest := by
  induction p generalizing done with
  | nil => simp
  | cons c p ih =>
    have hc : Short c := by
      by_contra hlong
      simp [lookup.go, Nat.lt_of_not_le hlong] at h
    -- the first step must have entered a directory
    have hd : t.get? (done ++ [c]) = some .dir := by
      cases p <;> cases hget : t.get? (done ++ [c]) with
      | some e => cases e <;> simp_all [lookup.go, Nat.not_lt.2 hc]
      | none => simp_all [lookup.go, Nat.not_lt.2 hc]
    cases p with
    | nil =>
      cases rest with
      | nil => rw [List.append_nil, h]; simp [lookup.go, hd]
      | cons r rs => rw [List.singleton_append, lookup_go_cons_dir hc hd (List.cons_ne_nil _ _)]
    | cons d p =>
      rw [lookup_go_cons_dir hc hd (List.cons_ne_nil d p)] at h
      rw [List.cons_append, lookup_go_cons_dir hc hd (by simp), ih h, List.append_assoc]
      rfl

theorem lookup_child (hp : t.lookup p = .ok (some .dir)) (hc : Short c) :
    t.lookup (p ++ [c]) = .ok (t.get? (p ++ [c])) := by
  unfold lookup at hp ⊢
  rw [lookup_go_append hp, List.nil_append, lookup_go_single hc]

theorem lookup_below_missing (hp : t.lookup p = .ok (some .dir)) (hc : Short c)
    (hd : t.get? (p ++ [c]) = none) (hr : rest ≠ []) : t.lookup (p ++ c :: rest) = .error .notFound := by
  unfold lookup at hp ⊢
  rw [lookup_go_append hp, List.nil_append, lookup_go_cons_none hc hd hr]

theorem lookup_go_congr {t' : FileTree}
    (h : ∀ r, r <+: rest → t'.get? (done ++ r) = t.get? (done ++ r)) :
    lookup.go t' done rest = lookup.go t done rest := by
  induction rest generalizing done with
  | nil => simpa [lookup.go] using h [] (List.nil_prefix)
  | cons c rest ih =>
    have hhere : t'.get? (done ++ [c]) = t.get? (done ++ [c]) :=
      h [c] (List.cons_prefix_cons.2 ⟨rfl, List.nil_prefix⟩)
    have hrest : lookup.go t' (done ++ [c]) rest = lookup.go t (done ++ [c]) rest :=
      ih fun r hr => by simpa using h (c :: r) (List.cons_prefix_cons.2 ⟨rfl, hr⟩)
    simp only [lookup.go, hhere, hrest]

theorem lookup_congr {t' : FileTree} (h : ∀ r, r <+: p → t'.get? r = t.get? r) :
    t'.lookup p = t.lookup p :=
  lookup_go_congr fun r hr => by simpa using h r hr

theorem checkParent_child (hp : t.lookup p = .ok (some .dir)) (hc : Short c) :
    t.checkParent (p ++ [c]) = .ok () := by
  simp [checkParent, hp, Nat.not_lt.2 hc]

end Lookup

section Calls

variable {d : FileData} {m now : Nat}

theorem readFile_of_file (h : t.lookup q = .ok (some (.file d m))) : t.readFile q = .ok d := by
  simp [readFile, h]; rfl

theorem readFile_of_none (h : t.lookup q = .ok none) : t.readFile q = .error .notFound := by
  simp [readFile, h]; rfl

theorem readFile_of_error {err : IoError} (h : t.lookup q = .error err) : t.readFile q = .error err := by
  simp [readFile, h]; rfl

theorem writeFile_of_not_dir {target : Option Entry} (hpar : t.checkParent q = .ok ())
    (h : t.lookup q = .ok target) (htarget : target ≠ some .dir) :
    t.writeFile q d now = .ok (t.put q (.file d now)) := by
  cases target with
  | none => simp [writeFile, hpar, h]; rfl
  | some e => cases e <;> simp_all [writeFile]; rfl

theorem removeFile_of_file (h : t.lookup q = .ok (some (.file d m))) :
    t.removeFile q = .ok (t.erase q) := by
  simp [removeFile, h]; rfl

theorem removeFile_of_none (h : t.lookup q = .ok none) : t.removeFile q = .error .notFound := by
  simp [removeFile, h]; rfl

theorem removeFile_of_error {err : IoError} (h : t.lookup q = .error err) :
    t.removeFile q = .error err := by
  simp [removeFile, h]; rfl

theorem tryExists_of_ok {e : Option Entry} (h : t.lookup q = .ok e) : t.tryExists q = .ok e.isSome := by
  simp [tryExists, h]

theorem tryExists_of_notFound (h : t.lookup q = .error .notFound) : t.tryExists q = .ok false := by
  simp [tryExists, h]

theorem touch_of_file (h : t.lookup q = .ok (some (.file d m))) :
    t.touch q now = .ok (t.put q (.file d now)) := by
  simp [touch, h]; rfl

theorem hardLink_of_file (h : t.lookup q = .ok (some (.file d m))) (hpar : t.checkParent p = .ok ())
    (hp : t.lookup p = .ok none) : t.hardLink q p = .ok (t.put p (.file d m)) := by
  simp [hardLink, h, hpar, hp]; rfl

theorem modified_of_file (h : t.lookup q = .ok (some (.file d m))) : t.modified q = .ok m := by
  simp [modified, h]; rfl

theorem readDir_of_dir (h : t.lookup q = .ok (some .dir)) : t.readDir q = .ok (t.children q) := by
  simp [readDir, h]; rfl

theorem readDir_of_none (h : t.lookup q = .ok none) : t.readDir q = .error .notFound := by
  simp [readDir, h]; rfl

theorem createDirAll_of_dir (h : t.lookup q = .ok (some .dir)) : t.createDirAll q = .ok t := by
  have hmk : t.mkdir q = .error .alreadyExists := by simp [mkdir, h]; rfl
  have hdir : t.isDir q = true := by simp [isDir, h]
  simp [createDirAll, createDirAllWithin, hmk, hdir]

theorem createDirAll_of_none (hpar : t.checkParent q = .ok ()) (h : t.lookup q = .ok none) :
    t.createDirAll q = .ok (t.put q .dir) := by
  have hmk : t.mkdir q = .ok (t.put q .dir) := by simp [mkdir, h, hpar]; rfl
  simp [createDirAll, createDirAllWithin, hmk]

end Calls

section Rename

variable {src dst : Path}

theorem find?_append_entries (xs ys : List (Path × Entry)) :
    (⟨xs ++ ys⟩ : FileTree).find? q = ((⟨xs⟩ : FileTree).find? q).or ((⟨ys⟩ : FileTree).find? q) := by
  simp only [find?, List.find?_append]
  cases xs.find? (·.1 == q) <;> rfl

def movedEntries (t : FileTree) (src dst : Path) : List (Path × Entry) :=
  t.entries.filterMap fun (q, x) => if src.isPrefixOf q then some (dst ++ q.drop src.length, x) else none

theorem find?_movedEntries :
    (⟨t.movedEntries src dst⟩ : FileTree).find? q =
      if dst <+: q then t.find? (src ++ q.drop dst.length) else none := by
  unfold movedEntries find?
  rw [List.find?_filterMap]
  split
  · rename_i hdq
    obtain ⟨s, rfl⟩ := hdq
    -- an entry lands on `dst ++ s` exactly when it was at `src ++ s`
    have hpred : (fun x : Path × Entry => (match x with
        | (q, x) => if src.isPrefixOf q then some (dst ++ q.drop src.length, x) else none).any
          (fun y : Path × Entry => y.1 == dst ++ s)) = (·.1 == src ++ s) := by
      funext x
      obtain ⟨a, b⟩ := x
      by_cases ha : src <+: a
      · obtain ⟨u, rfl⟩ := ha
        simp
      · have hne : a ≠ src ++ s := fun e => ha ⟨s, e.symm⟩
        have hpre : src.isPrefixOf a = false := isPrefixOf_eq_false.2 ha
        simp [hpre, hne]
    rw [hpred, List.drop_left]
    cases hfind : t.entries.find? (·.1 == src ++ s) with
    | none => rfl
    | some x =>
      obtain ⟨a, b⟩ := x
      have ha : a = src ++ s := by simpa using List.find?_some hfind
      subst ha
      simp
  · rename_i hdq
    rw [List.find?_eq_none.2]
    · rfl
    · intro x _
      obtain ⟨a, b⟩ := x
      by_cases ha : src.isPrefixOf a = true
      · simp only [ha, if_true, Option.any_some, beq_iff_eq]
        exact fun e => hdq ⟨_, e⟩
      · simp [ha]

/-- The tree after a move: what was at or under `src` is at or under `dst`, and what was
under `dst` is gone. -/
def moved (t : FileTree) (src dst : Path) : FileTree :=
  ⟨((t.erase dst).erase src).entries ++ t.movedEntries src dst⟩

theorem find?_moved :
    (t.moved src dst).find? q =
      if dst <+: q then t.find? (src ++ q.drop dst.length) else if src <+: q then none else t.find? q := by
  have hkept : ((t.erase dst).erase src).find? q =
      if src <+: q then none else if dst <+: q then none else t.find? q := by
    rw [find?_erase, find?_erase]
  rw [moved, find?_append_entries, find?_movedEntries]
  change (((t.erase dst).erase src).find? q).or _ = _
  rw [hkept]
  by_cases hdq : dst <+: q
  · simp [hdq]
  · by_cases hsq : src <+: q <;> simp [hdq, hsq]

theorem get?_moved_of_lt (hsrc : q.length < src.length) (hdst : q.length < dst.length) :
    (t.moved src dst).get? q = t.get? q := by
  by_cases hq : q = []
  · subst hq; rfl
  · rw [get?_of_ne_nil hq, get?_of_ne_nil hq, find?_moved, if_neg fun hp => by have := hp.length_le; omega,
      if_neg fun hp => by have := hp.length_le; omega]

theorem movedEntries_paths :
    (t.movedEntries src dst).map Prod.fst =
      (t.entries.map Prod.fst).filterMap fun q =>
        if src.isPrefixOf q then some (dst ++ q.drop src.length) else none := by
  rw [movedEntries, List.map_filterMap, List.filterMap_map]
  congr 1
  funext x
  obtain ⟨q, e⟩ := x
  by_cases hq : src.isPrefixOf q = true
  · simp [hq, List.isPrefixOf_iff_prefix.1 hq]
  · simp only [hq, Bool.false_eq_true, if_false, Option.map_none]
    simp only [Bool.not_eq_true] at hq
    simp [isPrefixOf_eq_false.1 hq]

theorem wellFormed_moved (h : t.WellFormed) : (t.moved src dst).WellFormed := by
  unfold WellFormed moved
  rw [List.map_append, List.nodup_append, movedEntries_paths]
  refine ⟨wellFormed_erase (wellFormed_erase h), ?_, ?_⟩
  · -- the moved paths keep their distinct remainders after `src`
    refine List.Nodup.filterMap ?_ h
    intro a a' b ha ha'
    by_cases hpa : src.isPrefixOf a = true <;> by_cases hpa' : src.isPrefixOf a' = true <;>
      simp only [hpa, hpa', if_true, Bool.false_eq_true, if_false, Option.mem_def, reduceCtorEq,
        Option.some.injEq] at ha ha'
    rw [List.isPrefixOf_iff_prefix, List.prefix_iff_eq_append] at hpa hpa'
    rw [← hpa, ← hpa', ← List.append_cancel_left (ha.trans ha'.symm)]
  · -- kept paths are not under `dst`, moved ones are
    intro x hx y hy hxy
    subst hxy
    simp only [List.mem_filterMap, Option.ite_none_right_eq_some, Option.some.injEq] at hy
    obtain ⟨a, -, -, rfl⟩ := hy
    simp only [erase, List.mem_filter, List.mem_map] at hx
    obtain ⟨x, ⟨⟨-, hdst⟩, -⟩, hx⟩ := hx
    rw [hx, List.isPrefixOf_iff_prefix.2 (List.prefix_append _ _)] at hdst
    cases hdst

/-- A file written at a fresh path and moved onto another path stands as if it had been
written there, when nothing lies below either path. -/
theorem find?_moved_put {F : Entry} (hsrc : ∀ r, t.find? (src ++ r) = none)
    (hdst : ∀ r, r ≠ [] → t.find? (dst ++ r) = none) :
    ((t.put src F).moved src dst).find? q = (t.put dst F).find? q := by
  rw [find?_moved]
  by_cases hdq : dst <+: q
  · obtain ⟨r, rfl⟩ := hdq
    rw [if_pos (List.prefix_append _ _), List.drop_left, find?_put, find?_put]
    by_cases hr : r = []
    · subst hr
      simp
    · have hne : dst ++ r ≠ dst := by simpa using hr
      have hne' : src ++ r ≠ src := by simpa using hr
      rw [if_neg hne', hsrc r, if_neg hne, hdst r hr]
  · have hput : (t.put dst F).find? q = t.find? q := by
      rw [find?_put, if_neg fun e => hdq (by simp only [e, List.prefix_refl])]
    rw [if_neg hdq, hput]
    by_cases hsq : src <+: q
    · obtain ⟨r, rfl⟩ := hsq
      rw [if_pos (List.prefix_append _ _), hsrc r]
    · rw [if_neg hsq, find?_put, if_neg fun e => hsq (by simp only [e, List.prefix_refl])]

theorem find?_erase_moved (hdst : ∀ r, t.find? (dst ++ r) = none) :
    ((t.moved src dst).erase dst).find? q = (t.erase src).find? q := by
  rw [find?_erase, find?_moved, find?_erase]
  by_cases hdq : dst <+: q
  · obtain ⟨r, rfl⟩ := hdq
    rw [if_pos (List.prefix_append _ _), hdst r]
    split <;> rfl
  · rw [if_neg hdq, if_neg hdq]

theorem rename_of_file {d : FileData} {m : Nat} {target : Option Entry}
    (hs : t.lookup src = .ok (some (.file d m))) (hpar : t.checkParent dst = .ok ())
    (hd : t.lookup dst = .ok target) (htarget : target ≠ some .dir) (hne : src ≠ dst) :
    t.rename src dst = .ok (t.moved src dst) := by
  have hfile : (Entry.file d m == Entry.dir) = false := rfl
  cases target with
  | none => simp [rename, hs, hpar, hd, hne, hfile, bind, Except.bind, pure, Except.pure, moved, movedEntries]
  | some e =>
    cases e with
    | dir => exact absurd rfl htarget
    | file d' m' => simp [rename, hs, hpar, hd, hne, hfile, bind, Except.bind, pure, Except.pure, moved, movedEntries]

end Rename

end FileTree

end KvStore
