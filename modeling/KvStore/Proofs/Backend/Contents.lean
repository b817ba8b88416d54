import Mathlib.Data.List.AList
import Mathlib.Data.List.Sort
import Mathlib.Data.List.Induction
import KvStore.Store.Backend
import KvStore.Proofs.Keyset
import KvStore.Proofs.Store.Runs

/-!
What a backend holds, as a finite map from namespace and key to the stored text and its
expiry, and what each primitive call answers and leaves on it. A backend meets its
contract when running a call on a state holding `M` answers `(c.apply M).1` and leaves a
state holding `(c.apply M).2`.

A backend's promise over whole runs is `Backend.Contract`: what a world holds is tracked with
a budget, the room left for calls (a clock that must not run out, a counter of fresh names),
and every call the backend allows, run with room for its cost, answers as the contract does.
-/

namespace KvStore

structure Stored where
  value : String
  expires : Option Int
  deriving DecidableEq, Repr

namespace Stored

def expiredAt (now : Int) (s : Stored) : Bool :=
  match s.expires with
  | some e => decide (e < now)
  | none => false

end Stored

abbrev Contents := AList fun _ : String × String => Stored

namespace Contents

def filter (p : String × String → Stored → Bool) (M : Contents) : Contents :=
  ⟨M.entries.filter fun e => p e.1 e.2, M.nodupKeys.sublist List.filter_sublist⟩

def keysIn (M : Contents) (ns : String) : List String :=
  (M.entries.filter fun e => e.1.1 = ns).map fun e => e.1.2

def sortedKeys (M : Contents) (ns : String) : List String :=
  (M.keysIn ns).mergeSort fun a b => decide (a ≤ b)

def upsert (M : Contents) (ns : String) (entries : List StoredEntry) : Contents :=
  entries.foldl (fun M e => M.insert (ns, e.key) ⟨e.value, e.expires⟩) M

def found (M : Contents) (ns : String) (keys : List String) : List (String × String) :=
  keys.filterMap fun k => (M.lookup (ns, k)).map fun s => (k, s.value)

def present (M : Contents) (ns : String) (keys : List String) : List String :=
  keys.filter fun k => (M.lookup (ns, k)).isSome

def deleteAll (M : Contents) (ns : String) (keys : List String) : Nat × Contents :=
  keys.foldl (fun (n, M) k => (if (M.lookup (ns, k)).isSome then n + 1 else n, M.erase (ns, k))) (0, M)

def valueIn (M : Contents) (ns : String) (key : String) : String :=
  ((M.lookup (ns, key)).map Stored.value).getD ""

def clearNamespace (M : Contents) (ns : String) : Nat × Contents :=
  ((M.keysIn ns).length, M.filter fun a _ => a.1 != ns)

/-- Clears the entries, in any namespace, that expired before `now`: how many there were,
and the contents without them. -/
def clearExpired (M : Contents) (now : Int) : Nat × Contents :=
  ((M.filter fun _ s => s.expiredAt now).entries.length, M.filter fun _ s => !s.expiredAt now)

variable {M : Contents}

theorem lookup_filter (p : String × String → Stored → Bool) (a : String × String) :
    (M.filter p).lookup a = (M.lookup a).filter (p a) := by
  apply Option.ext
  intro b
  rw [Option.filter_eq_some_iff, ← Option.mem_def, ← Option.mem_def]
  change b ∈ (M.entries.filter fun e => p e.1 e.2).dlookup a ↔ b ∈ M.entries.dlookup a ∧ _
  rw [List.mem_dlookup_iff (M.nodupKeys.sublist List.filter_sublist), List.mem_dlookup_iff M.nodupKeys,
    List.mem_filter]

theorem mem_keysIn {ns k : String} : k ∈ M.keysIn ns ↔ (M.lookup (ns, k)).isSome := by
  rw [AList.lookup_isSome, AList.mem_keys, AList.keys, List.keys, keysIn]
  simp only [List.mem_map, List.mem_filter, decide_eq_true_eq]
  constructor
  · rintro ⟨e, ⟨he, rfl⟩, rfl⟩
    exact ⟨e, he, rfl⟩
  · rintro ⟨e, he, hek⟩
    exact ⟨e, ⟨he, by rw [hek]⟩, by rw [hek]⟩

theorem nodup_keysIn (ns : String) : (M.keysIn ns).Nodup := by
  refine List.Nodup.map_on ?_ (M.nodupKeys.nodup.sublist List.filter_sublist)
  intro x hx y hy hxy
  simp only [List.mem_filter, decide_eq_true_eq] at hx hy
  have hfst : x.1 = y.1 := Prod.ext (hx.2.trans hy.2.symm) hxy
  exact M.nodupKeys.eq_of_fst_eq hx.1 hy.1 hfst

theorem mem_sortedKeys {ns k : String} : k ∈ M.sortedKeys ns ↔ (M.lookup (ns, k)).isSome := by
  rw [sortedKeys, (List.mergeSort_perm _ _).mem_iff, mem_keysIn]

theorem mergeSort_ascending {ks : List String} (h : ks.Nodup) :
    (ks.mergeSort fun a b => decide (a ≤ b)).Pairwise (· < ·) := by
  have hle : (ks.mergeSort fun a b => decide (a ≤ b)).Pairwise fun a b => decide (a ≤ b) = true :=
    List.pairwise_mergeSort (fun a b c hab hbc => by simp only [decide_eq_true_eq] at *; exact le_trans hab hbc)
      (fun a b => by simpa using le_total a b) _
  have hnodup : (ks.mergeSort fun a b => decide (a ≤ b)).Nodup := (List.mergeSort_perm _ _).nodup_iff.2 h
  exact (hle.and hnodup).imp fun ⟨hab, hne⟩ => lt_of_le_of_ne (by simpa using hab) hne

theorem sortedKeys_ascending (ns : String) : (M.sortedKeys ns).Pairwise (· < ·) :=
  mergeSort_ascending (nodup_keysIn ns)

theorem mergeSort_eq_sortedKeys {ns : String} {ks : List String} (h : ks.Perm (M.keysIn ns)) :
    ks.mergeSort (fun a b => decide (a ≤ b)) = M.sortedKeys ns :=
  List.Perm.eq_of_pairwise (fun _ _ _ _ hab hba => absurd hba (lt_asymm hab))
    (mergeSort_ascending (h.nodup_iff.2 (nodup_keysIn ns))) (sortedKeys_ascending ns)
    ((List.mergeSort_perm _ _).trans (h.trans (List.mergeSort_perm _ _).symm))

theorem found_append_singleton (ns : String) (keys : List String) (k : String) :
    M.found ns (keys ++ [k]) = M.found ns keys ++ ((M.lookup (ns, k)).map fun s => (k, s.value)).toList := by
  rw [found, List.filterMap_append, ← found]
  cases h : M.lookup (ns, k) <;> simp [h]

theorem lookup_insert_of_lookup {b : String × String} {s : Stored} (hs : M.lookup b = some s)
    (a : String × String) : (M.insert b s).lookup a = M.lookup a := by
  by_cases ha : a = b
  · rw [ha, AList.lookup_insert, hs]
  · rw [AList.lookup_insert_ne ha]

theorem lookup_erase_of_none {b : String × String} (hnone : M.lookup b = none) (a : String × String) :
    (M.erase b).lookup a = M.lookup a := by
  by_cases ha : a = b
  · rw [ha, AList.lookup_erase, hnone]
  · rw [AList.lookup_erase_ne ha]

theorem upsert_append_singleton (ns : String) (entries : List StoredEntry) (e : StoredEntry) :
    M.upsert ns (entries ++ [e]) = (M.upsert ns entries).insert (ns, e.key) ⟨e.value, e.expires⟩ := by
  rw [upsert, List.foldl_append]
  rfl

theorem lookup_upsert_of_some {ns : String} {entries : List StoredEntry} {a : String × String}
    {s : Stored} (h : (M.upsert ns entries).lookup a = some s) :
    M.lookup a = some s ∨ ∃ e ∈ entries, a = (ns, e.key) := by
  induction entries using List.reverseRecOn with
  | nil => exact .inl h
  | append_singleton entries e ih =>
    rw [upsert_append_singleton] at h
    by_cases ha : a = (ns, e.key)
    · exact .inr ⟨e, by simp, ha⟩
    · rw [AList.lookup_insert_ne ha] at h
      rcases ih h with hM | ⟨e', he', rfl⟩
      · exact .inl hM
      · exact .inr ⟨e', by simp [he'], rfl⟩

theorem deleteAll_append_singleton (ns : String) (keys : List String) (k : String) :
    M.deleteAll ns (keys ++ [k]) =
      (if ((M.deleteAll ns keys).2.lookup (ns, k)).isSome then (M.deleteAll ns keys).1 + 1
        else (M.deleteAll ns keys).1, (M.deleteAll ns keys).2.erase (ns, k)) := by
  rw [deleteAll, List.foldl_append]
  rfl

theorem lookup_deleteAll_of_some {ns : String} {keys : List String} {a : String × String} {s : Stored}
    (h : (M.deleteAll ns keys).2.lookup a = some s) : M.lookup a = some s := by
  induction keys using List.reverseRecOn with
  | nil => exact h
  | append_singleton keys k ih =>
    rw [deleteAll_append_singleton] at h
    by_cases ha : a = (ns, k)
    · rw [ha, AList.lookup_erase] at h
      cases h
    · rw [AList.lookup_erase_ne ha] at h
      exact ih h

theorem length_erase_of_isSome {a : String × String} (h : (M.lookup a).isSome) :
    (M.erase a).entries.length + 1 = M.entries.length := by
  obtain ⟨_, l₁, l₂, -, hsplit, herase⟩ := List.exists_of_kerase (AList.mem_keys.2 (AList.lookup_isSome.1 h))
  change (M.entries.kerase a).length + 1 = _
  rw [herase, hsplit]
  simp only [List.length_append, List.length_cons]
  omega

theorem length_eq_of_lookup {M' : Contents} (h : ∀ a, M.lookup a = M'.lookup a) :
    M.entries.length = M'.entries.length :=
  (List.lookup_ext M.nodupKeys M'.nodupKeys fun x y => by
    change y ∈ M.lookup x ↔ y ∈ M'.lookup x
    rw [h]).length_eq

theorem length_keysIn (ns : String) : (M.keysIn ns).length = (M.filter fun a _ => a.1 == ns).entries.length := by
  simp only [keysIn, filter, List.length_map]
  congr 1

/-- `M'` is `M` without the entries `D` picks, and `n` entries were removed. -/
structure Swept (M M' : Contents) (D : String × String → Stored → Bool) (n : Nat) : Prop where
  lookup : ∀ a, M'.lookup a = (M.lookup a).filter fun s => !D a s
  count : n + M'.entries.length = M.entries.length

namespace Swept

variable {M' : Contents} {D D' p : String × String → Stored → Bool} {n : Nat}

theorem start (M : Contents) : Swept M M (fun _ _ => false) 0 :=
  ⟨fun a => by cases M.lookup a <;> rfl, Nat.zero_add _⟩

theorem congr (h : Swept M M' D n) (hD : ∀ a s, M.lookup a = some s → D a s = D' a s) : Swept M M' D' n := by
  refine ⟨fun a => ?_, h.count⟩
  rw [h.lookup]
  cases ha : M.lookup a with
  | none => rfl
  | some s => rw [Option.filter_some, Option.filter_some, hD a s ha]

theorem erase (h : Swept M M' D n) {b : String × String} {s : Stored} (hb : M'.lookup b = some s) :
    Swept M (M'.erase b) (fun a s => D a s || a == b) (n + 1) := by
  refine ⟨fun a => ?_, ?_⟩
  · by_cases hab : a = b
    · subst hab
      cases M.lookup a <;> simp
    · rw [AList.lookup_erase_ne hab, h.lookup]
      simp [beq_false_of_ne hab]
  · have hlen := length_erase_of_isSome (show (M'.lookup b).isSome by rw [hb]; rfl)
    have := h.count
    omega

theorem lookup_eq (h : Swept M M' D n) (hD : ∀ a s, M.lookup a = some s → D a s = p a s) (a : String × String) :
    M'.lookup a = (M.filter fun a s => !p a s).lookup a := by
  rw [lookup_filter, (h.congr hD).lookup]

theorem count_eq (h : Swept M M' D n) (hD : ∀ a s, M.lookup a = some s → D a s = p a s) :
    n = (M.filter p).entries.length := by
  have hleft := length_eq_of_lookup (h.lookup_eq hD)
  have hsplit := @List.length_eq_length_filter_add _ M.entries fun e => p e.1 e.2
  have := h.count
  simp only [filter] at hleft ⊢
  omega

theorem count_lt (h : Swept M M' D n) (hD : ∀ a s, D a s = true → p a s = true) {b : String × String}
    {s : Stored} (hb : M'.lookup b = some s) (hp : p b s = true) : n < (M.filter p).entries.length := by
  have hMb : M.lookup b = some s := by
    have := h.lookup b
    rw [hb, eq_comm, Option.filter_eq_some_iff] at this
    exact this.1
  -- the entries `p` rejects all stay, and so does `b`
  have hsub : b :: (M.filter fun a s => !p a s).keys ⊆ M'.keys := by
    intro a ha
    rcases List.mem_cons.1 ha with rfl | ha
    · exact AList.mem_keys.2 (AList.lookup_isSome.1 (by rw [hb]; rfl))
    · obtain ⟨s', hs'⟩ := Option.isSome_iff_exists.1 (AList.lookup_isSome.2 (AList.mem_keys.1 ha))
      rw [lookup_filter, Option.filter_eq_some_iff] at hs'
      have hDa : D a s' = false := by
        cases hDa : D a s'
        · rfl
        · have := hD a s' hDa
          simp [this] at hs'
      refine AList.mem_keys.2 (AList.lookup_isSome.1 ?_)
      rw [h.lookup, hs'.1, Option.filter_some_pos (by simp [hDa])]
      rfl
  have hnodup : (b :: (M.filter fun a s => !p a s).keys).Nodup := by
    refine List.nodup_cons.2 ⟨fun hmem => ?_, AList.keys_nodup _⟩
    have := AList.lookup_isSome.2 (AList.mem_keys.1 hmem)
    rw [lookup_filter, hMb] at this
    simp [hp] at this
  have hle := hnodup.length_le_of_subset hsub
  have hsplit := @List.length_eq_length_filter_add _ M.entries fun e => p e.1 e.2
  have := h.count
  simp only [AList.keys, List.keys, List.length_cons, List.length_map, filter] at hle hsplit ⊢
  omega

end Swept

def snapshot (M : Contents) (ns : String) : Snapshot where
  keys := M.sortedKeys ns
  ascending := sortedKeys_ascending ns
  live _ := true

end Contents

inductive Call where
  | bootstrap
  | getMany (ns : String) (keys : List String)
  | upsertMany (ns : String) (entries : List StoredEntry)
  | hasMany (ns : String) (keys : List String)
  | delete (ns key : String)
  | deleteMany (ns : String) (keys : List String)
  | clearNamespace (ns : String)
  | clearExpired (now : Int)
  | page (ns : String) (cursor : Option String) (limit : Nat)
  deriving Repr

inductive Reply where
  | done
  | pairs (found : List (String × String))
  | keys (present : List String)
  | flag (removed : Bool)
  | count (removed : Nat)
  | page (p : Page)
  deriving Repr

namespace Call

/-- The answer the contract gives a call on contents `M`, and the contents it leaves. -/
def apply : Call → Contents → Reply × Contents
  | .bootstrap, M => (.done, M)
  | .getMany ns keys, M => (.pairs (M.found ns keys), M)
  | .upsertMany ns entries, M => (.done, M.upsert ns entries)
  | .hasMany ns keys, M => (.keys (M.present ns keys), M)
  | .delete ns key, M => (.flag (M.lookup (ns, key)).isSome, M.erase (ns, key))
  | .deleteMany ns keys, M => (.count (M.deleteAll ns keys).1, (M.deleteAll ns keys).2)
  | .clearNamespace ns, M => (.count (M.clearNamespace ns).1, (M.clearNamespace ns).2)
  | .clearExpired now, M => (.count (M.clearExpired now).1, (M.clearExpired now).2)
  | .page ns cursor limit, M => (.page ((M.snapshot ns).page (M.valueIn ns) cursor limit), M)

def applyAll : List Call → Contents → List Reply × Contents
  | [], M => ([], M)
  | c :: cs, M => ((c.apply M).1 :: (applyAll cs (c.apply M).2).1, (applyAll cs (c.apply M).2).2)

def namespace? : Call → Option String
  | .getMany ns _ | .upsertMany ns _ | .hasMany ns _ | .delete ns _ | .deleteMany ns _
  | .clearNamespace ns | .page ns _ _ => some ns
  | .bootstrap | .clearExpired _ => none

def entries : Call → List StoredEntry
  | .upsertMany _ entries => entries
  | _ => []

def keys : Call → List String
  | .getMany _ keys | .hasMany _ keys | .deleteMany _ keys => keys
  | .upsertMany _ entries => entries.map (·.key)
  | .delete _ key => [key]
  | _ => []

end Call

namespace Backend

def perform (b : Backend) : Call → Act Reply
  | .bootstrap => do b.bootstrap; pure .done
  | .getMany ns keys => .pairs <$> b.getMany ns keys
  | .upsertMany ns entries => do b.upsertMany ns entries; pure .done
  | .hasMany ns keys => .keys <$> b.hasMany ns keys
  | .delete ns key => .flag <$> b.delete ns key
  | .deleteMany ns keys => .count <$> b.deleteMany ns keys
  | .clearNamespace ns => .count <$> b.clearNamespace ns
  | .clearExpired now => .count <$> b.clearExpired now
  | .page ns cursor limit => .page <$> b.page ns cursor limit

def performAll (b : Backend) (calls : List Call) : Act (List Reply) := calls.mapM b.perform

/-- A backend meets the primitive contract within a budget. `holds n w M` says that the
world `w` holds the contents `M`, with room left for calls costing `n` in all. A call the
backend allows, run with room for its cost, answers as the contract does and leaves the
contents the contract gives, its cost taken from the room. What a store records beside its
backend, metrics and log events, does not matter to it, and a backend holding contents
has its pool open. -/
structure Contract (b : Backend) where
  holds : Nat → World → Contents → Prop
  cost : Call → Nat
  allows : Call → Prop
  meets : ∀ c n w M, allows c → holds (n + cost c) w M →
    ∃ w', (b.perform c).Returns w (c.apply M).1 w' ∧ holds n w' (c.apply M).2
  shrink : ∀ n k w M, holds (n + k) w M → holds n w M
  bookkeeping : ∀ n w M (metrics : Metrics) (log : List LogEvent), holds n w M →
    holds n { w with metrics, log } M
  poolOpen : ∀ n w M, holds n w M → (w.pool b.pool).closed = false

end Backend

end KvStore
