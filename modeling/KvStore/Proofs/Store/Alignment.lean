import KvStore.Proofs.Store.Gate
import KvStore.Proofs.Backend.Contents

/-!
How a store lines its answers up with the keys it is given.

A store strips its namespace's prefix from every key, sends each stripped key once
(`stripAll`), and reads the answer for a key back by searching the backend's reply for the
key stripped again; a batch write sends each key once, with the value written last
(`collapse`). The lemmas here say that none of this changes what a key reads: a key's value
is found in a getMany reply exactly when it was asked and is held (`find?_found`,
`find?_reverse_found`), a hasMany reply holds exactly the keys asked and held
(`contains_present`), the keys sent are the stripped keys asked (`mem_stripAll`), and a
collapsed batch writes what the batch written entry by entry does (`Contents.Same.upsert_collapse`).

Backend contents are compared by what they hold at each address (`Contents.Same`): a map
written in another order is the same map.
-/

namespace KvStore

namespace Contents

variable {M M' M'' : Contents}

/-- Contents with the same entry at every address: one map, whatever the order its
entries are kept in. -/
def Same (M M' : Contents) : Prop := ∀ a, M.lookup a = M'.lookup a

namespace Same

theorem refl (M : Contents) : Same M M := fun _ => rfl

theorem symm (h : Same M M') : Same M' M := fun a => (h a).symm

theorem trans (h : Same M M') (h' : Same M' M'') : Same M M'' := fun a => (h a).trans (h' a)

theorem insert (h : Same M M') (a : String × String) (s : Stored) : Same (M.insert a s) (M'.insert a s) := by
  intro b
  by_cases hb : b = a
  · rw [hb, AList.lookup_insert, AList.lookup_insert]
  · rw [AList.lookup_insert_ne hb, AList.lookup_insert_ne hb, h b]

theorem erase (h : Same M M') (a : String × String) : Same (M.erase a) (M'.erase a) := by
  intro b
  by_cases hb : b = a
  · rw [hb, AList.lookup_erase, AList.lookup_erase]
  · rw [AList.lookup_erase_ne hb, AList.lookup_erase_ne hb, h b]

theorem filter (h : Same M M') (p : String × String → Stored → Bool) : Same (M.filter p) (M'.filter p) := by
  intro b
  rw [lookup_filter, lookup_filter, h b]

theorem foldl {β : Type} (h : Same M M') (f : Contents → β → Contents)
    (hf : ∀ M M' x, Same M M' → Same (f M x) (f M' x)) (xs : List β) : Same (xs.foldl f M) (xs.foldl f M') := by
  induction xs generalizing M M' with
  | nil => exact h
  | cons x xs ih => exact ih (hf M M' x h)

theorem upsert (h : Same M M') (ns : String) (entries : List StoredEntry) :
    Same (M.upsert ns entries) (M'.upsert ns entries) := by
  refine h.foldl _ ?_ entries
  intro M M' e hs
  exact hs.insert _ _

theorem length_filter (h : Same M M') (p : String × String → Stored → Bool) :
    (M.filter p).entries.length = (M'.filter p).entries.length :=
  length_eq_of_lookup (h.filter p)

end Same

theorem lookup_upsert (ns : String) (entries : List StoredEntry) (a : String × String) :
    (M.upsert ns entries).lookup a =
      if a.1 = ns then
        ((entries.reverse.find? (·.key == a.2)).map fun e => (⟨e.value, e.expires⟩ : Stored)).or (M.lookup a)
      else M.lookup a := by
  induction entries using List.reverseRecOn with
  | nil => split <;> rfl
  | append_singleton entries e ih =>
    rw [upsert_append_singleton]
    by_cases ha : a = (ns, e.key)
    · subst ha
      simp [AList.lookup_insert]
    · rw [AList.lookup_insert_ne ha, ih, List.reverse_append, List.reverse_singleton, List.singleton_append]
      split
      · -- in the namespace, the entry written last is for another key, and the search passes it
        rename_i hns
        have other : (e.key == a.2) = false := by
          simpa using fun h : e.key = a.2 => ha (Prod.ext hns h.symm)
        simp only [List.find?_cons, other]
      · rfl

theorem lookup_foldl_erase {β : Type} (f : β → String × String) (xs : List β) (a : String × String) :
    (xs.foldl (fun M x => M.erase (f x)) M).lookup a = if ∃ x ∈ xs, f x = a then none else M.lookup a := by
  induction xs generalizing M with
  | nil => simp
  | cons x xs ih =>
    rw [List.foldl_cons, ih]
    by_cases hx : f x = a
    · simp [hx, AList.lookup_erase]
    · have hne : a ≠ f x := fun h => hx h.symm
      simp [hx, AList.lookup_erase_ne hne]

theorem deleteAll_eq_foldl_erase (ns : String) (keys : List String) :
    (M.deleteAll ns keys).2 = keys.foldl (fun M k => M.erase (ns, k)) M := by
  induction keys using List.reverseRecOn with
  | nil => rfl
  | append_singleton keys k ih => rw [deleteAll_append_singleton, List.foldl_append, ← ih]; rfl

theorem deleteAll_pos_iff (ns : String) (keys : List String) :
    0 < (M.deleteAll ns keys).1 ↔ ∃ k ∈ keys, (M.lookup (ns, k)).isSome := by
  induction keys using List.reverseRecOn with
  | nil => simp [deleteAll]
  | append_singleton keys k ih =>
    -- after the first keys, the entry of `k` is gone exactly when `k` was among them
    have left := @lookup_foldl_erase M _ (fun k => (ns, k)) keys (ns, k)
    rw [← deleteAll_eq_foldl_erase] at left
    rw [deleteAll_append_singleton]
    dsimp only
    split
    · rename_i held
      refine iff_of_true (by omega) ⟨k, by simp, ?_⟩
      obtain ⟨s, hs⟩ := Option.isSome_iff_exists.mp held
      rw [lookup_deleteAll_of_some hs]
      rfl
    · rename_i gone
      rw [ih]
      constructor
      · rintro ⟨k', hk', h⟩
        exact ⟨k', by simp [hk'], h⟩
      · rintro ⟨k', hk', h⟩
        rcases List.mem_append.mp hk' with hk' | hk'
        · exact ⟨k', hk', h⟩
        · obtain rfl := List.mem_singleton.mp hk'
          rw [left] at gone
          split at gone
          · rename_i earlier
            obtain ⟨k'', hk'', same⟩ := earlier
            exact ⟨k'', hk'', by rw [(Prod.mk.inj same).2]; exact h⟩
          · exact absurd h gone

theorem mem_found {ns : String} {keys : List String} {p : String × String} :
    p ∈ M.found ns keys ↔ p.1 ∈ keys ∧ (M.lookup (ns, p.1)).map (·.value) = some p.2 := by
  obtain ⟨k, v⟩ := p
  simp only [found, List.mem_filterMap, Option.map_eq_some_iff, Prod.mk.injEq]
  constructor
  · rintro ⟨k', hk', s, hs, rfl, rfl⟩
    exact ⟨hk', s, hs, rfl⟩
  · rintro ⟨hk, s, hs, rfl⟩
    exact ⟨k, hk, s, hs, rfl, rfl⟩

end Contents

namespace Store

/-- A list of pairs whose every pair holds its key's value under `f` answers a search by key
with that value, for the keys it holds. -/
theorem find?_of_values {f : String → Option String} {L : List (String × String)}
    (hL : ∀ p ∈ L, f p.1 = some p.2) (k : String) :
    (L.find? (·.1 == k)).map (·.2) = if k ∈ L.map (·.1) then f k else none := by
  induction L with
  | nil => simp
  | cons p L ih =>
    by_cases hk : p.1 = k
    · subst hk
      simp [hL p (by simp)]
    · rw [List.find?_cons_of_neg (by simpa using hk), ih fun q hq => hL q (by simp [hq])]
      simp only [List.map_cons, List.mem_cons, Ne.symm hk, false_or]

theorem mem_keys_found {M : Contents} {ns : String} {keys : List String} {k : String} :
    k ∈ (M.found ns keys).map (·.1) ↔ k ∈ keys ∧ (M.lookup (ns, k)).isSome := by
  rw [List.mem_map]
  constructor
  · rintro ⟨p, hp, rfl⟩
    obtain ⟨hk, hv⟩ := Contents.mem_found.mp hp
    exact ⟨hk, by simpa using congrArg Option.isSome hv⟩
  · rintro ⟨hk, hs⟩
    obtain ⟨s, hs⟩ := Option.isSome_iff_exists.mp hs
    exact ⟨(k, s.value), Contents.mem_found.mpr ⟨hk, by simp [hs]⟩, rfl⟩

theorem ite_mem_keys_found {M : Contents} {ns : String} {keys : List String} {k : String} :
    (if k ∈ (M.found ns keys).map (·.1) then (M.lookup (ns, k)).map (·.value) else none) =
      if k ∈ keys then (M.lookup (ns, k)).map (·.value) else none := by
  by_cases hk : k ∈ keys
  · cases hs : M.lookup (ns, k) <;> simp [mem_keys_found, hk, hs]
  · simp [mem_keys_found, hk]

theorem values_found {M : Contents} {ns : String} {keys : List String} :
    ∀ p ∈ M.found ns keys, (M.lookup (ns, p.1)).map (·.value) = some p.2 :=
  fun _ hp => (Contents.mem_found.mp hp).2

theorem find?_found {M : Contents} {ns : String} {keys : List String} {k : String} :
    ((M.found ns keys).find? (·.1 == k)).map (·.2) =
      if k ∈ keys then (M.lookup (ns, k)).map (·.value) else none := by
  rw [@find?_of_values (fun k => (M.lookup (ns, k)).map (·.value)) _ values_found k, ite_mem_keys_found]

theorem find?_reverse_found {M : Contents} {ns : String} {keys : List String} {k : String} :
    ((M.found ns keys).reverse.find? (·.1 == k)).map (·.2) =
      if k ∈ keys then (M.lookup (ns, k)).map (·.value) else none := by
  have values : ∀ p ∈ (M.found ns keys).reverse, (M.lookup (ns, p.1)).map (·.value) = some p.2 :=
    fun p hp => values_found p (List.mem_reverse.mp hp)
  rw [@find?_of_values (fun k => (M.lookup (ns, k)).map (·.value)) _ values k, List.map_reverse]
  simpa only [List.mem_reverse] using ite_mem_keys_found

theorem contains_present {M : Contents} {ns : String} {keys : List String} {k : String} :
    (M.present ns keys).contains k = (decide (k ∈ keys) && (M.lookup (ns, k)).isSome) := by
  simp [Contents.present, List.mem_filter]

theorem mem_foldl_unseen {xs acc : List String} {k : String} :
    k ∈ xs.foldl (fun acc k => if acc.contains k then acc else acc ++ [k]) acc ↔ k ∈ acc ∨ k ∈ xs := by
  induction xs generalizing acc with
  | nil => simp
  | cons x xs ih =>
    rw [List.foldl_cons, ih]
    split
    · rename_i seen
      have seen : x ∈ acc := by simpa using seen
      simp only [List.mem_cons]
      constructor
      · rintro (h | h)
        · exact .inl h
        · exact .inr (.inr h)
      · rintro (h | rfl | h)
        · exact .inl h
        · exact .inl seen
        · exact .inr h
    · simp [or_assoc]

theorem mem_stripAll {ns : Namespace} {keys : List String} {k : String} :
    k ∈ stripAll ns keys ↔ ∃ key ∈ keys, ns.strip key = k := by
  rw [stripAll, mem_foldl_unseen]
  simp

theorem find?_reverse_collapse_step (acc : List StoredEntry) (e : StoredEntry) (k : String) :
    (if acc.any (·.key == e.key) then acc.map (fun x => if x.key == e.key then e else x) else acc ++ [e]).reverse.find?
        (·.key == k) = (acc ++ [e]).reverse.find? (·.key == k) := by
  split
  · rename_i seen
    -- rewriting entries in place keeps which entries a search by key stops at
    have pred : ((fun x : StoredEntry => x.key == k) ∘ fun x => if x.key == e.key then e else x) =
        fun x => x.key == k := by
      funext x
      by_cases h : x.key = e.key <;> simp [h]
    rw [← List.map_reverse, List.find?_map, pred, List.reverse_append, List.reverse_singleton,
      List.singleton_append, List.find?_cons]
    by_cases hk : e.key = k
    · subst hk
      obtain ⟨y, hy⟩ : ∃ y, acc.reverse.find? (·.key == e.key) = some y := by
        rw [← Option.isSome_iff_exists, List.find?_isSome]
        simpa using seen
      have hyk : y.key = e.key := by simpa using List.find?_some hy
      simp [hy, hyk]
    · have other : (e.key == k) = false := by simpa using hk
      cases hy : acc.reverse.find? (·.key == k) with
      | none => simp [other]
      | some y =>
        have hyk : y.key = k := by simpa using List.find?_some hy
        have hye : y.key ≠ e.key := fun h => hk (h ▸ hyk)
        simp [other, hye]
  · rfl

theorem find?_reverse_collapse (entries : List StoredEntry) (k : String) :
    (collapse entries).reverse.find? (·.key == k) = entries.reverse.find? (·.key == k) := by
  -- the entries collapsed so far end, for every key, in the entry written last
  suffices ∀ acc, (entries.foldl (fun acc e => if acc.any (·.key == e.key) then
      acc.map (fun x => if x.key == e.key then e else x) else acc ++ [e]) acc).reverse.find? (·.key == k) =
      (acc ++ entries).reverse.find? (·.key == k) from this []
  induction entries with
  | nil => simp
  | cons e entries ih =>
    intro acc
    rw [List.foldl_cons, ih, List.reverse_append, List.find?_append, find?_reverse_collapse_step,
      ← List.find?_append, ← List.reverse_append, List.append_assoc, List.singleton_append]

section Batches

variable (M : Contents) (ns : Namespace) (keys : List String)

theorem getMany_answers :
    keys.map (fun k => ((M.found ns.name (stripAll ns keys)).reverse.find? (·.1 == ns.strip k)).map (·.2)) =
      keys.map fun k => (M.lookup (ns.name, ns.strip k)).map (·.value) := by
  refine List.map_congr_left fun k hk => ?_
  rw [find?_reverse_found, if_pos (mem_stripAll.mpr ⟨k, hk, rfl⟩)]

theorem hasMany_answers :
    keys.map (fun k => (M.present ns.name (stripAll ns keys)).contains (ns.strip k)) =
      keys.map fun k => (M.lookup (ns.name, ns.strip k)).isSome := by
  refine List.map_congr_left fun k hk => ?_
  rw [contains_present, decide_eq_true (mem_stripAll.mpr ⟨k, hk, rfl⟩), Bool.true_and]

theorem deleteMany_answers :
    decide (0 < (M.deleteAll ns.name (stripAll ns keys)).1) = keys.any fun k => (M.lookup (ns.name, ns.strip k)).isSome := by
  rw [Bool.eq_iff_iff, decide_eq_true_iff, Contents.deleteAll_pos_iff, List.any_eq_true]
  constructor
  · rintro ⟨k, hk, held⟩
    obtain ⟨key, hkey, rfl⟩ := mem_stripAll.mp hk
    exact ⟨key, hkey, held⟩
  · rintro ⟨key, hkey, held⟩
    exact ⟨_, mem_stripAll.mpr ⟨key, hkey, rfl⟩, held⟩

theorem deleteMany_leaves :
    Contents.Same (M.deleteAll ns.name (stripAll ns keys)).2 (keys.foldl (fun M k => M.erase (ns.name, ns.strip k)) M) := by
  intro a
  rw [Contents.deleteAll_eq_foldl_erase, Contents.lookup_foldl_erase, Contents.lookup_foldl_erase]
  -- the keys sent and the keys asked erase the same addresses
  have erased : (∃ k ∈ stripAll ns keys, (ns.name, k) = a) ↔ ∃ key ∈ keys, (ns.name, ns.strip key) = a := by
    constructor
    · rintro ⟨k, hk, rfl⟩
      obtain ⟨key, hkey, rfl⟩ := mem_stripAll.mp hk
      exact ⟨key, hkey, rfl⟩
    · rintro ⟨key, hkey, rfl⟩
      exact ⟨_, mem_stripAll.mpr ⟨key, hkey, rfl⟩, rfl⟩
  simp only [erased]

end Batches

end Store

namespace Contents.Same

theorem upsert_collapse (M : Contents) (ns : String) (entries : List StoredEntry) :
    Same (M.upsert ns (Store.collapse entries)) (M.upsert ns entries) := by
  intro a
  rw [lookup_upsert, lookup_upsert, Store.find?_reverse_collapse]

end Contents.Same

/-- A batch write leaves what writing its entries one after another does: the value
written last stays at every address. -/
theorem Store.setMany_leaves (M : Contents) (ns : Namespace) (entries : List (String × Payload)) :
    Contents.Same (M.upsert ns.name (Store.collapse (entries.map fun (k, v) => StoredEntry.ofPayload (ns.strip k) v)))
      (entries.foldl (fun M (k, p) => M.insert (ns.name, ns.strip k) ⟨p.stored, p.expires⟩) M) := by
  refine (Contents.Same.upsert_collapse M ns.name _).trans ?_
  rw [Contents.upsert, List.foldl_map]
  exact Contents.Same.refl _

end KvStore
