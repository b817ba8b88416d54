import KvStore.Proofs.Bucket.Contract

/-!
The bucket layout meets the budgeted contract of a backend (`Backend.Contract`) for a store
that works in one namespace over a known list of keys (`storeContract`).

What the bucket holds is the layout of a map whose entries all lie in the store's
namespace under keys of the list, with room on the clock and on the counter of hidden names
(`StoreHolds`). Keys of at most 125 bytes are file names of their own, so no two keys share
an object. A call costs its file changes; a sweep is charged for every key of the list,
which bounds the entries it can remove (`callTicks_le_storeCost`).
-/

namespace KvStore

namespace Bucket

variable {M : Contents}

theorem lookup_apply_of_some (c : Call) {a : String × String} {s : Stored} (h : (c.apply M).2.lookup a = some s) :
    M.lookup a = some s ∨ a.1 ∈ c.namespace? := by
  cases c with
  | upsertMany ns entries =>
    rcases Contents.lookup_upsert_of_some h with hM | ⟨e, -, rfl⟩
    · exact .inl hM
    · exact .inr rfl
  | delete ns key =>
    simp only [Call.apply] at h
    by_cases ha : a = (ns, key)
    · rw [ha, AList.lookup_erase] at h
      cases h
    · exact .inl (by rwa [AList.lookup_erase_ne ha] at h)
  | deleteMany ns keys => exact .inl (Contents.lookup_deleteAll_of_some h)
  | clearNamespace ns =>
    simp only [Call.apply, Contents.clearNamespace, Contents.lookup_filter, Option.filter_eq_some_iff] at h
    exact .inl h.1
  | clearExpired now =>
    simp only [Call.apply, Contents.clearExpired, Contents.lookup_filter, Option.filter_eq_some_iff] at h
    exact .inl h.1
  | bootstrap | getMany | hasMany | page => exact .inl h

variable (l : Layout) (ns : String) (K : List String)

/-- The bucket directory holds the layout of `M`, whose entries all lie in the namespace `ns`
under keys of `K`, and the clock and the name counter have room for `n` more file changes. -/
structure StoreHolds (n : Nat) (w : World) (M : Contents) : Prop where
  keeps : Keeps l w M
  held : ∀ a, (M.lookup a).isSome → a.1 = ns ∧ a.2 ∈ K
  clock : w.host.clock + 1000 * n < 2 ^ 63 * 1000000
  unique : w.unique + n ≤ 10 ^ 249

/-- What a call may cost: its file changes, with a sweep charged for every key of `K`. -/
def storeCost : Call → Nat
  | .clearNamespace _ => K.length
  | .clearExpired _ => 2 * K.length
  | c => callTicks c ∅

/-- The calls a store in `ns` makes over keys of `K`: in the namespace `ns`, on keys of `K`,
with expiries that fit 64 bits. -/
structure StoreAllows (c : Call) : Prop where
  inNamespace : ∀ ns' ∈ c.namespace?, ns' = ns
  keys : ∀ k ∈ c.keys, k ∈ K
  fits : ∀ e ∈ c.entries, ∀ x ∈ e.expires, InI64 x

instance (c : Call) : Decidable (StoreAllows ns K c) :=
  decidable_of_iff (_ ∧ _ ∧ _) ⟨fun ⟨a, b, c⟩ => ⟨a, b, c⟩, fun ⟨a, b, c⟩ => ⟨a, b, c⟩⟩

variable {ns K}

theorem length_le_of_held (held : ∀ a, (M.lookup a).isSome → a.1 = ns ∧ a.2 ∈ K) : M.entries.length ≤ K.length := by
  have sub : M.keys ⊆ K.map (ns, ·) := by
    intro a ha
    obtain ⟨hns, hk⟩ := held a (AList.lookup_isSome.2 (AList.mem_keys.1 ha))
    exact List.mem_map.2 ⟨a.2, hk, by rw [← hns]⟩
  simpa [AList.keys, List.keys] using (AList.keys_nodup M).length_le_of_subset sub

theorem callTicks_le_storeCost (c : Call) (held : ∀ a, (M.lookup a).isSome → a.1 = ns ∧ a.2 ∈ K) :
    callTicks c M ≤ storeCost K c := by
  have bound := length_le_of_held held
  cases c with
  | clearNamespace ns' =>
    have cleared : (M.keysIn ns').length ≤ M.entries.length := by
      simp only [Contents.keysIn, List.length_map]
      exact List.length_filter_le _ _
    simp only [callTicks, storeCost]
    omega
  | clearExpired now =>
    have swept : (M.clearExpired now).1 ≤ M.entries.length := List.length_filter_le _ _
    simp only [callTicks, storeCost]
    omega
  | _ => exact le_refl _

variable (ns K)

/-- The bucket meets the budgeted contract for a store in the namespace `ns`, which fits a
directory name, over keys of `K`, which are short enough to be file names of their own. -/
def storeContract (hns : ns.utf8ByteSize ≤ 126) (hK : ∀ k ∈ K, k.utf8ByteSize ≤ 125) :
    (Backend.bucket l).Contract where
  holds := StoreHolds l ns K
  cost := storeCost K
  allows := StoreAllows ns K
  meets c n w M allowed room := by
    have ticks := callTicks_le_storeCost c room.held
    have fresh := callFresh_le c M
    have apart : ∀ k ∈ K, ∀ k' ∈ K, objectFileName k = objectFileName k' → k = k' := fun k hk k' _ hname =>
      (objectFileName_eq hname).resolve_right fun ⟨long, _⟩ => by have := hK k hk; omega
    have clock := room.clock
    have unique := room.unique
    obtain ⟨w', ret, keeps, follows, -⟩ := room.keeps.perform c apart (fun _ _ h => (room.held _ h).2) allowed.keys
      (fun ns' h => allowed.inNamespace ns' h ▸ hns) allowed.fits (by omega) (by omega)
    have clock' := follows.clock
    have unique' := follows.unique
    refine ⟨w', ret, keeps, fun a h => ⟨?_, ?_⟩, by omega, by omega⟩
    -- an entry left by the call was there before, or the call wrote it in its namespace and key
    · obtain ⟨s, hs⟩ := Option.isSome_iff_exists.1 h
      rcases lookup_apply_of_some c hs with hM | hc
      · exact (room.held a (by rw [hM]; rfl)).1
      · exact allowed.inNamespace _ hc
    · rcases held_apply c h with hM | hc
      · exact (room.held a hM).2
      · exact allowed.keys _ hc
  shrink n k w M h := ⟨h.keeps, h.held, by have := h.clock; omega, by have := h.unique; omega⟩
  bookkeeping n w M metrics log h := ⟨⟨h.keeps.poolOpen, h.keeps.holds⟩, h.held, h.clock, h.unique⟩
  poolOpen n w M h := h.keeps.poolOpen

section Unfold

variable {ns K} {hns : ns.utf8ByteSize ≤ 126} {hK : ∀ k ∈ K, k.utf8ByteSize ≤ 125}

@[simp] theorem storeContract_allows : (storeContract l ns K hns hK).allows = StoreAllows ns K := rfl

@[simp] theorem storeContract_cost : (storeContract l ns K hns hK).cost = storeCost K := rfl

end Unfold

theorem keeps_fresh : Keeps freshLayout freshWorld ∅ := by
  refine ⟨rfl, Holds.fresh (by unfold FileTree.WellFormed; decide) ?_ fun q hq => ?_⟩
  · rw [show freshWorld.host.resolve freshLayout.bucketDir = ["b"] by decide +kernel]
    rfl
  · rw [show freshWorld.host.resolve freshLayout.bucketDir = ["b"] by decide +kernel]
    simp [freshWorld, FileTree.find?, hq]

end Bucket

end KvStore
