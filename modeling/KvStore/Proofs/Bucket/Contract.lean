import KvStore.Proofs.Bucket.Operations

/-!
The bucket layout meets the primitive contract of a backend: a sequence of calls, run on a
world whose bucket directory holds the layout of a map, answers as the map does
(`layout_meets_backend_contract`).

The conditions are those under which every call of the run keeps the layout: namespaces fit a
directory name, expiries fit 64 bits, the long keys named have distinct SHA-256 digests, so
that no two keys share a file name, and the clock and the counter of hidden names have room
for every file change of the run (`runTicks`).
-/

namespace KvStore

/-- The keys whose objects a call writes or reads back: those it writes, and those it asks for. -/
def Call.stamps : Call → String × String → Prop
  | .getMany ns keys, a => a.1 = ns ∧ a.2 ∈ keys
  | .upsertMany ns entries, a => a.1 = ns ∧ a.2 ∈ entries.map (·.key)
  | _, _ => False

namespace Bucket

open Act

variable {w : World} {l : Layout} {M : Contents} {ns k : String}

def callTicks : Call → Contents → Nat
  | .bootstrap, _ => 1
  | .getMany _ keys, _ => keys.length
  | .upsertMany _ entries, _ => 1 + 2 * entries.length
  | .hasMany _ _, _ => 0
  | .delete _ _, _ => 1
  | .deleteMany _ keys, _ => keys.length
  | .clearNamespace ns, M => (M.keysIn ns).length
  | .clearExpired now, M => 2 * (M.clearExpired now).1
  | .page _ _ _, _ => 0

def callFresh : Call → Contents → Nat
  | .upsertMany _ entries, _ => entries.length
  | .clearExpired now, M => (M.clearExpired now).1
  | _, _ => 0

theorem callFresh_le (c : Call) (M : Contents) : callFresh c M ≤ callTicks c M := by
  cases c <;> simp only [callFresh, callTicks] <;> omega

def runTicks : List Call → Contents → Nat
  | [], _ => 0
  | c :: cs, M => callTicks c M + runTicks cs (c.apply M).2

theorem nameFree_of_apart {K : List String}
    (hapart : ∀ k ∈ K, ∀ k' ∈ K, objectFileName k = objectFileName k' → k = k')
    (hheld : ∀ ns k, (M.lookup (ns, k)).isSome → k ∈ K) (hk : k ∈ K) : NameFree M ns k :=
  fun k' _ hs hname => hapart k' (hheld ns k' (by rw [hs]; rfl)) k hk hname

/-- A call answers as the contract does, under the conditions the layout needs: a
namespace that fits a directory name, expiries that fit 64 bits, keys whose names are
apart, and room on the clock and the name counter. Only the keys it writes or reads back
are stamped with a new time of last use. -/
theorem Keeps.perform {K : List String} (hk : Keeps l w M) (c : Call)
    (hapart : ∀ k ∈ K, ∀ k' ∈ K, objectFileName k = objectFileName k' → k = k')
    (hheld : ∀ ns k, (M.lookup (ns, k)).isSome → k ∈ K) (hkeys : ∀ k ∈ c.keys, k ∈ K)
    (hns : ∀ ns ∈ c.namespace?, ns.utf8ByteSize ≤ 126) (hfits : ∀ e ∈ c.entries, Fits ⟨e.value, e.expires⟩)
    (hclock : w.host.clock + 1000 * callTicks c M < 2 ^ 63 * 1000000)
    (hunique : w.unique + callTicks c M ≤ 10 ^ 249) :
    ∃ w', ((Backend.bucket l).perform c).Returns w (c.apply M).1 w' ∧ Keeps l w' (c.apply M).2 ∧
      Follows w w' (callTicks c M) (callFresh c M) ∧ Refreshes l w w' M (c.apply M).2 c.stamps := by
  cases c with
  | bootstrap =>
    obtain ⟨w', hrun, hk', hf, hr⟩ := hk.bootstrap
    exact ⟨w', hrun.bind (returns_pure _ _), hk', hf, hr⟩
  | getMany ns keys =>
    obtain ⟨w', hrun, hk', hf, hr⟩ := hk.getMany (hns ns rfl) keys
    exact ⟨w', hrun.map, hk', hf, hr⟩
  | upsertMany ns entries =>
    have hnamed : ∀ e ∈ entries, e.key ∈ K := fun e he => hkeys _ (List.mem_map_of_mem he)
    obtain ⟨w', hrun, hk', hf, hr⟩ := hk.upsertMany (hns ns rfl) entries hfits
      (fun e he => nameFree_of_apart hapart hheld (hnamed e he))
      (fun e he e' he' => hapart _ (hnamed e he) _ (hnamed e' he'))
      (by simp only [callTicks] at hclock; omega) (by simp only [callTicks] at hunique; omega)
    exact ⟨w', hrun.bind (returns_pure _ _), hk', hf, hr⟩
  | hasMany ns keys =>
    exact ⟨w, (hk.hasMany (hns ns rfl) keys fun k hk' => nameFree_of_apart hapart hheld (hkeys k hk')).map,
      hk, Follows.refl w, Refreshes.refl l w M⟩
  | delete ns key =>
    obtain ⟨w', hrun, hk', hf, hr⟩ :=
      hk.delete (hns ns rfl) (nameFree_of_apart hapart hheld (hkeys key (by simp [Call.keys])))
    exact ⟨w', hrun.map, hk', hf, hr⟩
  | deleteMany ns keys =>
    obtain ⟨w', hrun, hk', hf, hr⟩ := hk.deleteMany (hns ns rfl) keys
      fun k hk' => nameFree_of_apart hapart hheld (hkeys k hk')
    exact ⟨w', hrun.map, hk', hf, hr⟩
  | clearNamespace ns =>
    obtain ⟨w', hrun, hk', hf, hr⟩ := hk.clearNamespace (hns ns rfl)
    exact ⟨w', hrun.map, hk', hf, hr⟩
  | clearExpired now =>
    obtain ⟨w', hrun, hk', hf, hr⟩ := hk.clearExpired now (by simp only [callTicks] at hunique; omega)
    exact ⟨w', hrun.map, hk', hf, hr⟩
  | page ns cursor limit =>
    exact ⟨w, (hk.page (hns ns rfl) cursor limit).map, hk, Follows.refl w, Refreshes.refl l w M⟩

theorem held_apply (c : Call) {ns k : String} (h : ((c.apply M).2.lookup (ns, k)).isSome) :
    (M.lookup (ns, k)).isSome ∨ k ∈ c.keys := by
  obtain ⟨s, hs⟩ := Option.isSome_iff_exists.1 h
  have hsome : M.lookup (ns, k) = some s → (M.lookup (ns, k)).isSome ∨ k ∈ c.keys := fun hM => .inl (by rw [hM]; rfl)
  cases c with
  | upsertMany ns' entries =>
    rcases Contents.lookup_upsert_of_some hs with hM | ⟨e, he, hkey⟩
    · exact hsome hM
    · obtain rfl := (Prod.mk.inj hkey).2
      exact .inr (List.mem_map_of_mem he)
  | delete ns' key =>
    by_cases hkey : (ns, k) = (ns', key)
    · simp only [Call.apply] at hs
      rw [hkey, AList.lookup_erase] at hs
      cases hs
    · simp only [Call.apply] at hs
      rw [AList.lookup_erase_ne hkey] at hs
      exact hsome hs
  | deleteMany ns' keys => exact hsome (Contents.lookup_deleteAll_of_some hs)
  | clearNamespace ns' =>
    simp only [Call.apply, Contents.clearNamespace, Contents.lookup_filter, Option.filter_eq_some_iff] at hs
    exact hsome hs.1
  | clearExpired now =>
    simp only [Call.apply, Contents.clearExpired, Contents.lookup_filter, Option.filter_eq_some_iff] at hs
    exact hsome hs.1
  | bootstrap | getMany | hasMany | page => exact hsome hs

/-- Calls made one after another answer as the contract does, while the keys they name have
names apart and the clock and the name counter have room for every change. -/
theorem Keeps.performAll {K : List String} (hk : Keeps l w M) (calls : List Call)
    (hapart : ∀ k ∈ K, ∀ k' ∈ K, objectFileName k = objectFileName k' → k = k')
    (hheld : ∀ ns k, (M.lookup (ns, k)).isSome → k ∈ K) (hkeys : ∀ c ∈ calls, ∀ k ∈ c.keys, k ∈ K)
    (hns : ∀ c ∈ calls, ∀ ns ∈ c.namespace?, ns.utf8ByteSize ≤ 126)
    (hfits : ∀ c ∈ calls, ∀ e ∈ c.entries, Fits ⟨e.value, e.expires⟩)
    (hclock : w.host.clock + 1000 * runTicks calls M < 2 ^ 63 * 1000000)
    (hunique : w.unique + runTicks calls M ≤ 10 ^ 249) :
    ∃ w', ((Backend.bucket l).performAll calls).Returns w (Call.applyAll calls M).1 w' ∧
      Keeps l w' (Call.applyAll calls M).2 := by
  induction calls generalizing w M with
  | nil => exact ⟨w, returns_pure _ _, hk⟩
  | cons c cs ih =>
    simp only [runTicks] at hclock hunique
    obtain ⟨w₁, hrun, hk₁, hf, -⟩ := hk.perform c hapart hheld (hkeys c (by simp)) (hns c (by simp))
      (hfits c (by simp)) (by omega) (by omega)
    have hfresh := callFresh_le c M
    have hclock₁ := hf.clock
    have hunique₁ := hf.unique
    -- the keys held after the call are still named
    obtain ⟨w', hrest, hk'⟩ := ih hk₁
      (fun ns k h => (held_apply c h).elim (hheld ns k) (hkeys c (by simp) k))
      (fun c' hc' => hkeys c' (by simp [hc'])) (fun c' hc' => hns c' (by simp [hc']))
      (fun c' hc' => hfits c' (by simp [hc'])) (by omega) (by omega)
    refine ⟨w', ?_, hk'⟩
    unfold Backend.performAll at hrest ⊢
    rw [List.mapM_cons]
    exact hrun.bind (hrest.bind (returns_pure _ _))

theorem objectFileName_apart {K : List String}
    (hdigests : ∀ k ∈ K, ∀ k' ∈ K, 125 < k.utf8ByteSize → 125 < k'.utf8ByteSize →
      Sha256.digest k.toUTF8.toList = Sha256.digest k'.toUTF8.toList → k = k') :
    ∀ k ∈ K, ∀ k' ∈ K, objectFileName k = objectFileName k' → k = k' := by
  intro k hk k' hk' hname
  rcases objectFileName_eq hname with h | ⟨h₁, h₂, hhex⟩
  · exact h
  · refine hdigests k hk k' hk' h₁ h₂ ?_
    have hdec := congrArg Hex.decode hhex
    rwa [Sha256.hexDigest, Sha256.hexDigest, Hex.decode_encodeBytes, Hex.decode_encodeBytes, Option.some.injEq] at hdec

theorem key_mem_of_held {ns k : String} (hheld : (M.lookup (ns, k)).isSome) : k ∈ M.entries.map (·.1.2) := by
  obtain ⟨e, he⟩ := List.mem_keys.1 (AList.mem_keys.2 (AList.lookup_isSome.1 hheld))
  exact List.mem_map.2 ⟨⟨(ns, k), e⟩, he, rfl⟩

/-- The bucket layout meets the primitive contract of a backend. Run from a world whose
bucket directory holds exactly the layout of `M`, any sequence of calls answers as the
abstract map does and leaves the layout of the map's final contents, provided every
namespace fits a directory name, every expiry fits 64 bits, no two long keys of the map or
of the calls share a SHA-256 digest, and the clock and the name counter stay in range. -/
theorem layout_meets_backend_contract (l : Layout) (w : World) (M : Contents) (calls : List Call)
    (hk : Keeps l w M) (hns : ∀ c ∈ calls, ∀ ns ∈ c.namespace?, ns.utf8ByteSize ≤ 126)
    (hfits : ∀ c ∈ calls, ∀ e ∈ c.entries, ∀ x ∈ e.expires, InI64 x)
    (hdigests : ∀ k ∈ M.entries.map (·.1.2) ++ calls.flatMap Call.keys,
      ∀ k' ∈ M.entries.map (·.1.2) ++ calls.flatMap Call.keys,
      125 < k.utf8ByteSize → 125 < k'.utf8ByteSize →
      Sha256.digest k.toUTF8.toList = Sha256.digest k'.toUTF8.toList → k = k')
    (hclock : w.host.clock + 1000 * runTicks calls M < 2 ^ 63 * 1000000)
    (hunique : w.unique + runTicks calls M ≤ 10 ^ 249) :
    ∃ w', ((Backend.bucket l).performAll calls).Returns w (Call.applyAll calls M).1 w' ∧
      Keeps l w' (Call.applyAll calls M).2 := by
  refine hk.performAll calls (objectFileName_apart hdigests) (fun ns k hheld => ?_)
    (fun c hc k hk => List.mem_append_right _ (List.mem_flatMap.2 ⟨c, hc, hk⟩)) hns hfits hclock hunique
  obtain ⟨e, he⟩ := List.mem_keys.1 (AList.mem_keys.2 (AList.lookup_isSome.1 hheld))
  exact List.mem_append_left _ (List.mem_map.2 ⟨⟨(ns, k), e⟩, he, rfl⟩)

def freshWorld : World where
  host := { files := ⟨[(["b"], .dir)]⟩ }

def freshLayout : Layout := { pool := 0, bucket := "b", bucketDir := "/b" }

def sampleCalls : List Call :=
  [.bootstrap, .upsertMany "ns" [⟨"a", "1", none⟩, ⟨"b", "2", some 5⟩, ⟨"c", "3", none⟩],
    .getMany "ns" ["a", "z", "b"], .hasMany "ns" ["c", "z"], .delete "ns" "a", .deleteMany "ns" ["a", "c", "c"],
    .upsertMany "other" [⟨"x", "4", some 20⟩], .clearExpired 10, .page "ns" none 10, .page "other" none 1,
    .clearNamespace "other"]

theorem layout_meets_contract_on_sample :
    Keeps freshLayout freshWorld ∅ ∧
      ∃ w', ((Backend.bucket freshLayout).performAll sampleCalls).Returns freshWorld
        (Call.applyAll sampleCalls ∅).1 w' ∧ Keeps freshLayout w' (Call.applyAll sampleCalls ∅).2 := by
  have hk : Keeps freshLayout freshWorld ∅ := by
    refine ⟨rfl, Holds.fresh (by unfold FileTree.WellFormed; decide) ?_ fun q hq => ?_⟩
    · rw [show freshWorld.host.resolve freshLayout.bucketDir = ["b"] by decide +kernel]
      rfl
    · rw [show freshWorld.host.resolve freshLayout.bucketDir = ["b"] by decide +kernel]
      simp [freshWorld, FileTree.find?, hq]
  exact ⟨hk, layout_meets_backend_contract freshLayout freshWorld ∅ sampleCalls hk (by decide) (by decide)
    (by decide) (by decide) (by decide)⟩

end Bucket

end KvStore
