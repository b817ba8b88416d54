import KvStore.Proofs.Backend.Metrics
import KvStore.Proofs.Pool.Registry
import KvStore.Proofs.Store.Gate

/-!
# What an expiry sweep leaves alone

An expiry sweep reads and writes entries through the backend, counts, logs and publishes,
and runs the bootstrap when it has not run; it never opens, closes or releases a pool, and
never closes the store. `StoreAct.Keeps v a` says that `a`, run from any state, whatever its
outcome, leaves the view `v` of the world and the store as it was; for `sweepView` (the
pools, the registry, the store's backend and its closed flag) it holds of the bootstrap, the
gate, every backend call behind it and the sweep (`clearExpired_keeps`).

So a store that was open on a registered pool before a sweep still is after it, and
disconnecting it then releases that pool: the pool is closed and no key is registered to
it any more (`disconnect_releases`).
-/

namespace KvStore

namespace World

def poolsView (w : World) : List Pool × List (PoolKey × Nat) := (w.pools, w.registry)

theorem poolsFrame : BackendFrame poolsView where
  setDatabase w id db := by
    unfold setDatabase
    split <;> rfl
  host _ _ := rfl
  record _ _ := rfl
  fresh _ := rfl

/-- The pool numbered `id` is closed and no key is registered to it any more. -/
def Released (w : World) (id : Nat) : Prop := (w.pool id).closed = true ∧ ∀ e ∈ w.registry, e.2 ≠ id

variable {w w' : World} {key : PoolKey} {id : Nat}

theorem Released.of_poolsView (h : w.Released id) (hv : w'.poolsView = w.poolsView) : w'.Released id := by
  obtain ⟨hp, hr⟩ := Prod.mk.inj hv
  refine ⟨?_, ?_⟩
  · rw [pool_eq_of_pools hp]
    exact h.1
  · rw [hr]
    exact h.2

theorem release_poolsView (hv : w'.poolsView = w.poolsView) (key : PoolKey) :
    (w'.release key).poolsView = (w.release key).poolsView := by
  obtain ⟨hp, hr⟩ := Prod.mk.inj hv
  unfold release
  rw [hr]
  split
  · exact hv
  · simp only [pool, setPool, poolsView, hp]
    -- both sides test the same pool for being closed
    split <;> simp_all

theorem RegistryInv.released (hi : w.RegistryInv) (hmem : (key, id) ∈ w.registry) :
    (w.release key).Released id := by
  refine ⟨hi.release_closes hmem, ?_⟩
  rintro ⟨k, i⟩ he rfl
  rw [registry_release, List.mem_filter] at he
  have hk : k = key := (hi.id_eq_iff he.1 hmem).1 rfl
  simp [hk] at he

end World

/-- What a sweep cannot change: the pools and the registry of the world, and the backend
and the closed flag of the store. -/
def sweepView (x : World × Store) : (List Pool × List (PoolKey × Nat)) × Backend × Bool :=
  (x.1.poolsView, x.2.backend, x.2.closed)

namespace StoreAct

variable {α β γ : Type} {v : World × Store → γ}

/-- Run from any state, whatever its outcome, the action leaves the view `v` as it was. -/
def Keeps (v : World × Store → γ) (a : StoreAct α) : Prop := ∀ x, v (a.run x).2 = v x

namespace Keeps

theorem pure (y : α) : Keeps v (pure y : StoreAct α) := fun _ => rfl

theorem throw (e : Error) : Keeps v (throw e : StoreAct α) := fun _ => rfl

theorem throw_bind (e : Error) (f : α → StoreAct β) : Keeps v ((MonadExcept.throw e : StoreAct α) >>= f) :=
  fun _ => rfl

theorem bind {a : StoreAct α} {f : α → StoreAct β} (ha : Keeps v a) (hf : ∀ y, Keeps v (f y)) :
    Keeps v (a >>= f) := by
  intro x
  rw [run_bind]
  have hx := ha x
  rcases hrun : a.run x with ⟨_ | y, x₁⟩ <;> rw [hrun] at hx
  · exact hx
  · exact (hf y x₁).trans hx

theorem get_bind {f : World × Store → StoreAct β} (hf : ∀ x, Keeps v (f x)) : Keeps v (get >>= f) :=
  fun x => hf x x

theorem store_bind {f : Store → StoreAct β} (hf : ∀ s, Keeps v (f s)) : Keeps v (store >>= f) :=
  fun x => hf x.2 x

theorem world_bind {f : World → StoreAct β} (hf : ∀ w, Keeps v (f w)) : Keeps v (world >>= f) :=
  fun x => hf x.1 x

theorem attempt {a : StoreAct α} (ha : Keeps v a) : Keeps v a.attempt := ha

theorem modifyStore {f : Store → Store} (hf : ∀ x : World × Store, v (x.1, f x.2) = v x) :
    Keeps v (modifyStore f) := hf

end Keeps

theorem keeps_lift {a : Act α} (ha : Act.Keeps World.poolsView a) : Keeps sweepView (lift a) := by
  intro x
  show ((a.run x.1).2.poolsView, x.2.backend, x.2.closed) = (x.1.poolsView, x.2.backend, x.2.closed)
  rw [ha x.1]

theorem keeps_log (level : LogLevel) (target message : String) (fields : List String) (span : Option LogSpan) :
    Keeps sweepView (lift (Act.log level target message fields span)) :=
  keeps_lift (Act.Keeps.log _ _ _ _ _ World.poolsFrame.record)

theorem keeps_count (name : String) (labels : List (String × String)) (n : Nat) :
    Keeps sweepView (lift (Act.count name labels n)) :=
  keeps_lift fun _ => rfl

theorem keeps_countOperation (backend operation status : String) :
    Keeps sweepView (lift (Act.countOperation backend operation status)) :=
  keeps_lift fun _ => rfl

end StoreAct

namespace Store

open StoreAct

theorem publish_keeps (e : StoreEvent) : Keeps sweepView (publish e) := by
  intro x
  obtain ⟨m, hrun⟩ := publish_run e x
  rw [hrun]
  rfl

theorem ensureOpen_keeps : Keeps sweepView ensureOpen := by
  intro x
  rw [ensureOpen_run]

theorem setClearExpiredInterval_keeps (interval : Option Nat) (inRuntime : Bool) :
    Keeps sweepView (setClearExpiredInterval interval inRuntime) := by
  unfold setClearExpiredInterval
  refine (Keeps.modifyStore fun _ => rfl).bind fun _ => ?_
  split
  · exact Keeps.pure _
  · exact Keeps.pure _
  · refine Keeps.get_bind fun x => ?_
    dsimp only
    split
    · exact Keeps.throw_bind _ _
    · split
      · exact (Keeps.modifyStore fun _ => rfl).bind fun _ => keeps_log _ _ _ _ _
      · exact Keeps.throw_bind _ _

theorem runBootstrap_keeps : Keeps sweepView runBootstrap := by
  unfold runBootstrap
  refine Keeps.store_bind fun s => ?_
  refine (Keeps.attempt (keeps_lift (Backend.keeps_bootstrap World.poolsFrame s.backend))).bind fun r => ?_
  refine (keeps_countOperation _ _ _).bind fun _ => ?_
  split
  · refine (keeps_log _ _ _ _ _).bind fun _ => (publish_keeps _).bind fun _ => ?_
    split
    · refine (Keeps.attempt (setClearExpiredInterval_keeps _ _)).bind fun r => ?_
      split
      · exact (keeps_log _ _ _ _ _).bind fun _ => Keeps.pure _
      · exact Keeps.pure _
    · exact Keeps.pure _
  · exact (keeps_log _ _ _ _ _).bind fun _ => (publish_keeps _).bind fun _ => Keeps.pure _

theorem ready_keeps : Keeps sweepView ready := by
  intro x
  cases hc : x.2.bootstrapped with
  | some r => rw [ready_of_cached hc]
  | none =>
    obtain ⟨r, x₁, hb, -⟩ := runBootstrap_succeeds x
    have hkeep := runBootstrap_keeps x
    rw [hb] at hkeep
    rw [ready_of_empty hc hb]
    exact hkeep

theorem gate_keeps : Keeps sweepView gate :=
  ensureOpen_keeps.bind fun _ => ready_keeps.bind fun _ => ensureOpen_keeps

section Run

variable {α : Type} {call : Backend → Act α}

theorem invoke_keeps (operation : String) (hcall : ∀ b, Act.Keeps World.poolsView (call b)) :
    Keeps sweepView (invoke operation call) := by
  unfold invoke
  refine Keeps.store_bind fun s => (Keeps.attempt (keeps_lift (hcall _))).bind fun r => ?_
  refine (keeps_countOperation _ _ _).bind fun _ => ?_
  split
  · exact Keeps.pure _
  · exact (keeps_log _ _ _ _ _).bind fun _ => Keeps.throw _

theorem run_keeps (operation : String) (hcall : ∀ b, Act.Keeps World.poolsView (call b)) :
    Keeps sweepView (run operation call) :=
  gate_keeps.bind fun _ => invoke_keeps operation hcall

end Run

/-- A sweep, whatever its outcome, leaves the pools, the registry, the store's backend and
its closed flag as they were. -/
theorem clearExpired_keeps : Keeps sweepView clearExpired := by
  unfold clearExpired
  refine Keeps.world_bind fun w => ?_
  refine (run_keeps _ fun b => Backend.keeps_clearExpired World.poolsFrame b _).bind fun removed => ?_
  refine Keeps.store_bind fun s => (keeps_count _ _ _).bind fun _ => ?_
  split
  · exact (keeps_log _ _ _ _ _).bind fun _ => (publish_keeps _).bind fun _ => Keeps.pure _
  · exact Keeps.pure _

/-- Disconnecting, from a state a sweep cannot tell apart from an open store on a
registered pool, releases that pool. -/
theorem disconnect_releases {w : World} {s : Store} {x : World × Store} {key : PoolKey}
    (hi : w.RegistryInv) (hmem : (key, s.backend.pool) ∈ w.registry) (hopen : s.closed = false)
    (hx : sweepView x = sweepView (w, s)) :
    ∃ x', disconnect.run x = (.ok (), x') ∧ x'.1.Released s.backend.pool := by
  obtain ⟨hview, hb, hclosed⟩ : x.1.poolsView = w.poolsView ∧ x.2.backend = s.backend ∧ x.2.closed = s.closed := by
    simpa [sweepView] using hx
  obtain ⟨w', s', hrun, hp, hr, -, -⟩ := disconnect_of_open (hclosed.trans hopen)
  refine ⟨(w', s'), hrun, ?_⟩
  -- the key released is read from the pool, which carries the key it is registered under
  have hkey : (x.1.pool x.2.backend.pool).key = key := by
    rw [hb, World.pool_eq_of_pools (Prod.mk.inj hview).1]
    exact hi.key_eq _ hmem
  rw [hkey] at hp hr
  have hw' : w'.poolsView = (w.release key).poolsView := by
    rw [← World.release_poolsView hview]
    simp only [World.poolsView, hp, hr]
  exact (hi.released hmem).of_poolsView hw'

end Store

end KvStore
