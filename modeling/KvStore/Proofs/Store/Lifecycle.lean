import KvStore.Proofs.Store.Gate
import KvStore.Proofs.Pool.Registry

/-!
A store over any run of events: its own calls, waiting for its bootstrap, disconnecting
it or another store, which may share its pool, and the registry releasing pools.

No event moves the store's own state back (`GateEvent.later`): a cached bootstrap
outcome is never replaced, so the bootstrap runs at most once, and a closed store stays
closed. A store whose pool is closed stays so as well (`GateEvent.shut`), provided no
closed pool holds a SQLite connection, which every run of the pool registry keeps
(`World.Drained.applyAll`): waiting for the bootstrap there runs a bootstrap that fails at
once. `store_gate_keeps_contract` gathers what the gate then promises at every state of the
run.
-/

namespace KvStore

namespace World

def Drained (w : World) : Prop := ∀ id l, (w.pool id).closed = true → (w.pool id).connection ≠ .sqlite (some l)

theorem close_ne_sqlite (c : PoolConnection) (l : SqliteLink) : c.close ≠ .sqlite (some l) := by
  cases c <;> simp [PoolConnection.close]

variable {w w' : World}

theorem Drained.of_pools (hd : w.Drained) (h : w'.pools = w.pools) : w'.Drained := by
  intro i l
  rw [pool_eq_of_pools h]
  exact hd i l

theorem Drained.release (hd : w.Drained) (key : PoolKey) : (w.release key).Drained := by
  intro i l hc
  rcases pool_release w key i with h | h <;> rw [h] at hc ⊢
  · exact hd i l hc
  · exact close_ne_sqlite _ _

theorem Drained.append_open {p : Pool} (hd : w.Drained) (h : w'.pools = w.pools ++ [p]) (hp : p.closed = false) :
    w'.Drained := by
  intro i l hc
  rcases Nat.lt_trichotomy i w.pools.length with hi | rfl | hi
  · rw [RegistryInv.pool_of_append h hi] at hc ⊢
    exact hd i l hc
  · rw [RegistryInv.pool_of_append_self h, hp] at hc
    cases hc
  · -- past the end the pool is the default one, which is open
    have hnone : w'.pools[i]? = none := List.getElem?_eq_none (by rw [h, List.length_append, List.length_singleton]; omega)
    rw [pool, hnone] at hc
    cases hc

theorem Drained.acquire (hd : w.Drained) (c : StoreConfig) : ((acquirePool c).run w).2.Drained := by
  cases hk : c.backendKind with
  | error e => rw [acquirePool_of_kind_error hk]; exact hd
  | ok kind =>
    cases hv : c.pool.validate kind with
    | error e => rw [acquirePool_of_invalid hk hv]; exact hd
    | ok u =>
      cases hfind : w.registry.find? (·.1 == c.poolKey) with
      | some e => rw [acquirePool_of_registered hk hv hfind]; exact hd
      | none =>
        -- opening the connection leaves the pools as they were
        have hframe := openConnection_preserves kind c w
        rcases hopen : (openConnection kind c).run w with ⟨e | conn, w₁⟩
        all_goals simp only [Act.Preserves, hopen, poolPart, Prod.mk.injEq] at hframe
        · rw [acquirePool_of_open_error hk hv hfind hopen]
          exact hd.of_pools hframe.1
        · obtain ⟨w₂, hrun, hp, -⟩ := acquirePool_of_opened hk hv hfind hopen
          rw [hrun]
          exact (hd.of_pools hframe.1).append_open hp rfl

theorem Drained.applyAll (calls : List PoolCall) (hd : w.Drained) : (PoolCall.applyAll calls w).Drained := by
  induction calls generalizing w with
  | nil => exact hd
  | cons call calls ih =>
    apply ih
    cases call with
    | acquire c => exact hd.acquire c
    | release key => exact hd.release key
    | releaseAll => exact releaseAll_induction (fun _ key h => h.release key) hd

theorem default_drained : (default : World).Drained := fun _ _ h => nomatch h

theorem drained_after_registry_calls (calls : List PoolCall) : (PoolCall.applyAll calls default).Drained :=
  Drained.applyAll calls default_drained

end World

/-- On a closed pool every backend's bootstrap fails at once with `disconnected`,
touching nothing: a SQLite pool holds no connection any more, and the others check the
flag. -/
theorem Backend.bootstrap_of_closed {b : Backend} {w : World} (hc : (w.pool b.pool).closed = true) (hd : w.Drained) :
    b.bootstrap.run w = (.error .disconnected, w) := by
  cases b with
  | sqlite b =>
    have hlink : b.link.run w = (.error .disconnected, w) := by
      unfold Sqlite.SqliteBackend.link
      rw [Act.run_bind, Act.run_get]
      dsimp only
      split
      · rename_i l hl
        exact absurd hl (hd b.pool l hc)
      · rfl
    simp only [Backend.bootstrap, Sqlite.SqliteBackend.bootstrap, Act.run_bind, hlink]
  | bucket l =>
    simp only [Backend.pool] at hc
    simp only [Backend.bootstrap, Bucket.Layout.bootstrap, Bucket.Layout.ensureOpen, Act.run_bind, Act.run_get, hc,
      if_true]
    rfl
  | postgres b =>
    simp only [Backend.pool] at hc
    simp only [Backend.bootstrap, Postgres.PostgresBackend.bootstrap, Postgres.PostgresBackend.connection,
      Act.run_bind, Act.run_get, hc, if_true]
    rfl

namespace Store

open StoreAct

variable {x x' : World × Store}

section Shut

def Shut (x : World × Store) : Prop := (x.1.pool x.2.backend.pool).closed = true ∧ x.1.Drained

theorem Shut.isClosed (h : Shut x) : isClosed x.1 x.2 = true := by
  simp [Store.isClosed, h.1]

theorem Shut.of_pools (h : Shut x) (hp : x'.1.pools = x.1.pools) (hb : x'.2.backend = x.2.backend) : Shut x' := by
  refine ⟨?_, h.2.of_pools hp⟩
  rw [hb, World.pool_eq_of_pools hp]
  exact h.1

theorem Shut.release (h : Shut x) (key : PoolKey) : Shut (x.1.release key, x.2) :=
  ⟨World.closed_release h.1 key, h.2.release key⟩

theorem Shut.releaseAll (h : Shut x) : Shut (x.1.releaseAll, x.2) :=
  World.releaseAll_induction (P := fun w => Shut (w, x.2)) (fun _ key hw => hw.release key) h

theorem runBootstrap_of_shut (h : Shut x) :
    ∃ x₁, runBootstrap.run x = (.ok (.error Error.disconnected.message), x₁) ∧ x₁.1.pools = x.1.pools ∧
      x.2.Later x₁.2 := by
  have hb := Backend.bootstrap_of_closed h.1 h.2
  simp only [runBootstrap, run_bind, run_store, run_attempt, run_lift, hb, Act.run_countOperation, Act.run_log]
  obtain ⟨m, hp⟩ := publish_run (.error x.2.backend.name "bootstrap" Error.disconnected.message) _
  rw [hp]
  exact ⟨_, rfl, rfl, Later.of_gate rfl rfl rfl⟩

theorem Shut.ready (h : Shut x) : Shut (ready.run x).2 := by
  cases hc : x.2.bootstrapped with
  | some r =>
    rw [ready_of_cached hc]
    exact h
  | none =>
    obtain ⟨x₁, hb, hp, hl⟩ := runBootstrap_of_shut h
    rw [ready_of_empty hc hb]
    exact h.of_pools hp hl.backend

theorem Shut.disconnect (h : Shut x) (t : Store) : Shut ((disconnect.run (x.1, t)).2.1, x.2) := by
  cases hc : t.closed
  · obtain ⟨w', s', hrun, hp, -⟩ := disconnect_of_open (x := (x.1, t)) hc
    rw [hrun]
    exact (h.release _).of_pools hp rfl
  · rw [disconnect_of_closed (x := (x.1, t)) hc]
    exact h

end Shut

section Registry

/-- Disconnecting releases the key of the store's pool, so when every entry under that key
holds the store's own pool, it closes and evicts nothing else. -/
theorem disconnect_closes_only_own_pool (hopen : x.2.closed = false)
    (hown : ∀ e ∈ x.1.registry, e.1 = (x.1.pool x.2.backend.pool).key → e.2 = x.2.backend.pool) :
    (∀ e ∈ x.1.registry, e ∉ (disconnect.run x).2.1.registry → e.2 = x.2.backend.pool) ∧
      ∀ i, i ≠ x.2.backend.pool → (disconnect.run x).2.1.pool i = x.1.pool i := by
  obtain ⟨w', s', hrun, hp, hr, -⟩ := disconnect_of_open hopen
  rw [hrun]
  refine ⟨fun e he hout => hown e he ?_, fun i hi => ?_⟩
  · -- an evicted entry was filtered out, so it is under the released key
    rw [hr, World.registry_release] at hout
    by_cases hk : e.1 = (x.1.pool x.2.backend.pool).key
    · exact hk
    · exact absurd (List.mem_filter.2 ⟨he, by simpa using hk⟩) hout
  · rw [World.pool_eq_of_pools hp]
    exact World.pool_release_of_unregistered fun e he hk => (hown e he hk).symm ▸ hi.symm

theorem disconnect_closes_only_own_pool_once_registered :
    let key : PoolKey := { uri := "sqlite::memory:", options := "" }
    let x : World × Store := ({ (default : World) with
      pools := [{ key, connection := .sqlite (some default) }], registry := [(key, 0)] }, default)
    x.2.closed = false ∧ (∀ e ∈ x.1.registry, e.1 = (x.1.pool x.2.backend.pool).key → e.2 = x.2.backend.pool) ∧
      (∀ e ∈ x.1.registry, e ∉ (disconnect.run x).2.1.registry → e.2 = x.2.backend.pool) ∧
        ∀ i, i ≠ x.2.backend.pool → (disconnect.run x).2.1.pool i = x.1.pool i :=
  ⟨rfl, by decide, disconnect_closes_only_own_pool rfl (by decide)⟩

/-- A store whose pool was released, disconnected, closes and evicts the newer pool
registered under the same key. -/
theorem stale_disconnect_closes_newer_pool :
    let key : PoolKey := { uri := "sqlite::memory:", options := "" }
    let x : World × Store := ({ (default : World) with
      pools := [{ key, connection := .sqlite none, closed := true }, { key, connection := .sqlite (some default) }],
      registry := [(key, 1)] }, default)
    (x.1.pool 1).closed = false ∧ ((disconnect.run x).2.1.pool 1).closed = true ∧
      (disconnect.run x).2.1.registry = [] := by
  decide

end Registry

/-- What can happen to a store between two of its calls: one of its calls, waiting for
its bootstrap, disconnecting it, disconnecting another store, which may share its pool,
and the registry releasing a pool or every pool. -/
inductive GateEvent where
  | call (o : Request)
  | ready
  | disconnect
  | disconnectOther (other : Store)
  | release (key : PoolKey)
  | releaseAll

namespace GateEvent

def apply : GateEvent → World × Store → World × Store
  | .call o, x => (o.perform.run x).2
  | .ready, x => (Store.ready.run x).2
  | .disconnect, x => (Store.disconnect.run x).2
  | .disconnectOther t, x => ((Store.disconnect.run (x.1, t)).2.1, x.2)
  | .release key, x => (x.1.release key, x.2)
  | .releaseAll, x => (x.1.releaseAll, x.2)

def applyAll (events : List GateEvent) (x : World × Store) : World × Store :=
  events.foldl (fun x e => e.apply x) x

theorem later (e : GateEvent) (x : World × Store) : x.2.Later (e.apply x).2 := by
  cases e with
  | call o => exact o.perform_advances x
  | ready => exact ready_advances x
  | disconnect => exact disconnect_advances x
  | disconnectOther | release | releaseAll => exact .refl _

theorem shut (e : GateEvent) (h : Shut x) : Shut (e.apply x) := by
  cases e with
  | call o =>
    rw [apply, Request.perform_of_closed h.isClosed]
    exact h
  | ready => exact h.ready
  | disconnect => exact (h.disconnect x.2).of_pools rfl (disconnect_advances x).backend
  | disconnectOther t => exact h.disconnect t
  | release key => exact h.release key
  | releaseAll => exact h.releaseAll

theorem applyAll_later (events : List GateEvent) (x : World × Store) : x.2.Later (applyAll events x).2 := by
  induction events generalizing x with
  | nil => exact .refl _
  | cons e events ih => exact (e.later x).trans (ih (e.apply x))

theorem applyAll_shut (events : List GateEvent) (h : Shut x) : Shut (applyAll events x) := by
  induction events generalizing x with
  | nil => exact h
  | cons e events ih => exact ih (e.shut h)

end GateEvent

/-- What a store promises at a state `y` reached from `x`. -/
structure GateContract (x y : World × Store) : Prop where
  /-- A backend call is made only on an open store whose bootstrap succeeded. -/
  gated : ∀ {α : Type} (operation : String) (call : Backend → Act α),
    (∃ e y', gate.run y = (.error e, y') ∧ (run operation call).run y = (.error e, y')) ∨
      ∃ y', gate.run y = (.ok (), y') ∧ isClosed y'.1 y'.2 = false ∧ y'.2.bootstrapped = some (.ok ()) ∧
        (run operation call).run y = (invoke operation call).run y'
  /-- A cached outcome is never replaced, and with one cached the bootstrap does not run:
  waiting reports it, on a closed store too, and the gate of an open store reports it. -/
  cached : ∀ r, x.2.bootstrapped = some r → y.2.bootstrapped = some r
  ready_cached : ∀ r, y.2.bootstrapped = some r → ready.run y = (bootstrapOutcome r, y)
  gate_cached : ∀ r, isClosed y.1 y.2 = false → y.2.bootstrapped = some r → gate.run y = (bootstrapOutcome r, y)
  fresh : y.2.bootstrapped = none → ∃ r y₁, runBootstrap.run y = (.ok r, y₁) ∧
    ready.run y = (bootstrapOutcome r, (y₁.1, { y₁.2 with bootstrapped := some r }))
  /-- On an open store whose bootstrap failed, every gated call fails with its error. -/
  failed : ∀ m, isClosed y.1 y.2 = false → y.2.bootstrapped = some (.error m) →
    ∀ o : Request, o.gated = true → o.perform.run y = (.error (.bootstrap m), y)
  /-- On a closed store or pool every call fails with `disconnected`, whatever is cached,
  and changes nothing; a closed store stays closed, and so does a shut one's pool. -/
  disconnected : isClosed y.1 y.2 = true → ∀ o : Request, o.perform.run y = (.error .disconnected, y)
  stays_closed : x.2.closed = true → y.2.closed = true
  stays_shut : Shut x → Shut y
  /-- On an open store the batch calls given nothing answer at once. -/
  empty : isClosed y.1 y.2 = false →
    (Request.getMany []).perform.run y = (.ok (.values []), y) ∧
      (Request.hasMany []).perform.run y = (.ok (.flags []), y) ∧
      (Request.deleteMany []).perform.run y = (.ok (.flag false), y) ∧
      (Request.setMany []).perform.run y = (.ok .done, y)
  disconnect_ok : ∃ y', disconnect.run y = (.ok (), y')

theorem store_gate_keeps_contract (x : World × Store) (events : List GateEvent) :
    GateContract x (GateEvent.applyAll events x) where
  gated operation call := run_cases operation call _
  cached r h := (GateEvent.applyAll_later events x).cached r h
  ready_cached _ h := ready_of_cached h
  gate_cached _ hopen h := gate_of_cached hopen h
  fresh h := by
    obtain ⟨r, y₁, hb, -⟩ := runBootstrap_succeeds (GateEvent.applyAll events x)
    exact ⟨r, y₁, hb, ready_of_empty h hb⟩
  failed _ hopen h o hg := o.perform_of_failed hopen h hg
  disconnected h o := o.perform_of_closed h
  stays_closed h := (GateEvent.applyAll_later events x).closed h
  stays_shut h := GateEvent.applyAll_shut events h
  empty hopen := Request.perform_of_empty hopen
  disconnect_ok := by
    cases hc : (GateEvent.applyAll events x).2.closed
    · obtain ⟨w', s', hrun, -⟩ := disconnect_of_open hc
      exact ⟨_, hrun⟩
    · exact ⟨_, disconnect_of_closed hc⟩

theorem store_gate_contract_after_disconnect :
    GateContract ((default : World), default)
      (GateEvent.applyAll [.ready, .disconnect, .call (.get "k"), .ready] ((default : World), default)) :=
  store_gate_keeps_contract _ _

/-- A store disconnected after its bootstrap succeeded still reports that success when
waited for: the cached outcome is read before the store is checked. -/
theorem ready_reports_success_after_disconnect :
    let y := GateEvent.applyAll [.disconnect] ((default : World), { (default : Store) with bootstrapped := some (.ok ()) })
    isClosed y.1 y.2 = true ∧ ready.run y = (.ok (), y) :=
  ⟨rfl, ready_of_cached (r := .ok ()) rfl⟩

end Store

end KvStore
