import KvStore.Proofs.Store.Runs
import KvStore.Proofs.Store.Steps

/-!
The gate in front of a store's backend calls.

A backend call runs behind `gate`: the store must be open, the bootstrap must have
succeeded (it runs there if it has not run), and the store must still be open. The
bootstrap's outcome is cached in the store, so with an outcome cached the gate reads it and
changes nothing (`gate_of_cached`), and a call passes the gate only on an open store
whose bootstrap succeeded (`gate_ok`, `run_cases`).

`Request` lists the calls a store answers through the gate. On a closed store, or a store
whose pool is closed, every one of them fails with `disconnected` and changes nothing,
whatever the cached outcome (`perform_of_closed`); on an open store whose bootstrap failed,
every one that reaches the gate fails with the bootstrap's error (`perform_of_failed`);
the batch calls given nothing answer at once (`perform_of_empty`). Waiting for the
bootstrap with `ready` reads the cached outcome before anything else, so it reports it on
a closed store too (`ready_of_cached`).
-/

namespace KvStore

namespace Store

open StoreAct

variable {x x₁ x' : World × Store} {r : Except String Unit}

section Effects

theorem publish_run (e : StoreEvent) (x : World × Store) :
    ∃ m, (publish e).run x = (.ok (), ({ x.1 with metrics := m }, { x.2 with bus := (x.2.bus.publish e).1 })) := by
  simp only [publish, run_bind, run_store, run_modifyStore, run_lift, Act.run_count]
  split
  · exact ⟨_, rfl⟩
  · exact ⟨_, rfl⟩

theorem publish_succeeds (e : StoreEvent) (x : World × Store) : (publish e).Succeeds x := by
  obtain ⟨m, h⟩ := publish_run e x
  exact ⟨(), _, h, Later.of_gate rfl rfl rfl⟩

theorem log_succeeds (level : LogLevel) (target message : String) (fields : List String) (span : Option LogSpan)
    (x : World × Store) : (lift (Act.log level target message fields span)).Succeeds x :=
  succeeds_lift (Act.run_log _ _ _ _ _ _)

theorem setClearExpiredInterval_advances (interval : Option Nat) (inRuntime : Bool) (x : World × Store) :
    (setClearExpiredInterval interval inRuntime).Advances x := by
  unfold setClearExpiredInterval
  refine Advances.bind (advances_modifyStore (Later.of_gate rfl rfl rfl)) fun _ x₁ _ => ?_
  split
  · exact advances_pure _ _
  · exact advances_pure _ _
  · apply advances_get_bind
    dsimp only
    split
    · exact advances_throw_bind _ _ _
    · split
      · exact Advances.bind (advances_modifyStore (Later.of_gate rfl rfl rfl)) fun _ _ _ => advances_lift _ _
      · exact advances_throw_bind _ _ _

/-- The bootstrap's run never fails: a failed bootstrap is logged, published and returned
as its text, and a reaper that cannot start is only logged. -/
theorem runBootstrap_succeeds (x : World × Store) : runBootstrap.Succeeds x := by
  unfold runBootstrap
  apply succeeds_store_bind
  refine Succeeds.bind (advances_lift _ _).attempt_succeeds fun r x₁ _ => ?_
  refine Succeeds.bind (succeeds_lift (Act.run_countOperation _ _ _ _)) fun _ x₂ _ => ?_
  split
  · refine Succeeds.bind (log_succeeds _ _ _ _ _ _) fun _ _ _ => Succeeds.bind (publish_succeeds _ _) fun _ x₃ _ => ?_
    dsimp only
    split
    · refine Succeeds.bind (setClearExpiredInterval_advances _ _ _).attempt_succeeds fun _ _ _ => ?_
      split
      · exact Succeeds.bind (log_succeeds _ _ _ _ _ _) fun _ _ _ => succeeds_pure _ _
      · exact succeeds_pure _ _
    · exact succeeds_pure _ _
  · refine Succeeds.bind (log_succeeds _ _ _ _ _ _) fun _ _ _ => Succeeds.bind (publish_succeeds _ _) fun _ _ _ => ?_
    exact succeeds_pure _ _

end Effects

section Gate

theorem ensureOpen_run (x : World × Store) :
    ensureOpen.run x = (if isClosed x.1 x.2 then .error .disconnected else .ok (), x) := by
  simp only [ensureOpen, run_bind, run_get]
  split <;> rfl

theorem ensureOpen_advances (x : World × Store) : ensureOpen.Advances x := by
  rw [Advances, ensureOpen_run]

def bootstrapOutcome : Except String Unit → Except Error Unit
  | .ok () => .ok ()
  | .error m => .error (.bootstrap m)

theorem bootstrapOutcome_eq_ok (h : bootstrapOutcome r = .ok ()) : r = .ok () := by
  cases r with
  | ok => rfl
  | error m => cases h

theorem ready_of_cached (h : x.2.bootstrapped = some r) : ready.run x = (bootstrapOutcome r, x) := by
  simp only [ready, run_bind, run_store, h, run_pure]
  cases r <;> rfl

theorem ready_of_empty (h : x.2.bootstrapped = none) (hb : runBootstrap.run x = (.ok r, x₁)) :
    ready.run x = (bootstrapOutcome r, (x₁.1, { x₁.2 with bootstrapped := some r })) := by
  simp only [ready, run_bind, run_store, h, hb, run_modifyStore, run_pure]
  cases r <;> rfl

theorem ready_advances (x : World × Store) : ready.Advances x := by
  cases h : x.2.bootstrapped with
  | some r => rw [Advances, ready_of_cached h]
  | none =>
    obtain ⟨r, x₁, hb, hl⟩ := runBootstrap_succeeds x
    rw [Advances, ready_of_empty h hb]
    -- the outcome is cached in place of nothing, so no cached outcome is replaced
    exact ⟨hl.backend, fun _ hr => absurd (h.symm.trans hr) (by simp), hl.closed⟩

theorem ready_ok (h : ready.run x = (.ok (), x')) : x'.2.bootstrapped = some (.ok ()) := by
  cases hc : x.2.bootstrapped with
  | some r =>
    rw [ready_of_cached hc, Prod.mk.injEq] at h
    rw [← h.2, hc, bootstrapOutcome_eq_ok h.1]
  | none =>
    obtain ⟨r, x₁, hb, -⟩ := runBootstrap_succeeds x
    rw [ready_of_empty hc hb, Prod.mk.injEq] at h
    rw [← h.2, bootstrapOutcome_eq_ok h.1]

theorem gate_of_closed (h : isClosed x.1 x.2 = true) : gate.run x = (.error .disconnected, x) := by
  simp only [gate, run_bind, ensureOpen_run, h, if_true]

theorem gate_of_cached (hopen : isClosed x.1 x.2 = false) (h : x.2.bootstrapped = some r) :
    gate.run x = (bootstrapOutcome r, x) := by
  rw [gate, run_bind, ensureOpen_run]
  simp only [hopen, Bool.false_eq_true, if_false]
  rw [run_bind, ready_of_cached h]
  cases r with
  | ok =>
    dsimp only [bootstrapOutcome]
    rw [ensureOpen_run, hopen]
    rfl
  | error m => rfl

theorem gate_ok (h : gate.run x = (.ok (), x')) : isClosed x'.1 x'.2 = false ∧ x'.2.bootstrapped = some (.ok ()) := by
  rw [gate, run_bind, ensureOpen_run] at h
  cases hc : isClosed x.1 x.2
  · simp only [hc, Bool.false_eq_true, if_false, run_bind] at h
    rcases hr : ready.run x with ⟨_ | _, x₁⟩
    · rw [hr] at h
      cases h
    · rw [hr] at h
      dsimp only at h
      -- the store is checked again after the bootstrap
      rw [ensureOpen_run] at h
      cases hc' : isClosed x₁.1 x₁.2
      · simp only [hc', Bool.false_eq_true, if_false] at h
        cases h
        exact ⟨hc', ready_ok hr⟩
      · simp only [hc', if_true] at h
        cases h
  · simp only [hc, if_true] at h
    cases h

theorem gate_advances (x : World × Store) : gate.Advances x :=
  Advances.bind (ensureOpen_advances x) fun _ _ _ =>
    Advances.bind (ready_advances _) fun _ _ _ => ensureOpen_advances _

end Gate

section Run

variable {α : Type} (operation : String) (call : Backend → Act α)

theorem run_of_closed (h : isClosed x.1 x.2 = true) : (run operation call).run x = (.error .disconnected, x) := by
  rw [run, run_bind, gate_of_closed h]

theorem run_of_failed {m : String} (hopen : isClosed x.1 x.2 = false) (h : x.2.bootstrapped = some (.error m)) :
    (run operation call).run x = (.error (.bootstrap m), x) := by
  rw [run, run_bind, gate_of_cached hopen h]
  rfl

/-- A backend call is made only behind a passed gate: either the gate fails and its error
is the answer, or the call is made on an open store whose bootstrap succeeded. -/
theorem run_cases (x : World × Store) :
    (∃ e x', gate.run x = (.error e, x') ∧ (run operation call).run x = (.error e, x')) ∨
      ∃ x', gate.run x = (.ok (), x') ∧ isClosed x'.1 x'.2 = false ∧ x'.2.bootstrapped = some (.ok ()) ∧
        (run operation call).run x = (invoke operation call).run x' := by
  rw [run, run_bind]
  rcases hg : gate.run x with ⟨e | _, x'⟩
  · exact .inl ⟨e, x', rfl, rfl⟩
  · exact .inr ⟨x', rfl, (gate_ok hg).1, (gate_ok hg).2, rfl⟩

theorem invoke_advances (x : World × Store) : (invoke operation call).Advances x := by
  unfold invoke
  apply advances_store_bind
  refine Advances.bind (advances_lift _ _).attempt_succeeds.advances fun r _ _ =>
    Advances.bind (advances_lift _ _) fun _ _ _ => ?_
  split
  · exact advances_pure _ _
  · exact Advances.bind (advances_lift _ _) fun _ _ _ => advances_throw _ _

theorem run_advances (x : World × Store) : (run operation call).Advances x :=
  Advances.bind (gate_advances x) fun _ _ _ => invoke_advances operation call _

theorem clearExpired_advances (x : World × Store) : clearExpired.Advances x := by
  refine advances_world_bind ?_
  refine (run_advances _ _ _).bind fun _ _ _ => advances_store_bind ((advances_lift _ _).bind fun _ _ _ => ?_)
  split
  · exact (advances_lift _ _).bind fun _ _ _ => (publish_succeeds _ _).advances.bind fun _ _ _ => advances_pure _ _
  · exact advances_pure _ _

end Run

section Disconnect

theorem disconnect_of_closed (h : x.2.closed = true) : disconnect.run x = (.ok (), x) := by
  simp only [disconnect, run_bind, run_store, h, if_true]
  rfl

/-- Disconnecting an open store closes it and releases the key of its pool, whichever
pool that key is registered to now. -/
theorem disconnect_of_open (h : x.2.closed = false) :
    ∃ w' s', disconnect.run x = (.ok (), (w', s')) ∧
      w'.pools = (x.1.release (x.1.pool x.2.backend.pool).key).pools ∧
      w'.registry = (x.1.release (x.1.pool x.2.backend.pool).key).registry ∧ s'.closed = true ∧ x.2.Later s' := by
  simp only [disconnect, run_bind, run_store, h, Bool.false_eq_true, if_false, run_modifyStore, run_world, run_modify,
    run_lift, Act.run_log]
  obtain ⟨m, hp⟩ := publish_run (.disconnected x.2.backend.name) _
  rw [hp]
  exact ⟨_, _, rfl, rfl, rfl, rfl, rfl, fun _ h => h, fun _ => rfl⟩

theorem disconnect_advances (x : World × Store) : disconnect.Advances x := by
  cases hc : x.2.closed
  · obtain ⟨w', s', hrun, -, -, -, hl⟩ := disconnect_of_open hc
    rw [Advances, hrun]
    exact hl
  · rw [Advances, disconnect_of_closed hc]

end Disconnect

/-- The calls a store answers through its gate: every key-value operation, the sweep of
unused entries, and the page fetch of the iterator. -/
inductive Request where
  | get (key : String)
  | getMany (keys : List String)
  | set (key : String) (value : Payload)
  | setMany (entries : List (String × Payload))
  | delete (key : String)
  | deleteMany (keys : List String)
  | has (key : String)
  | hasMany (keys : List String)
  | clear
  | clearExpired
  | clearUnusedFor (maxAge : Nat)
  | fetchPage (cursor : Option String) (limit : Nat)

inductive Answer where
  | done
  | value (v : Option String)
  | values (vs : List (Option String))
  | flag (b : Bool)
  | flags (bs : List Bool)
  | count (n : Nat)
  | page (p : Page)

namespace Request

def perform : Request → StoreAct Answer
  | .get key => do pure (.value (← Store.get key))
  | .getMany keys => do pure (.values (← Store.getMany keys))
  | .set key value => do Store.set key value; pure .done
  | .setMany entries => do Store.setMany entries; pure .done
  | .delete key => do pure (.flag (← Store.delete key))
  | .deleteMany keys => do pure (.flag (← Store.deleteMany keys))
  | .has key => do pure (.flag (← Store.has key))
  | .hasMany keys => do pure (.flags (← Store.hasMany keys))
  | .clear => do Store.clear; pure .done
  | .clearExpired => do pure (.count (← Store.clearExpired))
  | .clearUnusedFor maxAge => do pure (.count (← Store.clearUnusedFor maxAge))
  | .fetchPage cursor limit => do pure (.page (← Store.fetchPage cursor limit))

def gated : Request → Bool
  | .getMany keys | .deleteMany keys | .hasMany keys => !keys.isEmpty
  | .setMany entries => !entries.isEmpty
  | _ => true

/-- On a closed store, or a store whose pool is closed, every call fails with
`disconnected` and changes nothing, whatever outcome is cached. -/
theorem perform_of_closed (h : isClosed x.1 x.2 = true) (o : Request) :
    o.perform.run x = (.error .disconnected, x) := by
  cases o <;>
    simp only [perform, Store.get, Store.getMany, Store.set, Store.setMany, Store.delete, Store.deleteMany,
      Store.has, Store.hasMany, Store.clear, Store.clearExpired, Store.clearUnusedFor, Store.fetchPage, run_bind,
      run_discard, run_store, run_world, run_of_closed _ _ h, ensureOpen_run, h, if_true]

/-- On an open store whose bootstrap failed, every call that reaches the gate fails with
the bootstrap's error and changes nothing. -/
theorem perform_of_failed {m : String} (hopen : isClosed x.1 x.2 = false) (hm : x.2.bootstrapped = some (.error m))
    (o : Request) (hg : o.gated = true) : o.perform.run x = (.error (.bootstrap m), x) := by
  cases o <;> simp only [gated, Bool.not_eq_eq_eq_not, Bool.not_true] at hg <;>
    simp only [perform, Store.get, Store.getMany, Store.set, Store.setMany, Store.delete, Store.deleteMany,
      Store.has, Store.hasMany, Store.clear, Store.clearExpired, Store.clearUnusedFor, Store.fetchPage, run_bind,
      run_discard, run_store, run_world, run_of_failed _ _ hopen hm, ensureOpen_run, hopen, hg, Bool.false_eq_true,
      if_false]

theorem perform_of_empty (hopen : isClosed x.1 x.2 = false) :
    (getMany []).perform.run x = (.ok (.values []), x) ∧ (hasMany []).perform.run x = (.ok (.flags []), x) ∧
      (deleteMany []).perform.run x = (.ok (.flag false), x) ∧ (setMany []).perform.run x = (.ok .done, x) := by
  simp only [perform, Store.getMany, Store.hasMany, Store.deleteMany, Store.setMany, run_bind, ensureOpen_run, hopen,
    Bool.false_eq_true, if_false, List.isEmpty_nil, if_true]
  exact ⟨rfl, rfl, rfl, rfl⟩

/-- Every call is its gated backend call between reads of the state, log lines and
events, none of which moves the store back. -/
theorem perform_advances (o : Request) (x : World × Store) : o.perform.Advances x := by
  cases o with
  | get | has | fetchPage => exact (advances_store_bind (run_advances _ _ _).bind_pure).bind_pure
  | delete => exact (advances_store_bind (run_advances _ _ _)).bind_pure
  | getMany | deleteMany | hasMany =>
    refine (Advances.bind (ensureOpen_advances _) fun _ _ _ => ?_).bind_pure
    split
    · exact advances_pure _ _
    · exact advances_store_bind (run_advances _ _ _).bind_pure
  | set => exact (advances_store_bind (run_advances _ _ _)).bind fun _ _ _ => advances_pure _ _
  | setMany =>
    refine (Advances.bind (ensureOpen_advances _) fun _ _ _ => ?_).bind fun _ _ _ => advances_pure _ _
    split
    · exact advances_pure _ _
    · exact advances_store_bind (run_advances _ _ _)
  | clear =>
    refine (advances_store_bind ?_).bind fun _ _ _ => advances_pure _ _
    exact (run_advances _ _ _).discard.bind fun _ _ _ => advances_lift _ _
  | clearExpired => exact (clearExpired_advances x).bind_pure
  | clearUnusedFor => exact (run_advances _ _ _).bind_pure

end Request

end Store

end KvStore
