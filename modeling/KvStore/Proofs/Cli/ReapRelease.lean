import KvStore.Cli.Run
import KvStore.Proofs.Store.SweepFrame

/-!
# The sweep command and the pool it opens

The sweep command opens a store, which joins a pool registered under its configuration's
key (`openStore_registers`), sweeps once or watches, and disconnects. Since no sweep opens,
closes or releases a pool, nor closes the store, the disconnect at the end releases the
store's pool: a single sweep reports its outcome, failure included, only once the pool is
closed and unregistered, and a watch returns with it released. One exit skips the
disconnect: a metrics exporter that cannot listen ends a watch at once, and the pool stays
open and registered (`reap_releases_pool_unless_exporter_fails`).
-/

namespace KvStore

open Act

variable {w w₁ : World} {c : StoreConfig} {s : Store}

/-- Building a store on the pool just acquired: when the building changes nothing and
opens the store on that pool, the store is open on a pool registered under the
configuration's key. -/
theorem registers_of_acquire_bind {g : Nat → Act Store} (hi : w.RegistryInv)
    (hg : ∀ id w' s w'', (g id).run w' = (.ok s, w'') → w'' = w' ∧ s.backend.pool = id ∧ s.closed = false)
    (h : (acquirePool c >>= g).run w = (.ok s, w₁)) :
    w₁.RegistryInv ∧ (c.poolKey, s.backend.pool) ∈ w₁.registry ∧ s.closed = false := by
  rw [run_bind] at h
  rcases ha : (acquirePool c).run w with ⟨_ | id, w₂⟩ <;> rw [ha] at h
  · cases h
  · obtain ⟨rfl, hpool, hclosed⟩ := hg id w₂ s w₁ h
    rw [hpool]
    exact ⟨(hi.acquire ha).1, (hi.mem_of_acquire ha).1, hclosed⟩

theorem openSqliteStore_registers (hi : w.RegistryInv) (h : (openSqliteStore c).run w = (.ok s, w₁)) :
    w₁.RegistryInv ∧ (c.poolKey, s.backend.pool) ∈ w₁.registry ∧ s.closed = false :=
  registers_of_acquire_bind hi (fun _ _ _ _ hg => by
    rw [run_get_bind] at hg
    split at hg <;> cases hg
    exact ⟨rfl, rfl, rfl⟩) h

theorem openPostgresStore_registers (hi : w.RegistryInv) (h : (openPostgresStore c).run w = (.ok s, w₁)) :
    w₁.RegistryInv ∧ (c.poolKey, s.backend.pool) ∈ w₁.registry ∧ s.closed = false :=
  registers_of_acquire_bind hi (fun _ _ _ _ hg => by
    rw [run_get_bind] at hg
    split at hg <;> cases hg
    exact ⟨rfl, rfl, rfl⟩) h

theorem openDocumentStore_registers (hi : w.RegistryInv) (h : (openDocumentStore c).run w = (.ok s, w₁)) :
    w₁.RegistryInv ∧ (c.poolKey, s.backend.pool) ∈ w₁.registry ∧ s.closed = false := by
  unfold openDocumentStore at h
  split at h
  · cases h
  · refine registers_of_acquire_bind hi (fun id w' s w'' hg => ?_) h
    rw [run_get_bind] at hg
    split at hg
    · split at hg
      · rename_i l hl
        cases hg
        -- the layout is made on the pool it is given
        unfold Bucket.Layout.make at hl
        split at hl <;> cases hl
        exact ⟨rfl, rfl, rfl⟩
      · cases hg
    · cases hg
  · rw [run_get_bind] at h
    split at h
    · rw [run_bind] at h
      split at h <;> cases h
    · cases h
  · cases h

/-- A store opened from a world that keeps the registry invariant is open on a pool
registered under its configuration's key, and the invariant still holds. -/
theorem openStore_registers (hi : w.RegistryInv) (h : (openStore c).run w = (.ok s, w₁)) :
    w₁.RegistryInv ∧ (c.poolKey, s.backend.pool) ∈ w₁.registry ∧ s.closed = false := by
  unfold openStore at h
  dsimp only at h
  -- the debug line before the dispatch only adds to the log
  split at h
  case' h_1 =>
    rw [run_bind, run_log] at h
    dsimp only at h
    generalize hw₀ : w.record _ = w₀ at h
    replace hi : w₀.RegistryInv := by
      rw [← hw₀]
      exact hi.congr rfl
  all_goals
    split at h
    · cases h
    · rw [run_get_bind] at h
      split at h
      · exact openPostgresStore_registers hi h
      · cases h
    · exact openSqliteStore_registers hi h
    · exact openDocumentStore_registers hi h
    · exact openDocumentStore_registers hi h

namespace Cli

open StoreAct Store

theorem sweepEvery_succeeds (secs : Nat) : ∀ (n acc : Nat) (x : World × Store), (sweepEvery secs n acc).Succeeds x
  | 0, acc, x => succeeds_pure _ _
  | n + 1, acc, x => by
    -- after the sweep: the wait, unless it was the last, and the sweeps left
    have next : ∀ removed x₁, (if n > 0 then (lift (waitSeconds secs) >>= fun _ => sweepEvery secs n removed)
        else sweepEvery secs n removed).Succeeds x₁ := by
      intro removed x₁
      split
      · exact Succeeds.bind (succeeds_lift rfl) fun _ _ _ => sweepEvery_succeeds secs n removed _
      · exact sweepEvery_succeeds secs n removed _
    unfold sweepEvery
    refine Succeeds.bind (clearExpired_advances x).attempt_succeeds fun r x₁ _ => ?_
    dsimp only
    split
    · exact Succeeds.bind (succeeds_pure _ _) fun removed x₂ _ => next removed x₂
    · exact Succeeds.bind (log_succeeds _ _ _ _ _ _) fun _ _ _ =>
        Succeeds.bind (succeeds_pure _ _) fun removed x₂ _ => next removed x₂

theorem waitSeconds_keeps (secs : Nat) : Act.Keeps World.poolsView (waitSeconds secs) :=
  Act.Keeps.modify fun w => World.poolsFrame.host w _

theorem sweepEvery_keeps (secs : Nat) : ∀ n acc : Nat, Keeps sweepView (sweepEvery secs n acc)
  | 0, acc => StoreAct.Keeps.pure _
  | n + 1, acc => by
    have next : ∀ removed, Keeps sweepView (if n > 0 then (lift (waitSeconds secs) >>= fun _ => sweepEvery secs n removed)
        else sweepEvery secs n removed) := by
      intro removed
      split
      · exact (keeps_lift (waitSeconds_keeps secs)).bind fun _ => sweepEvery_keeps secs n removed
      · exact sweepEvery_keeps secs n removed
    unfold sweepEvery
    refine (Keeps.attempt clearExpired_keeps).bind fun r => ?_
    dsimp only
    split
    · exact (StoreAct.Keeps.pure _).bind next
    · exact (keeps_log _ _ _ _ _).bind fun _ => (StoreAct.Keeps.pure _).bind next

end Cli

/-- A one-shot sweep of a store opened on a registered pool reports the sweep's outcome,
failure included, only after disconnecting, which releases the pool. -/
theorem sweepOnce_releases (hi : w.RegistryInv) (hopen : (openStore c).run w = (.ok s, w₁)) :
    ∃ w', (sweepOnce c).run w =
        ((Store.clearExpired.run (w₁, s)).1.map fun removed => { sweeps := 1, removed }, w') ∧
      w'.Released s.backend.pool := by
  obtain ⟨hi₁, hmem, hclosed⟩ := openStore_registers hi hopen
  obtain ⟨x', hdisc, hreleased⟩ := Store.disconnect_releases hi₁ hmem hclosed (Store.clearExpired_keeps (w₁, s))
  refine ⟨x'.1, ?_, hreleased⟩
  -- the sweep's outcome is held while the store disconnects
  have hbody : (do let swept ← Store.clearExpired.attempt; Store.disconnect; pure swept : StoreAct (Outcome Nat)).run
      (w₁, s) = (.ok (Store.clearExpired.run (w₁, s)).1, x') := by
    rw [StoreAct.run_bind, StoreAct.run_attempt]
    dsimp only
    rw [StoreAct.run_bind, hdisc]
    rfl
  unfold sweepOnce
  rw [run_bind, hopen]
  dsimp only
  rw [run_get_bind]
  simp only [StateT.run]
  rw [hbody]
  dsimp only
  rw [run_bind]
  cases (Store.clearExpired.run (w₁, s)).1 <;> rfl

namespace Cli

theorem startWatch_of_exporter_failure {addr : Net.SocketAddress} {reason : String}
    (hopen : (openStore c).run w = (.ok s, w₁)) (hfail : Net.bindFailure addr = some reason) :
    (startWatch c (some addr)).run w =
      (.error (.operationFailed "metrics_exporter_build" ("failed to create HTTP listener: " ++ reason)), w₁) := by
  unfold startWatch
  rw [run_bind, hopen]
  dsimp only
  rw [run_bind]
  simp only [installExporter, hfail]
  rfl

theorem startWatch_started {metricsAddr : Option Net.SocketAddress}
    (hopen : (openStore c).run w = (.ok s, w₁)) (hexp : metricsAddr.bind Net.bindFailure = none) :
    ∃ w₂, (startWatch c metricsAddr).run w = (.ok s, w₂) ∧ w₂.poolsView = w₁.poolsView := by
  unfold startWatch
  rw [run_bind, hopen]
  dsimp only
  -- the exporter, when asked for, starts; the rest is log lines
  cases metricsAddr
  case' none =>
    rw [run_bind, run_log]
    dsimp only
  case' some addr =>
    rw [run_bind]
    have hbind : Net.bindFailure addr = none := hexp
    simp only [installExporter, hbind]
    rw [run_log]
    dsimp only
    rw [run_bind, run_log]
    dsimp only
    rw [run_bind, run_log]
    dsimp only
  all_goals exact ⟨_, rfl, rfl⟩

theorem watchExpired_of_exporter_failure {addr : Net.SocketAddress} {reason : String}
    (hopen : (openStore c).run w = (.ok s, w₁)) (hfail : Net.bindFailure addr = some reason) (secs n : Nat) :
    (watchExpired c secs (some addr) n).run w =
      (.error (.operationFailed "metrics_exporter_build" ("failed to create HTTP listener: " ++ reason)), w₁) := by
  unfold watchExpired
  rw [run_bind, startWatch_of_exporter_failure hopen hfail]

theorem watchExpired_releases {metricsAddr : Option Net.SocketAddress} (hi : w.RegistryInv)
    (hopen : (openStore c).run w = (.ok s, w₁)) (hexp : metricsAddr.bind Net.bindFailure = none)
    (secs n : Nat) :
    ∃ removed w', (watchExpired c secs metricsAddr n).run w = (.ok { sweeps := n, removed }, w') ∧
      w'.Released s.backend.pool := by
  obtain ⟨hi₁, hmem, hclosed⟩ := openStore_registers hi hopen
  obtain ⟨w₂, hstart, hw₂⟩ := startWatch_started hopen hexp
  -- from the world the watch started in, the sweeps return and the store is then
  -- disconnected, which releases its pool
  obtain ⟨removed, x₁, hrun, -⟩ := sweepEvery_succeeds secs n 0 (w₂, s)
  have hkeep := sweepEvery_keeps secs n 0 (w₂, s)
  rw [hrun] at hkeep
  -- the log line after the sweeps changes neither pools nor registry
  have hx : sweepView (x₁.1.record ⟨.info, "kvbridge::cli::reap", "Interrupted, stopping reaper", [], none⟩, x₁.2) =
      sweepView (w₁, s) := by
    have h₂ : sweepView (w₂, s) = sweepView (w₁, s) := by simp only [sweepView, hw₂]
    exact hkeep.trans h₂
  obtain ⟨x', hdisc, hrel⟩ := Store.disconnect_releases hi₁ hmem hclosed hx
  have hbody : (do
      let removed ← sweepEvery secs n 0
      StoreAct.lift (log .info "kvbridge::cli::reap" "Interrupted, stopping reaper")
      Store.disconnect
      pure removed : StoreAct Nat).run (w₂, s) = (.ok removed, x') := by
    rw [StoreAct.run_bind, hrun]
    dsimp only
    rw [StoreAct.run_bind, StoreAct.run_lift, run_log]
    dsimp only
    rw [StoreAct.run_bind, hdisc]
    rfl
  refine ⟨removed, x'.1, ?_, hrel⟩
  unfold watchExpired
  rw [run_bind, hstart]
  dsimp only
  rw [run_get_bind]
  simp only [StateT.run]
  rw [hbody]
  rfl

end Cli

/-- The sweep command releases the pool of the store it opened on every exit but one.
A single sweep reports its outcome, failure included, after disconnecting; a watch returns
after disconnecting; but a metrics exporter that cannot listen ends the watch before the
store is disconnected, and its pool stays open and registered. -/
theorem reap_releases_pool_unless_exporter_fails (a : ReapArgs) (c : StoreConfig)
    (interruptAfterMs : Nat) (hi : w.RegistryInv) (hopen : (openStore c).run w = (.ok s, w₁)) :
    match a.watch, a.metricsAddr.bind Net.bindFailure with
    | some (_ + 1), some reason =>
      (Cli.runReap a c interruptAfterMs).run w =
          (.error (.operationFailed "metrics_exporter_build" ("failed to create HTTP listener: " ++ reason)), w₁) ∧
        (w₁.pool s.backend.pool).closed = false ∧ (c.poolKey, s.backend.pool) ∈ w₁.registry
    | some (_ + 1), none =>
      ∃ summary w', (Cli.runReap a c interruptAfterMs).run w = (.ok summary, w') ∧ w'.Released s.backend.pool
    | _, _ =>
      ∃ w', (Cli.runReap a c interruptAfterMs).run w =
          ((Store.clearExpired.run (w₁, s)).1.map fun removed => { sweeps := 1, removed }, w') ∧
        w'.Released s.backend.pool := by
  obtain ⟨hi₁, hmem, -⟩ := openStore_registers hi hopen
  unfold Cli.runReap
  rcases hw : a.watch with _ | _ | secs
  · exact sweepOnce_releases hi hopen
  · exact sweepOnce_releases hi hopen
  · rcases hb : a.metricsAddr.bind Net.bindFailure with _ | reason
    · obtain ⟨removed, w', hrun, hrel⟩ := Cli.watchExpired_releases hi hopen hb (secs + 1) _
      exact ⟨_, w', hrun, hrel⟩
    · -- only a given address can fail to bind
      cases hm : a.metricsAddr with
      | none => simp [hm] at hb
      | some addr =>
        rw [hm] at hb
        exact ⟨Cli.watchExpired_of_exporter_failure hopen hb _ _, hi₁.is_open _ hmem, hmem⟩

def memoryConfig : StoreConfig := StoreConfig.ofUri "sqlite::memory:"

def sharedMemoryWorld : World := { (default : World) with
  pools := [{ key := memoryConfig.poolKey, connection := .sqlite (some default) }],
  registry := [(memoryConfig.poolKey, 0)] }

theorem sharedMemoryWorld_registryInv : sharedMemoryWorld.RegistryInv where
  keys_nodup := List.nodup_singleton _
  ids_nodup := List.nodup_singleton _
  id_lt e he := by
    rw [List.mem_singleton.1 he]
    decide
  key_eq e he := by
    rw [List.mem_singleton.1 he]
    rfl
  is_open e he := by
    rw [List.mem_singleton.1 he]
    rfl
  admitted e he := by
    rw [List.mem_singleton.1 he]
    exact ⟨memoryConfig, rfl, .sqlite, rfl, rfl⟩
  counted h := absurd h (by decide)

/-- A watch over a store that shares its pool, asked for a metrics listener on an address
it may not bind, fails and leaves the pool open and registered. -/
theorem failed_exporter_leaves_pool_registered :
    ∃ s w₁, (openStore memoryConfig).run sharedMemoryWorld = (.ok s, w₁) ∧
      (Cli.runReap { watch := some 5, metricsAddr := some (.v4 [192, 0, 2, 1] 9) } memoryConfig 300).run
          sharedMemoryWorld =
        (.error (.operationFailed "metrics_exporter_build"
          ("failed to create HTTP listener: " ++ "Permission denied (os error 13)")), w₁) ∧
      (w₁.pool s.backend.pool).closed = false ∧ (memoryConfig.poolKey, s.backend.pool) ∈ w₁.registry := by
  obtain ⟨s, w₁, hopen⟩ : ∃ s w₁, (openStore memoryConfig).run sharedMemoryWorld = (.ok s, w₁) := ⟨_, _, rfl⟩
  exact ⟨s, w₁, hopen, reap_releases_pool_unless_exporter_fails
    { watch := some 5, metricsAddr := some (.v4 [192, 0, 2, 1] 9) } memoryConfig 300 sharedMemoryWorld_registryInv hopen⟩

end KvStore
