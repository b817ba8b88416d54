import KvStore.Store.Open
import KvStore.Proofs.Store.Runs

/-!
One step of the pool registry at a time. Acquiring a configuration's pool fails before
anything changes when the URI or a driver option is refused, returns the pool registered
under the configuration's key when there is one, and otherwise opens a connection, which
touches neither the pools nor the registry nor the counters (`openConnection_preserves`),
and registers it (`acquirePool_of_opened`). Releasing a registered open pool closes it and
counts it (`World.release_of_open`).

A counter's value is read from its first sample (`Metrics.value`); the counters of opened
and closed pools are told apart by their series texts.
-/

namespace KvStore

open Act

/-- The part of the world the pool registry owns: the pools, the registry and the counters. -/
def World.poolPart (w : World) : List Pool × List (PoolKey × Nat) × Metrics := (w.pools, w.registry, w.metrics)

namespace Sqlite

theorem configure_preserves (link : SqliteLink) (options : List (String × String)) (w : World) :
    (configure link options).Preserves World.poolPart w := by
  unfold Preserves configure
  dsimp only
  repeat' split
  all_goals rfl

theorem createParentDir_preserves (path : String) (w : World) :
    (createParentDir path).Preserves World.poolPart w := by
  unfold createParentDir
  split
  · split
    · apply preserves_get_bind
      split
      · exact preserves_set rfl
      · exact preserves_throw _ _ _
    · exact preserves_pure _ _ _
  · exact preserves_pure _ _ _

theorem openFile_poolPart {w w' : World} {path : String} {link : SqliteLink}
    (h : openFile w path = .ok (w', link)) : w'.poolPart = w.poolPart := by
  unfold openFile at h
  dsimp only [World.newDatabase] at h
  repeat' split at h
  all_goals cases h <;> rfl

theorem openPath_preserves (path : String) (w : World) : (openPath path).Preserves World.poolPart w := by
  unfold openPath
  apply preserves_get_bind
  split
  · rename_i h
    exact Preserves.bind (preserves_set (openFile_poolPart h)) fun _ _ _ => preserves_pure _ _ _
  · exact preserves_throw _ _ _

theorem openShared_preserves (config : StoreConfig) (w : World) :
    (openShared config).Preserves World.poolPart w := by
  unfold openShared
  refine Preserves.bind ?_ fun location w₁ _ => Preserves.bind ?_ fun link w₂ _ =>
    Preserves.bind (configure_preserves _ _ _) fun _ _ _ => preserves_pure _ _ _
  · unfold openShared.liftExcept
    split <;> rfl
  · cases location with
    | memory =>
      apply preserves_get_bind
      exact Preserves.bind (preserves_set rfl) fun _ _ _ => preserves_pure _ _ _
    | file path =>
      exact Preserves.bind (createParentDir_preserves _ _) fun _ _ _ => openPath_preserves _ _

end Sqlite

theorem openConnection_preserves (kind : BackendKind) (config : StoreConfig) (w : World) :
    (openConnection kind config).Preserves World.poolPart w := by
  cases kind with
  | sqlite => exact Preserves.bind (Sqlite.openShared_preserves _ _) fun _ _ _ => preserves_pure _ _ _
  | postgres | collection =>
    apply preserves_get_bind
    repeat' split
    all_goals rfl
  | bucket =>
    dsimp only [openConnection]
    split <;> rfl

theorem openConnection_kind {kind : BackendKind} {config : StoreConfig} {conn : PoolConnection} {w w' : World}
    (h : (openConnection kind config).run w = (.ok conn, w')) : conn.kind = kind := by
  cases kind with
  | sqlite =>
    rw [openConnection, run_bind] at h
    split at h <;> cases h
    rfl
  | postgres | collection =>
    rw [openConnection, run_bind, run_get] at h
    dsimp only at h
    repeat' split at h
    all_goals cases h <;> rfl
  | bucket =>
    rw [openConnection] at h
    split at h <;> cases h
    rfl

section Acquire

variable {c : StoreConfig} {kind : BackendKind} {e : Error} {w w₁ : World}

theorem acquirePool_of_kind_error (h : c.backendKind = .error e) : (acquirePool c).run w = (.error e, w) := by
  simp only [acquirePool, h]
  rfl

theorem acquirePool_of_invalid (hk : c.backendKind = .ok kind) (hv : c.pool.validate kind = .error e) :
    (acquirePool c).run w = (.error e, w) := by
  simp only [acquirePool, hk, hv, pure_bind]
  rfl

theorem acquirePool_of_registered {k : PoolKey} {id : Nat} (hk : c.backendKind = .ok kind)
    (hv : c.pool.validate kind = .ok ()) (hfind : w.registry.find? (·.1 == c.poolKey) = some (k, id)) :
    (acquirePool c).run w = (.ok id, w) := by
  simp only [acquirePool, hk, hv, pure_bind, run_get_bind, hfind]
  rfl

theorem acquirePool_of_open_error (hk : c.backendKind = .ok kind) (hv : c.pool.validate kind = .ok ())
    (hfind : w.registry.find? (·.1 == c.poolKey) = none) (hopen : (openConnection kind c).run w = (.error e, w₁)) :
    (acquirePool c).run w = (.error e, w₁) := by
  simp only [acquirePool, hk, hv, pure_bind, run_bind, run_get, hfind, hopen]

theorem acquirePool_of_opened {conn : PoolConnection} (hk : c.backendKind = .ok kind)
    (hv : c.pool.validate kind = .ok ()) (hfind : w.registry.find? (·.1 == c.poolKey) = none)
    (hopen : (openConnection kind c).run w = (.ok conn, w₁)) :
    ∃ w₂, (acquirePool c).run w = (.ok w₁.pools.length, w₂) ∧
      w₂.pools = w₁.pools ++ [{ key := c.poolKey, connection := conn }] ∧
      w₂.registry = w₁.registry ++ [(c.poolKey, w₁.pools.length)] ∧
      w₂.metrics = w₁.metrics.add "storage_pools_opened_total" [("backend", kind.name)] 1 := by
  simp only [acquirePool, hk, hv, pure_bind, run_bind, run_get, hfind, hopen]
  refine ⟨_, rfl, ?_⟩
  exact ⟨rfl, rfl, rfl⟩

end Acquire

theorem PoolKey.beq_iff {a b : PoolKey} : (a == b) = true ↔ a = b := by
  rcases a with ⟨u, o⟩
  rcases b with ⟨u', o'⟩
  show (u == u' && o == o') = true ↔ _
  simp

instance : LawfulBEq PoolKey where
  eq_of_beq := PoolKey.beq_iff.1
  rfl := PoolKey.beq_iff.2 rfl

def openedSeries (kind : BackendKind) : String := Metrics.series "storage_pools_opened_total" [("backend", kind.name)]

def closedSeries (kind : BackendKind) : String := Metrics.series "storage_pools_closed_total" [("backend", kind.name)]

theorem openedSeries_ne_closedSeries (k k' : BackendKind) : openedSeries k ≠ closedSeries k' := by
  cases k <;> cases k' <;> decide

theorem openedSeries_inj {k k' : BackendKind} (h : openedSeries k = openedSeries k') : k = k' := by
  cases k <;> cases k' <;> first | rfl | exact absurd h (by decide)

theorem closedSeries_inj {k k' : BackendKind} (h : closedSeries k = closedSeries k') : k = k' := by
  cases k <;> cases k' <;> first | rfl | exact absurd h (by decide)

namespace Metrics

variable {m : Metrics} {name key : String} {labels : List (String × String)} {n : Nat}

def value (m : Metrics) (key : String) : Nat := ((m.samples.find? (·.1 == key)).map (·.2)).getD 0

theorem enabled_add : (m.add name labels n).enabled = m.enabled := by
  unfold add
  dsimp only
  split
  · rfl
  · split <;> rfl

theorem find?_bump (samples : List (String × Nat)) (key key' : String) (n : Nat) :
    ((samples.map fun (k, v) => if k == key then (k, v + n) else (k, v)).find? (·.1 == key')).map (·.2) =
      (samples.find? (·.1 == key')).map fun e => if key' = key then e.2 + n else e.2 := by
  -- bumping keeps the series of every sample, so the same sample is found
  have hseries : ((fun x : String × Nat => x.1 == key') ∘ fun (k, v) => if k == key then (k, v + n) else (k, v)) =
      (·.1 == key') := by
    funext ⟨k, v⟩
    show ((if (k == key) = true then (k, v + n) else (k, v)).1 == key') = (k == key')
    split <;> rfl
  rw [List.find?_map, hseries]
  cases hfind : samples.find? (·.1 == key') with
  | none => rfl
  | some e =>
    obtain ⟨k, v⟩ := e
    have hk : k = key' := by simpa using List.find?_some hfind
    subst hk
    by_cases hkey : k = key <;> simp [hkey]

theorem value_add_self (h : m.enabled = true) :
    (m.add name labels n).value (series name labels) = m.value (series name labels) + n := by
  unfold add value
  dsimp only
  rw [h]
  simp only [Bool.not_true, Bool.false_eq_true, if_false]
  split
  · rename_i hany
    rw [find?_bump]
    obtain ⟨e, he⟩ := Option.isSome_iff_exists.1 (List.find?_isSome.2 (List.any_eq_true.1 hany))
    simp [he]
  · rename_i hany
    have hnone : m.samples.find? (·.1 == series name labels) = none := by
      rw [List.find?_eq_none]
      intro e he hkey
      exact hany (List.any_eq_true.2 ⟨e, he, hkey⟩)
    simp [List.find?_append, hnone]

theorem value_add_other (hne : key ≠ series name labels) : (m.add name labels n).value key = m.value key := by
  unfold add value
  dsimp only
  split
  · rfl
  · split
    · rw [find?_bump]
      simp [hne]
    · rw [List.find?_append]
      cases m.samples.find? (·.1 == key) with
      | some e => rfl
      | none => simp [Ne.symm hne]

/-- Counting one more in a family of series, one for each backend family, raises only that
family's series. -/
theorem value_add_family (h : m.enabled = true) {family : BackendKind → String}
    (hfam : ∀ k, family k = series name [("backend", k.name)]) (inj : ∀ {k k'}, family k = family k' → k = k')
    (kind kind' : BackendKind) :
    (m.add name [("backend", kind.name)] 1).value (family kind') = m.value (family kind') + if kind = kind' then 1 else 0 := by
  by_cases hk : kind = kind'
  · subst hk
    rw [if_pos rfl, hfam]
    exact value_add_self h
  · rw [if_neg hk, Nat.add_zero]
    exact value_add_other fun e => hk (inj (e.trans (hfam kind).symm)).symm

end Metrics

namespace World

variable {w : World} {key k : PoolKey} {id i : Nat}

theorem pool_eq_of_pools {w' : World} (h : w'.pools = w.pools) (i : Nat) : w'.pool i = w.pool i := by
  simp [World.pool, h]

theorem pool_setPool_self (h : id < w.pools.length) (p : Pool) : (w.setPool id p).pool id = p := by
  simp [pool, setPool, h]

theorem pool_setPool_of_ne (h : i ≠ id) (p : Pool) : (w.setPool id p).pool i = w.pool i := by
  simp [pool, setPool, Ne.symm h]

theorem release_of_unregistered (h : w.registry.find? (·.1 == key) = none) : w.release key = w := by
  simp [release, h]

/-- Releasing a registered open pool: the registry forgets its key, the pool is closed and
the closed counter of its family goes up. -/
theorem release_of_open (hfind : w.registry.find? (·.1 == key) = some (k, id)) (hopen : (w.pool id).closed = false) :
    w.release key = { w.setPool id (w.pool id).close with
      registry := w.registry.filter (·.1 != key),
      metrics := w.metrics.add "storage_pools_closed_total" [("backend", (w.pool id).connection.kind.name)] 1 } := by
  simp only [release, hfind]
  exact if_neg (by simpa [pool] using hopen)

theorem registry_release (w : World) (key : PoolKey) :
    (w.release key).registry = w.registry.filter (·.1 != key) := by
  cases hfind : w.registry.find? (·.1 == key) with
  | none =>
    rw [release_of_unregistered hfind, eq_comm, List.filter_eq_self]
    intro e he
    simpa using List.find?_eq_none.1 hfind e he
  | some e =>
    simp only [release, hfind]
    split <;> rfl

theorem pool_release (w : World) (key : PoolKey) (i : Nat) :
    (w.release key).pool i = w.pool i ∨ (w.release key).pool i = (w.pool i).close := by
  unfold release
  split
  · exact .inl rfl
  · dsimp only
    split
    · exact .inl rfl
    · rename_i id _ _
      show (w.setPool id (w.pool id).close).pool i = w.pool i ∨
        (w.setPool id (w.pool id).close).pool i = (w.pool i).close
      by_cases hid : i = id
      · subst hid
        by_cases hlt : i < w.pools.length
        · exact .inr (pool_setPool_self hlt _)
        · left
          simp [setPool, pool, Nat.le_of_not_lt hlt]
      · exact .inl (pool_setPool_of_ne hid _)

theorem closed_release (h : (w.pool i).closed = true) (key : PoolKey) : ((w.release key).pool i).closed = true := by
  rcases pool_release w key i with hp | hp <;> rw [hp]
  · exact h
  · rfl

theorem pool_release_of_unregistered (h : ∀ e ∈ w.registry, e.1 = key → e.2 ≠ i) :
    (w.release key).pool i = w.pool i := by
  unfold release
  split
  · rfl
  · rename_i k id hfind
    dsimp only
    have hmem := List.mem_of_find?_eq_some hfind
    have hk : k = key := by simpa using List.find?_some hfind
    split
    · rfl
    · exact pool_setPool_of_ne (Ne.symm (h _ hmem hk)) _

theorem releaseAll_induction {P : World → Prop} (hstep : ∀ w key, P w → P (w.release key)) (hw : P w) :
    P w.releaseAll := by
  unfold releaseAll
  generalize w.registry = es
  induction es generalizing w with
  | nil => exact hw
  | cons e es ih => exact ih (hstep w e.1 hw)

end World

end KvStore
