import Mathlib.Data.List.Nodup
import KvStore.Proofs.Pool.Calls
import KvStore.Proofs.Pool.Key

/-!
The invariant of the pool registry, kept by every acquire and release: each key has at
most one registered pool, each registered pool is open and carries its key, each key was
admitted for a configuration, and, when metrics are recorded, the pools opened of each
backend family are those closed and those still registered (`World.RegistryInv`).

From it every call does what it promises (`World.PoolContract`): an acquire returns the
pool registered under its key or registers a new open one or fails leaving the registry
as it was, and two acquires in a row share a pool exactly when their URIs and pool options
are equal; a release closes what it removes. The invariant holds after every run of calls
from a world that has it (`pool_registry_keeps_contract`).
-/

namespace KvStore

def World.registeredOf (w : World) (kind : BackendKind) : Nat :=
  w.registry.countP fun e => (w.pool e.2).connection.kind = kind

/-- A key that a configuration of a known backend family, with driver options the family
accepts, is shared under. -/
def PoolKey.Admitted (key : PoolKey) : Prop :=
  ∃ c : StoreConfig, c.poolKey = key ∧ ∃ kind, c.backendKind = .ok kind ∧ c.pool.validate kind = .ok ()

/-- What the pool registry keeps true from call to call: one pool a key, each registered
pool open and carrying its key, and, when metrics are recorded, as many pools of each
family opened as were closed or are still registered. -/
structure World.RegistryInv (w : World) : Prop where
  keys_nodup : (w.registry.map (·.1)).Nodup
  ids_nodup : (w.registry.map (·.2)).Nodup
  id_lt : ∀ e ∈ w.registry, e.2 < w.pools.length
  key_eq : ∀ e ∈ w.registry, (w.pool e.2).key = e.1
  is_open : ∀ e ∈ w.registry, (w.pool e.2).closed = false
  admitted : ∀ e ∈ w.registry, e.1.Admitted
  counted : w.metrics.enabled = true → ∀ kind,
    w.metrics.value (openedSeries kind) = w.metrics.value (closedSeries kind) + w.registeredOf kind

namespace World.RegistryInv

variable {w w' : World} {key : PoolKey} {id i i' : Nat}

theorem congr (hi : w.RegistryInv) (h : w'.poolPart = w.poolPart) : w'.RegistryInv := by
  simp only [World.poolPart, Prod.mk.injEq] at h
  obtain ⟨hp, hr, hm⟩ := h
  have hpool := pool_eq_of_pools hp
  have hcount : ∀ kind, w'.registeredOf kind = w.registeredOf kind := by
    intro kind
    simp [World.registeredOf, hr, hpool]
  exact ⟨by rw [hr]; exact hi.keys_nodup, by rw [hr]; exact hi.ids_nodup,
    by rw [hr, hp]; exact hi.id_lt, by rw [hr]; simpa [hpool] using hi.key_eq,
    by rw [hr]; simpa [hpool] using hi.is_open, by rw [hr]; exact hi.admitted,
    by rw [hm]; intro he kind; rw [hcount]; exact hi.counted he kind⟩

theorem id_eq_iff (hi : w.RegistryInv) {k k' : PoolKey} (h : (k, i) ∈ w.registry) (h' : (k', i') ∈ w.registry) :
    i = i' ↔ k = k' := by
  constructor
  · intro hid
    exact congrArg Prod.fst (List.inj_on_of_nodup_map hi.ids_nodup h h' hid)
  · intro hkey
    exact congrArg Prod.snd (List.inj_on_of_nodup_map hi.keys_nodup h h' hkey)

theorem find?_of_mem (hi : w.RegistryInv) (hmem : (key, id) ∈ w.registry) :
    w.registry.find? (·.1 == key) = some (key, id) := by
  have hfound : (w.registry.find? (·.1 == key)).isSome :=
    List.find?_isSome.2 ⟨(key, id), hmem, PoolKey.beq_iff.2 rfl⟩
  obtain ⟨e, he⟩ := Option.isSome_iff_exists.1 hfound
  have hfirst := List.find?_some he
  have hkey : e.1 = key := PoolKey.beq_iff.1 hfirst
  rw [he, List.inj_on_of_nodup_map hi.keys_nodup (List.mem_of_find?_eq_some he) hmem hkey]

theorem pool_of_append {p : Pool} (h : w'.pools = w.pools ++ [p]) {i : Nat} (hi : i < w.pools.length) :
    w'.pool i = w.pool i := by
  simp [World.pool, h, List.getElem?_append_left hi]

theorem pool_of_append_self {p : Pool} (h : w'.pools = w.pools ++ [p]) : w'.pool w.pools.length = p := by
  simp [World.pool, h]

theorem register (hi : w.RegistryInv) {kind : BackendKind} {conn : PoolConnection}
    (hnew : key ∉ w.registry.map (·.1)) (hadm : key.Admitted) (hkind : conn.kind = kind)
    (hp : w'.pools = w.pools ++ [{ key, connection := conn }])
    (hr : w'.registry = w.registry ++ [(key, w.pools.length)])
    (hm : w'.metrics = w.metrics.add "storage_pools_opened_total" [("backend", kind.name)] 1) :
    w'.RegistryInv := by
  have hold : ∀ e ∈ w.registry, w'.pool e.2 = w.pool e.2 := fun e he => pool_of_append hp (hi.id_lt e he)
  have hself : w'.pool w.pools.length = { key, connection := conn } := pool_of_append_self hp
  have hfresh : w.pools.length ∉ w.registry.map (·.2) := by
    simp only [List.mem_map, not_exists, not_and]
    intro e he heq
    exact absurd (hi.id_lt e he) (by omega)
  have hcount : ∀ kind', w'.registeredOf kind' = w.registeredOf kind' + if kind = kind' then 1 else 0 := by
    intro kind'
    unfold World.registeredOf
    rw [hr, List.countP_append, List.countP_congr (fun e he => by rw [hold e he])]
    simp [hself, hkind]
  refine ⟨?_, ?_, ?_, ?_, ?_, ?_, ?_⟩
  · rw [hr, List.map_append]
    exact hi.keys_nodup.append (List.nodup_singleton _) (by simpa using hnew)
  · rw [hr, List.map_append]
    exact hi.ids_nodup.append (List.nodup_singleton _) (by simpa using hfresh)
  · intro e he
    rw [hp, List.length_append]
    rw [hr, List.mem_append, List.mem_singleton] at he
    rcases he with he | rfl
    · exact Nat.lt_succ_of_lt (hi.id_lt e he)
    · exact Nat.lt_succ_self _
  · intro e he
    rw [hr, List.mem_append, List.mem_singleton] at he
    rcases he with he | rfl
    · rw [hold e he, hi.key_eq e he]
    · rw [hself]
  · intro e he
    rw [hr, List.mem_append, List.mem_singleton] at he
    rcases he with he | rfl
    · rw [hold e he, hi.is_open e he]
    · rw [hself]
  · intro e he
    rw [hr, List.mem_append, List.mem_singleton] at he
    rcases he with he | rfl
    · exact hi.admitted e he
    · exact hadm
  · intro hen kind'
    have hen₀ : w.metrics.enabled = true := by rwa [hm, Metrics.enabled_add] at hen
    have hclosed : w'.metrics.value (closedSeries kind') = w.metrics.value (closedSeries kind') := by
      rw [hm]
      exact Metrics.value_add_other (openedSeries_ne_closedSeries kind kind').symm
    have hopened : w'.metrics.value (openedSeries kind') =
        w.metrics.value (openedSeries kind') + if kind = kind' then 1 else 0 := by
      rw [hm]
      exact Metrics.value_add_family hen₀ (fun _ => rfl) openedSeries_inj kind kind'
    rw [hopened, hclosed, hcount, hi.counted hen₀ kind', Nat.add_assoc]

theorem pool_of_set_ne {p : Pool} (h : w'.pools = w.pools.set id p) {i : Nat} (hne : i ≠ id) :
    w'.pool i = w.pool i := by
  simp [World.pool, h, Ne.symm hne]

theorem unregister (hi : w.RegistryInv) (hmem : (key, id) ∈ w.registry)
    (hp : w'.pools = w.pools.set id (w.pool id).close)
    (hr : w'.registry = w.registry.filter (·.1 != key))
    (hm : w'.metrics = w.metrics.add "storage_pools_closed_total" [("backend", (w.pool id).connection.kind.name)] 1) :
    w'.RegistryInv := by
  have hkept : ∀ e ∈ w'.registry, e ∈ w.registry ∧ e.1 ≠ key := by
    intro e he
    rw [hr, List.mem_filter] at he
    exact ⟨he.1, bne_iff_ne.1 he.2⟩
  -- a kept entry has another key, hence another pool
  have hother : ∀ e ∈ w'.registry, e.2 ≠ id := by
    intro e he hid
    obtain ⟨hmem', hkey⟩ := hkept e he
    exact hkey (congrArg Prod.fst (List.inj_on_of_nodup_map hi.ids_nodup hmem' hmem hid))
  have hold : ∀ e ∈ w'.registry, w'.pool e.2 = w.pool e.2 := fun e he => pool_of_set_ne hp (hother e he)
  have hsub : (w'.registry).Sublist w.registry := hr ▸ List.filter_sublist
  have hcount : ∀ kind', w.registeredOf kind' =
      w'.registeredOf kind' + if (w.pool id).connection.kind = kind' then 1 else 0 := by
    intro kind'
    obtain ⟨l₁, l₂, hsplit⟩ := List.append_of_mem hmem
    have hkeys := hi.keys_nodup
    rw [hsplit, List.map_append, List.map_cons, List.nodup_append, List.nodup_cons] at hkeys
    have h₁ : ∀ e ∈ l₁, e.1 ≠ key := fun e he hkey =>
      hkeys.2.2 e.1 (List.mem_map_of_mem he) key List.mem_cons_self hkey
    have h₂ : ∀ e ∈ l₂, e.1 ≠ key := fun e he hkey => hkeys.2.1.1 (List.mem_map.2 ⟨e, he, hkey⟩)
    have hfilter : w'.registry = l₁ ++ l₂ := by
      rw [hr, hsplit, List.filter_append, List.filter_cons, List.filter_eq_self.2 (by simpa using h₁),
        List.filter_eq_self.2 (by simpa using h₂)]
      simp
    have hright : w'.registeredOf kind' = (l₁ ++ l₂).countP fun e => (w.pool e.2).connection.kind = kind' := by
      unfold World.registeredOf
      rw [← hfilter]
      exact List.countP_congr fun e he => by rw [hold e he]
    rw [hright]
    unfold World.registeredOf
    rw [hsplit, List.countP_append, List.countP_append, List.countP_cons]
    simp only [decide_eq_true_eq]
    omega

  refine ⟨?_, ?_, ?_, ?_, ?_, ?_, ?_⟩
  · exact hi.keys_nodup.sublist (hsub.map _)
  · exact hi.ids_nodup.sublist (hsub.map _)
  · intro e he
    rw [hp, List.length_set]
    exact hi.id_lt e (hkept e he).1
  · intro e he
    rw [hold e he, hi.key_eq e (hkept e he).1]
  · intro e he
    rw [hold e he, hi.is_open e (hkept e he).1]
  · intro e he
    exact hi.admitted e (hkept e he).1
  · intro hen kind'
    have hen₀ : w.metrics.enabled = true := by rwa [hm, Metrics.enabled_add] at hen
    have hopened : w'.metrics.value (openedSeries kind') = w.metrics.value (openedSeries kind') := by
      rw [hm]
      exact Metrics.value_add_other (openedSeries_ne_closedSeries kind' _)
    have hclosed : w'.metrics.value (closedSeries kind') =
        w.metrics.value (closedSeries kind') + if (w.pool id).connection.kind = kind' then 1 else 0 := by
      rw [hm]
      exact Metrics.value_add_family hen₀ (fun _ => rfl) closedSeries_inj _ kind'
    have := hi.counted hen₀ kind'
    rw [hcount] at this
    rw [hopened, hclosed, this]
    omega

theorem release (hi : w.RegistryInv) (key : PoolKey) : (w.release key).RegistryInv := by
  cases hfind : w.registry.find? (·.1 == key) with
  | none =>
    rw [World.release_of_unregistered hfind]
    exact hi
  | some e =>
    obtain ⟨k, id⟩ := e
    have hmem : (k, id) ∈ w.registry := List.mem_of_find?_eq_some hfind
    have hfirst := List.find?_some hfind
    have hk : k = key := PoolKey.beq_iff.1 hfirst
    subst hk
    rw [World.release_of_open hfind (hi.is_open _ hmem)]
    exact hi.unregister hmem rfl rfl rfl

theorem release_closes (hi : w.RegistryInv) (hmem : (key, id) ∈ w.registry) :
    ((w.release key).pool id).closed = true := by
  rw [World.release_of_open (hi.find?_of_mem hmem) (hi.is_open _ hmem)]
  show ((w.setPool id (w.pool id).close).pool id).closed = true
  rw [World.pool_setPool_self (hi.id_lt _ hmem)]
  rfl

/-- Releasing the keys of some registered entries one after another, as releasing all
does: the invariant holds, the registry keeps the other keys, and every pool released is
closed, as is every pool closed before. -/
theorem release_each (es : List (PoolKey × Nat)) :
    ∀ w : World, w.RegistryInv → (∀ e ∈ es, e ∈ w.registry) → (es.map (·.1)).Nodup →
      let w' := es.foldl (fun w e => w.release e.1) w
      w'.RegistryInv ∧ w'.registry = w.registry.filter (fun e => e.1 ∉ es.map (·.1)) ∧
        (∀ e ∈ es, (w'.pool e.2).closed = true) ∧
        ∀ i, (w.pool i).closed = true → (w'.pool i).closed = true := by
  induction es with
  | nil =>
    intro w hi _ _
    exact ⟨hi, by simp, by simp, fun _ h => h⟩
  | cons e es ih =>
    intro w hi hmem hnodup
    rw [List.map_cons, List.nodup_cons] at hnodup
    have hnext : ∀ e' ∈ es, e' ∈ (w.release e.1).registry := by
      intro e' he'
      rw [World.registry_release, List.mem_filter, bne_iff_ne]
      refine ⟨hmem e' (List.mem_cons_of_mem e he'), fun heq => hnodup.1 ?_⟩
      rw [← heq]
      exact List.mem_map_of_mem he'
    obtain ⟨hinv, hreg, hclosed, hkeep⟩ := ih (w.release e.1) (hi.release e.1) hnext hnodup.2
    refine ⟨hinv, ?_, ?_, fun i h => hkeep i (World.closed_release h e.1)⟩
    · rw [List.foldl_cons, hreg, World.registry_release, List.filter_filter]
      congr 1
      funext e'
      by_cases hsame : e'.1 = e.1 <;> by_cases hlater : e'.1 ∈ es.map (·.1) <;> simp [hsame, hlater]
    · intro e' he'
      rcases List.mem_cons.1 he' with rfl | he'
      · exact hkeep _ (hi.release_closes (hmem _ List.mem_cons_self))
      · exact hclosed e' he'

theorem releaseAll (hi : w.RegistryInv) :
    w.releaseAll.RegistryInv ∧ w.releaseAll.registry = [] ∧
      ∀ e ∈ w.registry, (w.releaseAll.pool e.2).closed = true := by
  obtain ⟨hinv, hreg, hclosed, -⟩ := release_each w.registry w hi (fun _ h => h) hi.keys_nodup
  refine ⟨hinv, ?_, hclosed⟩
  show (w.registry.foldl (fun w e => w.release e.1) w).registry = []
  rw [hreg, List.filter_eq_nil_iff]
  intro e he
  simpa using ⟨e.2, he⟩

end World.RegistryInv

/-- What acquiring a configuration's pool does, from a world whose registry keeps the
invariant: the pool registered under the configuration's key is returned and nothing
changes; without one, a new open pool is registered under the key, or the acquire fails
and leaves the registry and the pools as they were. -/
def AcquireMeets (c : StoreConfig) (w : World) (r : Outcome Nat) (w' : World) : Prop :=
  (∀ id, (c.poolKey, id) ∈ w.registry → r = .ok id ∧ w' = w) ∧
  (c.poolKey ∉ w.registry.map (·.1) →
    (r = .ok w.pools.length ∧ w'.registry = w.registry ++ [(c.poolKey, w.pools.length)] ∧
      (w'.pool w.pools.length).closed = false) ∨
    (∃ e, r = .error e ∧ w'.registry = w.registry ∧ w'.pools = w.pools))

theorem Pool.ensureOpen_of_closed {p : Pool} (h : p.closed = true) : p.ensureOpen = .error .disconnected := by
  simp [Pool.ensureOpen, h]

/-- What releasing a key does: the registry forgets the key, and the pool registered under
it is closed and refuses use. -/
def ReleaseMeets (key : PoolKey) (w w' : World) : Prop :=
  w'.registry = w.registry.filter (·.1 != key) ∧
    ∀ id, (key, id) ∈ w.registry → (w'.pool id).closed = true ∧ (w'.pool id).ensureOpen = .error .disconnected

/-- What releasing every pool does: the registry is empty, and each pool registered before
is closed and refuses use. -/
def ReleaseAllMeets (w w' : World) : Prop :=
  w'.registry = [] ∧
    ∀ e ∈ w.registry, (w'.pool e.2).closed = true ∧ (w'.pool e.2).ensureOpen = .error .disconnected

inductive PoolCall where
  | acquire (config : StoreConfig)
  | release (key : PoolKey)
  | releaseAll

def PoolCall.apply : PoolCall → World → World
  | .acquire c, w => ((acquirePool c).run w).2
  | .release key, w => w.release key
  | .releaseAll, w => w.releaseAll

def PoolCall.applyAll (calls : List PoolCall) (w : World) : World := calls.foldl (fun w call => call.apply w) w

/-- What the pool registry promises at a world: its invariant holds, and each call from
here does what it promises; two acquires in a row share a pool exactly when their
configurations have the same URI and equal pool options. -/
structure World.PoolContract (w : World) : Prop where
  inv : w.RegistryInv
  acquire : ∀ c r w', (acquirePool c).run w = (r, w') → AcquireMeets c w r w'
  shared : ∀ c c' i i' w₁ w₂, (acquirePool c).run w = (.ok i, w₁) → (acquirePool c').run w₁ = (.ok i', w₂) →
    (i = i' ↔ c.uri = c'.uri ∧ c.pool = c'.pool)
  release : ∀ key, ReleaseMeets key w (w.release key)
  releaseAll : ReleaseAllMeets w w.releaseAll

namespace World.RegistryInv

variable {w w' w₁ w₂ : World} {c c' : StoreConfig} {r : Outcome Nat} {i i' : Nat}

theorem acquire (hi : w.RegistryInv) (hrun : (acquirePool c).run w = (r, w')) :
    w'.RegistryInv ∧ AcquireMeets c w r w' := by
  cases hfind : w.registry.find? (·.1 == c.poolKey) with
  | some e =>
    obtain ⟨k, id⟩ := e
    have hmem := List.mem_of_find?_eq_some hfind
    have hfirst := List.find?_some hfind
    have hk : k = c.poolKey := PoolKey.beq_iff.1 hfirst
    subst hk
    -- the key was admitted for a configuration with this URI and these options, so this
    -- configuration passes the same checks
    obtain ⟨c₀, hkey, kind, hkind, hvalid⟩ := hi.admitted _ hmem
    obtain ⟨huri, hpool⟩ := StoreConfig.poolKey_eq_iff.1 hkey
    have hk : c.backendKind = .ok kind := by rw [StoreConfig.backendKind, ← huri]; exact hkind
    have hv : c.pool.validate kind = .ok () := by rw [← hpool]; exact hvalid
    rw [acquirePool_of_registered hk hv hfind] at hrun
    cases hrun
    refine ⟨hi, fun id' hmem' => ⟨?_, rfl⟩, fun hnot => absurd (List.mem_map_of_mem hmem) hnot⟩
    have hsame := List.inj_on_of_nodup_map hi.keys_nodup hmem' hmem rfl
    rw [(Prod.mk.inj hsame).2]
  | none =>
    have hnew : c.poolKey ∉ w.registry.map (·.1) := by
      simp only [List.mem_map, not_exists, not_and]
      intro e he hkey
      exact absurd (PoolKey.beq_iff.2 hkey) (by simpa using List.find?_eq_none.1 hfind e he)
    have hunregistered : ∀ id, (c.poolKey, id) ∉ w.registry := fun id hmem => hnew (List.mem_map_of_mem hmem)
    -- a failure before the registry is touched leaves the world as it was
    have hfailed : ∀ e, r = .error e → w' = w → w'.RegistryInv ∧ AcquireMeets c w r w' := by
      rintro e rfl rfl
      exact ⟨hi, fun id hmem => absurd hmem (hunregistered id), fun _ => .inr ⟨e, rfl, rfl, rfl⟩⟩
    cases hk : c.backendKind with
    | error e =>
      rw [acquirePool_of_kind_error hk] at hrun
      cases hrun
      exact hfailed e rfl rfl
    | ok kind =>
      cases hv : c.pool.validate kind with
      | error e =>
        rw [acquirePool_of_invalid hk hv] at hrun
        cases hrun
        exact hfailed e rfl rfl
      | ok u =>
        cases u
        rcases hopen : (openConnection kind c).run w with ⟨r₁, w₁⟩
        have hframe : w₁.poolPart = w.poolPart := by
          have := openConnection_preserves kind c w
          rwa [Act.Preserves, hopen] at this
        simp only [World.poolPart, Prod.mk.injEq] at hframe
        obtain ⟨hpools, hreg, hmetrics⟩ := hframe
        cases r₁ with
        | error e =>
          rw [acquirePool_of_open_error hk hv hfind hopen] at hrun
          cases hrun
          refine ⟨hi.congr (by simp [World.poolPart, hpools, hreg, hmetrics]),
            fun id hmem => absurd hmem (hunregistered id), fun _ => .inr ⟨e, rfl, hreg, hpools⟩⟩
        | ok conn =>
          obtain ⟨w₂, hrun₂, hp, hr, hm⟩ := acquirePool_of_opened hk hv hfind hopen
          rw [hrun₂] at hrun
          cases hrun
          rw [hpools] at hp hr
          rw [hreg] at hr
          rw [hmetrics] at hm
          refine ⟨hi.register hnew ⟨c, rfl, kind, hk, hv⟩ (openConnection_kind hopen) hp hr hm,
            fun id hmem => absurd hmem (hunregistered id), fun _ => .inl ⟨by rw [hpools], hr, ?_⟩⟩
          rw [pool_of_append_self hp]

theorem mem_of_acquire (hi : w.RegistryInv) (hrun : (acquirePool c).run w = (.ok i, w₁)) :
    (c.poolKey, i) ∈ w₁.registry ∧ ∀ e ∈ w.registry, e ∈ w₁.registry := by
  obtain ⟨-, hold, hnew⟩ := hi.acquire hrun
  by_cases hk : c.poolKey ∈ w.registry.map (·.1)
  · obtain ⟨e, he, hkey⟩ := List.mem_map.1 hk
    obtain ⟨k, id⟩ := e
    cases hkey
    obtain ⟨hid, rfl⟩ := hold id he
    cases hid
    exact ⟨he, fun _ h => h⟩
  · rcases hnew hk with ⟨hid, hreg, -⟩ | ⟨e, herr, -⟩
    · cases hid
      rw [hreg]
      exact ⟨List.mem_append_right _ (List.mem_singleton_self _), fun e he => List.mem_append_left _ he⟩
    · cases herr

theorem shared (hi : w.RegistryInv) (h₁ : (acquirePool c).run w = (.ok i, w₁))
    (h₂ : (acquirePool c').run w₁ = (.ok i', w₂)) : i = i' ↔ c.uri = c'.uri ∧ c.pool = c'.pool := by
  have hi₁ := (hi.acquire h₁).1
  obtain ⟨hmem₁, -⟩ := hi.mem_of_acquire h₁
  obtain ⟨hmem₂, hkeep⟩ := hi₁.mem_of_acquire h₂
  rw [(hi₁.acquire h₂).1.id_eq_iff (hkeep _ hmem₁) hmem₂, StoreConfig.poolKey_eq_iff]

theorem releaseMeets (hi : w.RegistryInv) (key : PoolKey) : ReleaseMeets key w (w.release key) := by
  refine ⟨World.registry_release w key, fun id hmem => ?_⟩
  have hclosed := hi.release_closes hmem
  exact ⟨hclosed, Pool.ensureOpen_of_closed hclosed⟩

theorem releaseAllMeets (hi : w.RegistryInv) : ReleaseAllMeets w w.releaseAll := by
  obtain ⟨-, hempty, hclosed⟩ := hi.releaseAll
  exact ⟨hempty, fun e he => ⟨hclosed e he, Pool.ensureOpen_of_closed (hclosed e he)⟩⟩

theorem contract (hi : w.RegistryInv) : w.PoolContract :=
  ⟨hi, fun _ _ _ hrun => (hi.acquire hrun).2, fun _ _ _ _ _ _ h₁ h₂ => hi.shared h₁ h₂,
    hi.releaseMeets, hi.releaseAllMeets⟩

theorem apply (hi : w.RegistryInv) : ∀ call : PoolCall, (call.apply w).RegistryInv
  | .acquire _ => (hi.acquire rfl).1
  | .release key => hi.release key
  | .releaseAll => hi.releaseAll.1

theorem applyAll (calls : List PoolCall) : ∀ w : World, w.RegistryInv → (PoolCall.applyAll calls w).RegistryInv := by
  induction calls with
  | nil => exact fun _ hi => hi
  | cons call calls ih => exact fun w hi => ih (call.apply w) (hi.apply call)

end World.RegistryInv

/-- Over every run of acquires and releases from a world whose registry keeps its
invariant, the registry keeps its promises, and driver options given in any order, each
name once, make the same pool options. -/
theorem pool_registry_keeps_contract {w₀ : World} (h₀ : w₀.RegistryInv) (calls : List PoolCall) :
    (PoolCall.applyAll calls w₀).PoolContract ∧
      ∀ (maxSize : Option Nat) (options options' : List (String × String)), options.Perm options' →
        (options.map Prod.fst).Nodup →
        PoolOptions.ofDriverOptions maxSize options = PoolOptions.ofDriverOptions maxSize options' :=
  ⟨(World.RegistryInv.applyAll calls w₀ h₀).contract, fun _ _ _ hperm hnames => PoolOptions.ofDriverOptions_perm hperm hnames⟩

def World.recording : World := { (default : World) with metrics := { enabled := true } }

theorem recording_registryInv : World.recording.RegistryInv where
  keys_nodup := List.nodup_nil
  ids_nodup := List.nodup_nil
  id_lt _ h := nomatch h
  key_eq _ h := nomatch h
  is_open _ h := nomatch h
  admitted _ h := nomatch h
  counted _ _ := rfl

theorem pool_registry_contract_from_recording :
    World.recording.RegistryInv ∧
      (PoolCall.applyAll [.acquire (StoreConfig.ofUri "sqlite::memory:"), .releaseAll] World.recording).PoolContract :=
  ⟨recording_registryInv, (pool_registry_keeps_contract recording_registryInv _).1⟩

end KvStore
