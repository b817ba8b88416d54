import KvStore.Store.Backend
import KvStore.Proofs.Store.Runs

/-!
What backend calls leave alone. A backend reads and writes its pool's database or its
bucket's files, draws unique names and logs; nothing else. So every call of every backend,
whatever its outcome, leaves alone any view of the world blind to those four
(`World.BackendFrame`): the metrics (`World.metricsFrame`), so the store's counters move only
where the store itself counts, and the pools and the registry.

`Act.Keeps v a` says that `a`, run from any world, leaves the view `v` of it as it was; it
is built along the code from `Keeps.bind` and the loops' lemmas, once for every such view
(`Backend.keeps_*`).
-/

namespace KvStore

namespace Act

variable {α β γ δ : Type} {v : World → γ}

/-- Run from any world, whatever its outcome, the action leaves the view `v` as it was. -/
def Keeps (v : World → γ) (a : Act α) : Prop := ∀ w, a.Preserves v w

namespace Keeps

theorem pure (x : α) : Keeps v (pure x : Act α) := fun _ => rfl

theorem throw (e : Error) : Keeps v (throw e : Act α) := fun _ => rfl

theorem throw_bind (e : Error) (f : α → Act β) : Keeps v ((MonadExcept.throw e : Act α) >>= f) := fun _ => rfl

theorem bind {a : Act α} {f : α → Act β} (ha : Keeps v a) (hf : ∀ x, Keeps v (f x)) : Keeps v (a >>= f) :=
  fun w => (ha w).bind fun x w₁ _ => hf x w₁

theorem get_bind {f : World → Act β} (hf : ∀ w, Keeps v (f w)) : Keeps v (get >>= f) :=
  fun w => preserves_get_bind (hf w w)

theorem modify_bind {f : World → World} {g : PUnit → Act β} (hf : ∀ w, v (f w) = v w)
    (hg : ∀ u, Keeps v (g u)) : Keeps v (modify f >>= g) :=
  fun w => (hg PUnit.unit (f w)).trans (hf w)

theorem modify {f : World → World} (hf : ∀ w, v (f w) = v w) : Keeps v (modify f) := hf

theorem attempt {a : Act α} (ha : Keeps v a) : Keeps v (Act.attempt a) := ha

theorem discard {a : Act α} (ha : Keeps v a) : Keeps v (Functor.discard a) := by
  have hbind : (Functor.discard a : Act PUnit) = a >>= fun _ => Pure.pure PUnit.unit := by
    simp only [Functor.discard, map_const, Function.comp_apply, ← bind_pure_comp]
  rw [hbind]
  exact ha.bind fun _ => pure _

theorem log (level : LogLevel) (target message : String) (fields : List String) (span : Option LogSpan)
    (hv : ∀ w e, v (w.record e) = v w) : Keeps v (Act.log level target message fields span) :=
  fun w => hv w _

theorem fresh (hv : ∀ w, v { w with unique := w.unique + 1 } = v w) : Keeps v Act.fresh := hv

theorem forIn {f : δ → β → Act (ForInStep β)} (hf : ∀ x b, Keeps v (f x b)) :
    ∀ (xs : List δ) (b : β), Keeps v (forIn xs b f)
  | [], _ => pure _
  | x :: xs, b => by
    rw [List.forIn_cons]
    refine (hf x b).bind fun step => ?_
    cases step with
    | done b' => exact pure b'
    | yield b' => exact forIn hf xs b'

theorem foldlM {f : β → δ → Act β} (hf : ∀ b x, Keeps v (f b x)) :
    ∀ (xs : List δ) (b : β), Keeps v (xs.foldlM f b)
  | [], _ => pure _
  | x :: xs, b => by
    rw [List.foldlM_cons]
    exact (hf b x).bind fun b' => foldlM hf xs b'

theorem mapM {f : δ → Act β} (hf : ∀ x, Keeps v (f x)) : ∀ xs : List δ, Keeps v (xs.mapM f)
  | [] => pure _
  | x :: xs => by
    rw [List.mapM_cons]
    exact (hf x).bind fun _ => (mapM hf xs).bind fun _ => pure _

end Keeps

abbrev KeepsMetrics (a : Act α) : Prop := Keeps (·.metrics) a

end Act

namespace World

@[simp] theorem metrics_setDatabase (w : World) (id : Nat) (db : Sql.Database) :
    (w.setDatabase id db).metrics = w.metrics := by
  unfold setDatabase
  split <;> rfl

@[simp] theorem metrics_record (w : World) (e : LogEvent) : (w.record e).metrics = w.metrics := rfl

/-- A view of the world that backend calls cannot change: one blind to the databases'
contents, the host (its files and clock), the log and the counter of unique names. -/
structure BackendFrame {γ : Type} (v : World → γ) : Prop where
  setDatabase : ∀ w id db, v (w.setDatabase id db) = v w
  host : ∀ (w : World) (h : Host), v { w with host := h } = v w
  record : ∀ w e, v (w.record e) = v w
  fresh : ∀ w : World, v { w with unique := w.unique + 1 } = v w

theorem metricsFrame : BackendFrame (·.metrics) where
  setDatabase := metrics_setDatabase
  host _ _ := rfl
  record := metrics_record
  fresh _ := rfl

end World

open Act

section Frame

variable {γ : Type} {v : World → γ} (hv : World.BackendFrame v)
include hv

namespace Sqlite

variable {α : Type} (link : SqliteLink)

theorem keeps_onLink (call : Sql.Database → Sql.Database × Except Sql.ClientError α) :
    Keeps v (onLink link call) := by
  intro w
  unfold onLink Preserves
  cases link.readable
  · rfl
  · exact hv.setDatabase w link.database (call (w.database link.database)).1

theorem keeps_batchOn (sql : String) : Keeps v (batchOn link sql) := by
  intro w
  unfold batchOn Preserves
  cases link.readable
  · rfl
  · exact hv.setDatabase w link.database (Sql.executeBatch (w.database link.database) sql).1

theorem keeps_executeOn (sql : String) (params : List Sql.Value) :
    Keeps v (executeOn link sql params) :=
  keeps_onLink hv link _

theorem keeps_queryOn (sql : String) (params : List Sql.Value) :
    Keeps v (queryOn link sql params) :=
  keeps_onLink hv link _

omit hv in
theorem keeps_orFail (operation : String) (r : Except Sql.ClientError α) :
    Keeps v (orFail operation r) := by
  cases r
  · exact Keeps.throw _
  · exact Keeps.pure _

theorem keeps_inTransaction (operation : String) {body : Act α} (hbody : Keeps v body) :
    Keeps v (inTransaction link operation body) := by
  unfold inTransaction
  split
  · exact Keeps.throw _
  refine Keeps.get_bind fun w => ?_
  dsimp only
  split
  · exact Keeps.throw_bind _ _
  refine Keeps.modify_bind (fun _ => hv.setDatabase _ _ _) fun _ => ?_
  refine (Keeps.attempt hbody).bind fun r => ?_
  cases r with
  | ok a => exact Keeps.get_bind fun _ => Keeps.modify_bind (fun _ => hv.setDatabase _ _ _) fun _ => Keeps.pure _
  | error e => exact Keeps.modify_bind (fun _ => hv.setDatabase _ _ _) fun _ => Keeps.throw _

theorem keeps_selectIn {table columns ns : String} {keys : List String} {operation : String}
    {readRow : Sql.ResultRow → Except Sql.ClientError α} :
    Keeps v (selectIn link table columns ns keys operation readRow) := by
  unfold selectIn
  refine (Keeps.forIn (fun chunk out => ?_) _ _).bind fun _ => Keeps.pure _
  refine (keeps_queryOn hv _ _ _).bind fun rows => (keeps_orFail _ _).bind fun rows => ?_
  refine (Keeps.forIn (fun r out => ?_) _ _).bind fun _ => Keeps.pure _
  exact (keeps_orFail _ _).bind fun _ => Keeps.pure _

theorem keeps_tolerate (sql step : String) : Keeps v (tolerate link sql step) := by
  unfold tolerate
  refine (keeps_batchOn hv _ _).bind fun r => ?_
  split
  · exact Keeps.pure _
  · split
    · exact Keeps.log _ _ _ _ _ hv.record
    · exact Keeps.throw _

theorem keeps_tableColumns (table : String) : Keeps v (tableColumns link table) := by
  unfold tableColumns
  refine (keeps_queryOn hv _ _ _).bind fun _ => (keeps_orFail _ _).bind fun rows => ?_
  exact Keeps.mapM (fun _ => (keeps_orFail _ _).bind fun _ =>
    (keeps_orFail _ _).bind fun _ => Keeps.pure _) rows

theorem keeps_inspectKeyUniqueness (table : String) : Keeps v (inspectKeyUniqueness link table) := by
  unfold inspectKeyUniqueness
  refine (keeps_tableColumns hv _ _).bind fun _ => (keeps_queryOn hv _ _ _).bind fun _ =>
    (keeps_orFail _ _).bind fun rows => ?_
  refine (Keeps.mapM (fun _ => ?_) rows).bind fun indexes => ?_
  · exact (keeps_orFail _ _).bind fun _ => (keeps_orFail _ _).bind fun _ =>
      (keeps_orFail _ _).bind fun _ => Keeps.pure _
  refine (Keeps.forIn (fun index found => ?_) _ _).bind fun _ => Keeps.pure _
  obtain ⟨name, unique, origin⟩ := index
  dsimp only
  split
  · refine (keeps_queryOn hv _ _ _).bind fun _ => (keeps_orFail _ _).bind fun info => ?_
    refine (Keeps.mapM (fun _ => keeps_orFail _ _) info).bind fun _ => ?_
    split
    · split <;> exact Keeps.pure _
    · exact Keeps.pure _
  · exact Keeps.pure _

theorem keeps_copyIntoRebuilt (spec : SchemaSpec) : Keeps v (copyIntoRebuilt link spec) := by
  unfold copyIntoRebuilt
  refine (keeps_inspectKeyUniqueness hv _ _).bind fun found => ?_
  dsimp only
  split
  · exact Keeps.pure _
  refine (keeps_tableColumns hv _ _).bind fun _ => ?_
  refine (Keeps.log _ _ _ _ _ hv.record).bind fun _ => (keeps_batchOn hv _ _).bind fun r => ?_
  split
  · exact Keeps.throw _
  · exact Keeps.pure _

theorem keeps_rebuildTable (spec : SchemaSpec) : Keeps v (rebuildTable link spec) := by
  unfold rebuildTable
  split
  · exact Keeps.throw _
  refine Keeps.get_bind fun w => ?_
  dsimp only
  split
  · exact Keeps.throw_bind _ _
  refine Keeps.modify_bind (fun _ => hv.setDatabase _ _ _) fun _ => ?_
  refine (Keeps.attempt (keeps_copyIntoRebuilt hv _ _)).bind fun r => ?_
  rcases r with e | _ | _
  · exact Keeps.modify_bind (fun _ => hv.setDatabase _ _ _) fun _ => Keeps.throw _
  · exact Keeps.modify (fun _ => hv.setDatabase _ _ _)
  · exact Keeps.get_bind fun _ => Keeps.modify (fun _ => hv.setDatabase _ _ _)

theorem keeps_dropKeyOnlyUniqueness (spec : SchemaSpec) : Keeps v (dropKeyOnlyUniqueness link spec) := by
  unfold dropKeyOnlyUniqueness
  refine (keeps_inspectKeyUniqueness hv _ _).bind fun found => ?_
  refine (Keeps.forIn (fun index _ => ?_) _ _).bind fun _ => ?_
  · exact (Keeps.log _ _ _ _ _ hv.record).bind fun _ =>
      (keeps_tolerate hv _ _ _).bind fun _ => Keeps.pure _
  split
  · exact keeps_rebuildTable hv _ _
  · exact Keeps.pure _

theorem keeps_bootstrap (spec : SchemaSpec) : Keeps v (bootstrap link spec) := by
  unfold bootstrap
  exact (keeps_tolerate hv _ _ _).bind fun _ => (keeps_tolerate hv _ _ _).bind fun _ =>
    (keeps_dropKeyOnlyUniqueness hv _ _).bind fun _ => (keeps_tolerate hv _ _ _).bind fun _ =>
      (keeps_tolerate hv _ _ _).bind fun _ => keeps_tolerate hv _ _ _

namespace SqliteBackend

variable (b : SqliteBackend) (ns : String)

omit hv in
theorem keeps_link : Keeps v b.link := by
  unfold link
  refine Keeps.get_bind fun w => ?_
  split
  · exact Keeps.pure _
  · exact Keeps.throw _

theorem keeps_bootstrap : Keeps v b.bootstrap :=
  (keeps_link b).bind fun link => Sqlite.keeps_bootstrap hv link _

theorem keeps_getMany (keys : List String) : Keeps v (b.getMany ns keys) :=
  (keeps_link b).bind fun link => keeps_selectIn hv link

theorem keeps_hasMany (keys : List String) : Keeps v (b.hasMany ns keys) :=
  (keeps_link b).bind fun link => keeps_selectIn hv link

theorem keeps_upsertMany (entries : List StoredEntry) : Keeps v (b.upsertMany ns entries) := by
  unfold upsertMany
  refine (keeps_link b).bind fun link => keeps_inTransaction hv link _ ?_
  refine (Keeps.forIn (fun e _ => ?_) _ _).bind fun _ => Keeps.pure _
  exact (keeps_executeOn hv _ _ _).bind fun _ => (Keeps.discard (keeps_orFail _ _)).bind fun _ =>
    Keeps.pure _

theorem keeps_delete (key : String) : Keeps v (b.delete ns key) :=
  (keeps_link b).bind fun _ => (keeps_executeOn hv _ _ _).bind fun _ =>
    (keeps_orFail _ _).bind fun _ => Keeps.pure _

theorem keeps_deleteMany (keys : List String) : Keeps v (b.deleteMany ns keys) := by
  unfold deleteMany
  refine (keeps_link b).bind fun link => keeps_inTransaction hv link _ ?_
  refine (Keeps.forIn (fun chunk _ => ?_) _ _).bind fun _ => Keeps.pure _
  exact (keeps_executeOn hv _ _ _).bind fun _ => (keeps_orFail _ _).bind fun _ => Keeps.pure _

theorem keeps_clearNamespace : Keeps v (b.clearNamespace ns) :=
  (keeps_link b).bind fun _ => (keeps_executeOn hv _ _ _).bind fun _ => keeps_orFail _ _

theorem keeps_clearExpired (now : Int) : Keeps v (b.clearExpired now) :=
  (keeps_link b).bind fun _ => (keeps_executeOn hv _ _ _).bind fun _ => keeps_orFail _ _

theorem keeps_page (cursor : Option String) (limit : Nat) : Keeps v (b.page ns cursor limit) := by
  unfold page
  refine (keeps_link b).bind fun link => ?_
  dsimp only
  have rest : ∀ rows, Keeps v (do
      let entries ← List.mapM (fun r => orFail "sqlite_page" (keyValue r)) rows
      pure (Page.ofEntries entries)) := fun rows =>
    (Keeps.mapM (fun _ => keeps_orFail _ _) rows).bind fun _ => Keeps.pure _
  split
  · exact (keeps_queryOn hv _ _ _).bind fun _ => (keeps_orFail _ _).bind rest
  · exact (keeps_queryOn hv _ _ _).bind fun _ => (keeps_orFail _ _).bind rest

end SqliteBackend

end Sqlite

namespace Bucket

omit hv in
theorem keeps_resolve (path : String) : Keeps v (resolve path) := Keeps.get_bind fun _ => Keeps.pure _

omit hv in
theorem keeps_files : Keeps v files := Keeps.get_bind fun _ => Keeps.pure _

theorem keeps_change (f : FileTree → Nat → Except IoError FileTree) : Keeps v (change f) := by
  intro w
  unfold change Preserves
  rw [run_get_bind]
  dsimp only
  split <;> exact hv.host _ _

namespace Layout

variable (l : Layout) (ns : String)

omit hv in
theorem keeps_ensureOpen : Keeps v l.ensureOpen := by
  unfold ensureOpen
  refine Keeps.get_bind fun w => ?_
  split
  · exact Keeps.throw _
  · exact Keeps.pure _

theorem keeps_bootstrap : Keeps v l.bootstrap := by
  unfold bootstrap
  refine (keeps_ensureOpen l).bind fun _ => (keeps_resolve _).bind fun _ =>
    (keeps_change hv _).bind fun r => ?_
  split
  · exact Keeps.pure _
  · exact Keeps.throw _

omit hv in
theorem keeps_load (path : String) : Keeps v (l.load path) := by
  unfold load
  refine (keeps_ensureOpen l).bind fun _ => keeps_files.bind fun _ =>
    (keeps_resolve _).bind fun _ => ?_
  split
  · exact Keeps.pure _
  · exact Keeps.throw _
  · split
    · exact Keeps.pure _
    · exact Keeps.throw _

theorem keeps_touch (path : String) : Keeps v (touch path) := by
  unfold touch
  refine (keeps_resolve _).bind fun _ => (keeps_change hv _).bind fun r => ?_
  split
  · exact Keeps.pure _
  · exact Keeps.pure _
  · exact Keeps.log _ _ _ _ _ hv.record

theorem keeps_getMany (keys : List String) : Keeps v (l.getMany ns keys) := by
  unfold getMany
  refine Keeps.foldlM (fun found key => ?_) _ _
  refine (keeps_load l _).bind fun o => ?_
  split
  · split
    · exact (keeps_touch hv _).bind fun _ => Keeps.pure _
    · exact Keeps.pure _
  · exact Keeps.pure _

theorem keeps_upsertMany (entries : List StoredEntry) : Keeps v (l.upsertMany ns entries) := by
  unfold upsertMany
  refine (keeps_ensureOpen l).bind fun _ => (keeps_resolve _).bind fun _ =>
    (keeps_change hv _).bind fun r => ?_
  -- the namespace directory is made first; the writes follow it
  dsimp only
  split
  · refine (Keeps.get_bind fun w => Keeps.forIn (fun entry _ => ?_) _ _).bind fun _ => Keeps.pure _
    refine (Keeps.fresh hv.fresh).bind fun _ => (keeps_resolve _).bind fun _ =>
      (keeps_change hv _).bind fun r => ?_
    split
    · refine (keeps_resolve _).bind fun _ => (keeps_change hv _).bind fun r => ?_
      split
      · exact Keeps.pure _
      · exact (Keeps.discard (keeps_change hv _)).bind fun _ => Keeps.throw_bind _ _
    · exact (Keeps.discard (keeps_change hv _)).bind fun _ => Keeps.throw_bind _ _
  · exact Keeps.throw_bind _ _

theorem keeps_remove (path : String) : Keeps v (l.remove path) := by
  unfold remove
  refine (keeps_ensureOpen l).bind fun _ => (keeps_resolve _).bind fun _ =>
    (keeps_change hv _).bind fun r => ?_
  split
  · exact Keeps.pure _
  · exact Keeps.pure _
  · exact Keeps.throw _

theorem keeps_delete (key : String) : Keeps v (l.delete ns key) := keeps_remove hv l _

theorem keeps_deleteMany (keys : List String) : Keeps v (l.deleteMany ns keys) :=
  Keeps.foldlM (fun _ _ => (keeps_delete hv l ns _).bind fun _ => Keeps.pure _) _ _

omit hv in
theorem keeps_hasMany (keys : List String) : Keeps v (l.hasMany ns keys) := by
  unfold hasMany
  refine (keeps_ensureOpen l).bind fun _ => Keeps.foldlM (fun found key => ?_) _ _
  refine keeps_files.bind fun _ => (keeps_resolve _).bind fun _ => ?_
  split
  · exact Keeps.pure _
  · exact Keeps.pure _
  · exact Keeps.throw _

theorem keeps_listObjects (dir : String) : Keeps v (l.listObjects dir) := by
  unfold listObjects
  refine keeps_files.bind fun _ => (keeps_resolve _).bind fun _ => ?_
  split
  · exact Keeps.pure _
  · exact Keeps.throw _
  refine Keeps.foldlM (fun acc name => ?_) _ _
  dsimp only
  split
  · exact Keeps.pure _
  split
  · exact Keeps.pure _
  split
  · refine (Keeps.attempt (keeps_load l _)).bind fun r => ?_
    split
    · exact Keeps.pure _
    · exact Keeps.pure _
    · exact (Keeps.log _ _ _ _ _ hv.record).bind fun _ => Keeps.pure _
  · exact Keeps.pure _

theorem keeps_listNamespace : Keeps v (l.listNamespace ns) :=
  (keeps_ensureOpen l).bind fun _ => (keeps_listObjects hv l _).bind fun _ => Keeps.pure _

omit hv in
theorem keeps_namespaceDirs : Keeps v l.namespaceDirs := by
  unfold namespaceDirs
  refine (keeps_ensureOpen l).bind fun _ => keeps_files.bind fun _ =>
    (keeps_resolve _).bind fun _ => ?_
  split
  · exact Keeps.pure _
  · exact Keeps.throw _
  · exact Keeps.pure _

theorem keeps_clearNamespace : Keeps v (l.clearNamespace ns) :=
  (keeps_listNamespace hv l ns).bind fun _ =>
    Keeps.foldlM (fun _ _ => (keeps_remove hv l _).bind fun _ => Keeps.pure _) _ _

theorem keeps_restore (tomb path : Path) : Keeps v (restore tomb path) := by
  unfold restore
  refine (keeps_change hv _).bind fun r => ?_
  -- either way one more file-system call follows, its failure the error
  split <;> refine (keeps_change hv _).bind fun r => ?_ <;> split
  all_goals first | exact Keeps.pure _ | exact Keeps.throw _

theorem keeps_reap (path : String) (stale : StoredObject → Nat → Bool) :
    Keeps v (l.reap path stale) := by
  unfold reap
  refine (keeps_ensureOpen l).bind fun _ => ?_
  split
  · exact Keeps.pure _
  refine (Keeps.fresh hv.fresh).bind fun _ => (keeps_resolve _).bind fun _ =>
    (keeps_resolve _).bind fun _ => (keeps_change hv _).bind fun r => ?_
  split
  · -- the object is in its tombstone: judge it there, then remove or restore it
    refine (Keeps.attempt (keeps_files.bind fun _ => ?_)).bind fun verdict => ?_
    · split
      · exact Keeps.throw _
      · refine (keeps_load l _).bind fun o => ?_
        split
        · exact Keeps.pure _
        · exact Keeps.pure _
    rcases verdict with e | _ | _
    · refine (Keeps.attempt (keeps_restore hv _ _)).bind fun r => ?_
      split
      · exact (Keeps.log _ _ _ _ _ hv.record).bind fun _ => Keeps.throw _
      · exact Keeps.throw _
    · exact (keeps_restore hv _ _).bind fun _ => Keeps.pure _
    · refine (keeps_change hv _).bind fun r => ?_
      split
      · exact Keeps.pure _
      · exact Keeps.throw _
  · exact Keeps.pure _
  · exact Keeps.throw _

theorem keeps_clearExpired (now : Int) : Keeps v (l.clearExpired now) := by
  unfold clearExpired
  refine (keeps_namespaceDirs l).bind fun dirs => Keeps.foldlM (fun n dir => ?_) _ _
  refine (keeps_listObjects hv l _).bind fun objects => Keeps.foldlM (fun n object => ?_) _ _
  refine (keeps_load l _).bind fun o => ?_
  dsimp only
  -- only a loaded object that expired is a candidate for the reap
  split
  · split
    · exact (keeps_reap hv l _ _).bind fun _ => Keeps.pure _
    · exact Keeps.pure _
  · exact Keeps.pure _

theorem keeps_clearUnusedFor (maxAge : Nat) : Keeps v (l.clearUnusedFor maxAge) := by
  unfold clearUnusedFor
  refine Keeps.modify_bind (fun w => hv.host w _) fun _ => Keeps.get_bind fun w => ?_
  refine (keeps_namespaceDirs l).bind fun dirs => Keeps.foldlM (fun n dir => ?_) _ _
  refine (keeps_listObjects hv l _).bind fun objects => Keeps.foldlM (fun n object => ?_) _ _
  refine keeps_files.bind fun _ => (keeps_resolve _).bind fun _ => ?_
  split
  · split
    · exact (keeps_reap hv l _ _).bind fun _ => Keeps.pure _
    · exact Keeps.pure _
  · exact Keeps.pure _
  · exact Keeps.throw _

theorem keeps_page (cursor : Option String) (limit : Nat) : Keeps v (l.page ns cursor limit) := by
  unfold page
  refine (keeps_listNamespace hv l ns).bind fun objects => ?_
  refine (Keeps.foldlM (fun acc object => ?_) _ _).bind fun _ => Keeps.pure _
  refine (keeps_load l _).bind fun o => ?_
  split
  · exact Keeps.pure _
  · exact Keeps.pure _

end Layout

end Bucket

namespace Postgres.PostgresBackend

variable (b : PostgresBackend)

omit hv in
theorem keeps_connection_bind {α : Type} (f : ServerConnection → Act α) :
    Keeps v (b.connection >>= f) := by
  refine (?_ : Keeps v b.connection).bind fun c => nomatch c
  unfold connection
  refine Keeps.get_bind fun w => ?_
  dsimp only
  split
  · exact Keeps.throw_bind _ _
  · split <;> exact Keeps.throw _

end Postgres.PostgresBackend

namespace Backend

variable (b : Backend) (ns : String)

theorem keeps_bootstrap : Keeps v b.bootstrap := by
  cases b with
  | sqlite b => exact Sqlite.SqliteBackend.keeps_bootstrap hv b
  | bucket l => exact Bucket.Layout.keeps_bootstrap hv l
  | postgres b => exact Postgres.PostgresBackend.keeps_connection_bind b _

theorem keeps_getMany (keys : List String) : Keeps v (b.getMany ns keys) := by
  cases b with
  | sqlite b => exact Sqlite.SqliteBackend.keeps_getMany hv b ns keys
  | bucket l => exact Bucket.Layout.keeps_getMany hv l ns keys
  | postgres b => exact Postgres.PostgresBackend.keeps_connection_bind b _

theorem keeps_upsertMany (entries : List StoredEntry) : Keeps v (b.upsertMany ns entries) := by
  cases b with
  | sqlite b => exact Sqlite.SqliteBackend.keeps_upsertMany hv b ns entries
  | bucket l => exact Bucket.Layout.keeps_upsertMany hv l ns entries
  | postgres b => exact Postgres.PostgresBackend.keeps_connection_bind b _

theorem keeps_delete (key : String) : Keeps v (b.delete ns key) := by
  cases b with
  | sqlite b => exact Sqlite.SqliteBackend.keeps_delete hv b ns key
  | bucket l => exact Bucket.Layout.keeps_delete hv l ns key
  | postgres b => exact Postgres.PostgresBackend.keeps_connection_bind b _

theorem keeps_deleteMany (keys : List String) : Keeps v (b.deleteMany ns keys) := by
  cases b with
  | sqlite b => exact Sqlite.SqliteBackend.keeps_deleteMany hv b ns keys
  | bucket l => exact Bucket.Layout.keeps_deleteMany hv l ns keys
  | postgres b => exact Postgres.PostgresBackend.keeps_connection_bind b _

theorem keeps_hasMany (keys : List String) : Keeps v (b.hasMany ns keys) := by
  cases b with
  | sqlite b => exact Sqlite.SqliteBackend.keeps_hasMany hv b ns keys
  | bucket l => exact Bucket.Layout.keeps_hasMany l ns keys
  | postgres b => exact Postgres.PostgresBackend.keeps_connection_bind b _

theorem keeps_clearNamespace : Keeps v (b.clearNamespace ns) := by
  cases b with
  | sqlite b => exact Sqlite.SqliteBackend.keeps_clearNamespace hv b ns
  | bucket l => exact Bucket.Layout.keeps_clearNamespace hv l ns
  | postgres b => exact Postgres.PostgresBackend.keeps_connection_bind b _

theorem keeps_clearExpired (now : Int) : Keeps v (b.clearExpired now) := by
  cases b with
  | sqlite b => exact Sqlite.SqliteBackend.keeps_clearExpired hv b now
  | bucket l => exact Bucket.Layout.keeps_clearExpired hv l now
  | postgres b => exact Postgres.PostgresBackend.keeps_connection_bind b _

theorem keeps_page (cursor : Option String) (limit : Nat) : Keeps v (b.page ns cursor limit) := by
  cases b with
  | sqlite b => exact Sqlite.SqliteBackend.keeps_page hv b ns cursor limit
  | bucket l => exact Bucket.Layout.keeps_page hv l ns cursor limit
  | postgres b => exact Postgres.PostgresBackend.keeps_connection_bind b _

end Backend


end Frame

end KvStore
