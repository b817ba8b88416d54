import KvStore.Sqlite.Migrate
import KvStore.Proofs.Store.Runs

/-!
A legacy-key migration is all or nothing. The run opens the database and brings the table
to its current shape outside any transaction (`setupMigration`); everything after that
happens inside one transaction, and every way out of it that does not commit rolls the
database back to the state the setup left (`migration_is_all_or_nothing`).

Each phase gets one lemma saying everything it can do: starting the transaction
(`beginTransaction_cases`), listing the moves (`prepareMigration_cases`) and deciding the
run (`finishMigration_cases`). The statements of the SQL engine stay opaque here: the
property holds whatever the selects and the update answer.

The rebuild that the bootstrap may run on a table whose uniqueness is on `key` alone is all
or nothing in the same way (`rebuild_is_all_or_nothing`), whatever its copy of the rows
answers.
-/

namespace KvStore

open Act

namespace World

@[simp] theorem database_record (w : World) (e : LogEvent) (id : Nat) :
    (w.record e).database id = w.database id := rfl

@[simp] theorem database_setDatabase (w : World) (id : Nat) (db : Sql.Database) :
    (w.setDatabase id db).database id = { db with clock := w.host.nowMillis } := by
  unfold setDatabase database
  split
  · rename_i held
    obtain ⟨entry, mem, hit⟩ := List.any_eq_true.mp held
    have found : ∃ e, w.databases.find? (·.1 == id) = some e := by
      cases h : w.databases.find? (·.1 == id) with
      | none => exact absurd (List.find?_eq_none.mp h entry mem) (by simpa using hit)
      | some e => exact ⟨e, rfl⟩
    obtain ⟨e, he⟩ := found
    have hid : e.1 = id := by simpa using List.find?_some he
    simp only [beq_iff_eq, List.find?_map, Function.comp_def, apply_ite Prod.fst, ite_self, he,
      Option.map_some, hid, ↓reduceIte, Option.getD_some]
  · rename_i absent
    have none : w.databases.find? (·.1 == id) = none :=
      List.find?_eq_none.mpr fun x hx hit => absent (List.any_eq_true.mpr ⟨x, hx, hit⟩)
    simp [List.find?_append, none]

@[simp] theorem objects_database_setDatabase (w : World) (id : Nat) (db : Sql.Database) :
    ((w.setDatabase id db).database id).objects = db.objects := by
  rw [database_setDatabase]

end World

namespace Sqlite

def objectsOf (link : SqliteLink) (w : World) : List Sql.SchemaObject :=
  (w.database link.database).objects

variable {α : Type} {link : SqliteLink} {before : Sql.Database} {report : MigrationReport}
  {table : String} {dryRun : Bool}

theorem logFinished_preserves (w : World) : logFinished.Preserves (objectsOf link) w := rfl

theorem objectsOf_rollbackTo_bind {f : Unit → Act α} {w : World}
    (hf : (f ()).Preserves (objectsOf link) (w.setDatabase link.database before)) :
    objectsOf link ((rollbackTo link before >>= f).run w).2 = before.objects := by
  rw [run_bind]
  exact hf.trans (World.objects_database_setDatabase _ _ _)

theorem onLink_returns {β : Type} (call : Sql.Database → Sql.Database × Except Sql.ClientError β)
    (w : World) : ∃ r w', (onLink link call).run w = (.ok r, w') := by
  unfold onLink
  by_cases readable : link.readable
  · exact ⟨_, _, by simp only [readable]; rfl⟩
  · exact ⟨_, _, by simp only [readable]; rfl⟩

/-- What deciding a prepared run can do: roll back a dry run or an empty one and report
it as listed, refuse collisions, fail in the update, each after rolling back, or commit
the moves. -/
theorem finishMigration_cases (w : World) :
    let run := (finishMigration link before report table dryRun).run w
    ((dryRun || report.preview.isEmpty) = true ∧ run.1 = .ok report ∧
        objectsOf link run.2 = before.objects) ∨
      ((dryRun || report.preview.isEmpty) = false ∧
        (∃ e, conflictError report.conflicts = some e ∧ run.1 = .error e) ∧
        objectsOf link run.2 = before.objects) ∨
      ((dryRun || report.preview.isEmpty) = false ∧ conflictError report.conflicts = none ∧
        (∃ e, run.1 = .error e) ∧ objectsOf link run.2 = before.objects) ∨
      ((dryRun || report.preview.isEmpty) = false ∧ conflictError report.conflicts = none ∧
        ∃ n, run.1 = .ok { report with applied := true, rowsUpdated := n }) := by
  intro run
  unfold run finishMigration
  split
  · rename_i rollback
    exact .inl ⟨rollback, rfl, objectsOf_rollbackTo_bind
      (Preserves.bind (logFinished_preserves _) fun _ _ _ => preserves_pure _ _ _)⟩
  · rename_i go
    replace go : (dryRun || report.preview.isEmpty) = false := by simpa using go
    dsimp only
    split
    · rename_i e conflict
      exact .inr (.inl ⟨go, ⟨e, conflict, rfl⟩,
        objectsOf_rollbackTo_bind (Preserves.bind (preserves_throw _ _ _) fun _ _ h => nomatch h)⟩)
    · rename_i clear
      replace clear : conflictError report.conflicts = none := Option.eq_none_iff_forall_ne_some.mpr clear
      obtain ⟨r, w₂, hrun⟩ := @onLink_returns link _ (fun db => Sql.execute db (moveKeysSql table) []) w
      rw [run_bind]
      erw [hrun]
      cases r with
      | ok n => exact .inr (.inr (.inr ⟨go, clear, n, rfl⟩))
      | error e =>
        exact .inr (.inr (.inl ⟨go, clear, ⟨_, rfl⟩, objectsOf_rollbackTo_bind (preserves_throw _ _ _)⟩))

theorem finishMigration_restores (w : World) :
    let run := (finishMigration link before report table dryRun).run w
    ((∃ e, run.1 = .error e) ∨ dryRun = true ∨ report.preview = []) →
      objectsOf link run.2 = before.objects := by
  intro run failed
  rcases @finishMigration_cases link before report table dryRun w with
    ⟨-, -, restored⟩ | ⟨-, -, restored⟩ | ⟨-, -, -, restored⟩ | ⟨decided, -, n, done⟩
  · exact restored
  · exact restored
  · exact restored
  · -- a committed run is none of the three
    simp only [Bool.or_eq_false_iff, List.isEmpty_eq_false_iff] at decided
    rcases failed with ⟨e, failed⟩ | dry | empty
    · exact nomatch done.symm.trans failed
    · exact absurd dry (by simp [decided.1])
    · exact absurd empty decided.2

theorem finishMigration_reports {s : MigrationReport} (w : World)
    (done : ((finishMigration link before report table dryRun).run w).1 = .ok s) :
    s.preview = report.preview ∧ s.conflicts = report.conflicts := by
  rcases @finishMigration_cases link before report table dryRun w with
    ⟨-, rolled, -⟩ | ⟨-, ⟨e, -, failed⟩, -⟩ | ⟨-, -, ⟨e, failed⟩, -⟩ | ⟨-, -, n, committed⟩
  · cases rolled.symm.trans done
    exact ⟨rfl, rfl⟩
  · exact nomatch failed.symm.trans done
  · exact nomatch failed.symm.trans done
  · cases committed.symm.trans done
    exact ⟨rfl, rfl⟩

theorem finishMigration_refuses {e : Error} (w : World) (dry : dryRun = false)
    (moves : report.preview ≠ []) (conflict : conflictError report.conflicts = some e) :
    ((finishMigration link before report table dryRun).run w).1 = .error e := by
  rcases @finishMigration_cases link before report table dryRun w with
    ⟨decided, -, -⟩ | ⟨-, ⟨e', conflict', failed⟩, -⟩ | ⟨-, clear, -⟩ | ⟨-, clear, -⟩
  · simp [dry, moves] at decided
  · rw [conflict] at conflict'
    cases conflict'
    exact failed
  · exact nomatch conflict.symm.trans clear
  · exact nomatch conflict.symm.trans clear

theorem beginTransaction_cases {operation : String} (w : World) :
    (∃ e, (beginTransaction link operation).run w = (.error e, w)) ∨
      (beginTransaction link operation).run w = (.ok (w.database link.database),
        w.setDatabase link.database
          { w.database link.database with savepoint := some (w.database link.database).objects }) := by
  unfold beginTransaction
  cases readable : link.readable
  · exact .inl ⟨_, by simp only [Bool.not_false, ↓reduceIte]; rfl⟩
  · simp only [Bool.not_true, Bool.false_eq_true, ↓reduceIte, run_get_bind]
    cases open_ : (w.database link.database).savepoint.isSome
    · exact .inr (by simp only [Bool.false_eq_true, ↓reduceIte]; rfl)
    · exact .inl ⟨_, by simp only [↓reduceIte]; rfl⟩

theorem listMoves_unapplied {w w' : World} {r : MigrationReport}
    (h : (listMoves link table).run w = (.ok r, w')) : r.applied = false ∧ r.rowsUpdated = 0 := by
  unfold listMoves at h
  rw [run_bind] at h
  split at h
  · rw [run_bind] at h
    split at h
    · cases h
      exact ⟨rfl, rfl⟩
    · cases h
  · cases h

theorem logMoves_returns (moves : List KeyMove) (w : World) :
    ∃ w', (forIn moves PUnit.unit fun _ _ => do
        Act.log .debug "kvbridge::migration::sqlite" "Legacy key" ["rewrite"]
        pure (ForInStep.yield PUnit.unit)).Returns w PUnit.unit w' ∧
      objectsOf link w' = objectsOf link w := by
  obtain ⟨_, w', hrun, same⟩ := returns_forIn
    moves (fun _ _ w' => objectsOf link w' = objectsOf link w)
    (fun _ _ _ _ w₁ _ same => ⟨PUnit.unit, w₁.record _, rfl, same⟩) PUnit.unit w rfl
    fun (_ : PUnit) (w' : World) (same : objectsOf link w' = objectsOf link w) => same
  exact ⟨w', hrun, same⟩

theorem run_attempt {a : Act α} (w : World) :
    (Act.attempt a).run w = (.ok (a.run w).1, (a.run w).2) := rfl

/-- A schema rebuild is all or nothing: it fails and leaves every table of the database as
it found it, rows included, or it returns with no transaction left open. -/
theorem rebuild_is_all_or_nothing (link : SqliteLink) (spec : SchemaSpec) (w : World) :
    let run := (rebuildTable link spec).run w
    (∃ e, run.1 = .error e ∧ objectsOf link run.2 = objectsOf link w) ∨
      (run.1 = .ok () ∧ (run.2.database link.database).savepoint = none) := by
  intro run
  unfold run rebuildTable
  cases readable : link.readable
  · exact .inl ⟨_, by simp only [Bool.not_false, ↓reduceIte]; rfl, rfl⟩
  · simp only [Bool.not_true, Bool.false_eq_true, ↓reduceIte, run_get_bind]
    cases open_ : (w.database link.database).savepoint.isSome
    · simp only [Bool.false_eq_true, ↓reduceIte]
      rw [run_modify_bind, run_bind, run_attempt]
      rcases (copyIntoRebuilt link spec).run _ with ⟨e | _ | _, w₂⟩
      · exact .inl ⟨e, rfl, World.objects_database_setDatabase _ _ _⟩
      · -- nothing to rebuild: the database is put back as it was, with no transaction open
        refine .inr ⟨rfl, ?_⟩
        show ((w₂.setDatabase link.database (w.database link.database)).database
          link.database).savepoint = none
        simpa using open_
      · refine .inr ⟨rfl, ?_⟩
        show ((w₂.setDatabase link.database { w₂.database link.database with savepoint := none }).database
          link.database).savepoint = none
        simp
    · exact .inl ⟨_, by simp only [↓reduceIte]; rfl, rfl⟩

/-- What preparing a run can do once the setup left `w₁`: fail, after rolling back, or
start the transaction on the database as the setup left it and list the moves, not yet
applied. -/
theorem prepareMigration_cases {uri : String} {options : MigrationOptions} {w w₁ : World}
    (setup : (setupMigration uri options).run w = (.ok link, w₁)) :
    let run := (prepareMigration uri options).run w
    ((∃ e, run.1 = .error e) ∧ objectsOf link run.2 = objectsOf link w₁) ∨
      (∃ before report, run.1 = .ok (link, before, report) ∧ before.objects = objectsOf link w₁ ∧
        report.applied = false ∧ report.rowsUpdated = 0) := by
  intro run
  unfold run prepareMigration
  rw [run_bind, setup]
  dsimp only
  rw [run_bind]
  rcases @beginTransaction_cases link "sqlite_migrate_begin" w₁ with
    ⟨e, begun⟩ | begun
  · rw [begun]
    exact .inl ⟨⟨e, rfl⟩, rfl⟩
  · rw [begun]
    dsimp only
    rw [run_bind, run_attempt]
    rcases listed : (listMoves link (migrationSpec options).table.qualified).run
      (w₁.setDatabase link.database
        { w₁.database link.database with savepoint := some (w₁.database link.database).objects })
      with ⟨_ | report, w₂⟩
    · exact .inl ⟨⟨_, rfl⟩, objectsOf_rollbackTo_bind (preserves_throw _ _ _)⟩
    · obtain ⟨w₃, logged, -⟩ := @logMoves_returns link report.preview w₂
      refine .inr ⟨_, report, ?_, rfl, listMoves_unapplied listed⟩
      dsimp only
      rw [run_bind]
      erw [logged]
      rfl

theorem migrate_run (uri : String) (options : MigrationOptions) (w : World) :
    (migrate uri options).run w = match (prepareMigration uri options).run w with
      | (.error e, w') => ({ previewSeen := none, result := .error e }, w')
      | (.ok (link, before, report), w') =>
        let done := (finishMigration link before report (migrationSpec options).table.qualified
          options.dryRun).run w'
        ({ previewSeen := some report, result := done.1 }, done.2) := by
  unfold migrate StateT.run
  simp only [bind, StateT.bind]
  rcases (prepareMigration uri options).run w with ⟨_ | ⟨link, before, report⟩, w'⟩ <;> rfl

/-- Once the setup has run, the preview is shown exactly when the transaction begins and
both selects answer, and what is shown is what they listed. -/
theorem migrate_shows_listed_moves {uri : String} {options : MigrationOptions} {w w₁ : World}
    (setup : (setupMigration uri options).run w = (.ok link, w₁)) :
    ((migrate uri options).run w).1.previewSeen =
      match (beginTransaction link "sqlite_migrate_begin").run w₁ with
      | (.error _, _) => none
      | (.ok _, w₂) =>
        match (listMoves link (migrationSpec options).table.qualified).run w₂ with
        | (.ok report, _) => some report
        | (.error _, _) => none := by
  rw [migrate_run]
  unfold prepareMigration
  rw [run_bind, setup]
  dsimp only
  rw [run_bind]
  rcases begun : (beginTransaction link "sqlite_migrate_begin").run w₁ with ⟨_ | before, w₂⟩
  · rfl
  · dsimp only
    rw [run_bind, run_attempt]
    rcases listed : (listMoves link (migrationSpec options).table.qualified).run w₂ with ⟨_ | report, w₃⟩
    · rfl
    · -- the moves are logged one by one, which cannot fail
      obtain ⟨w₄, logged, -⟩ := @logMoves_returns link report.preview w₃
      dsimp only
      rw [run_bind]
      erw [logged]
      rfl

/-- What a migration run promises once its setup has left the world `w₁` with the
connection `link`; the run ends with `r` in the world `w'`. -/
structure RunAtomic (options : MigrationOptions) (link : SqliteLink) (w₁ : World)
    (r : MigrationRun) (w' : World) : Prop where
  /-- A run that fails, a dry run and a run with nothing to move leave every table of the
  database as the setup left it. -/
  restored : ((∃ e, r.result = .error e) ∨ options.dryRun = true ∨
      ∃ s, r.previewSeen = some s ∧ s.preview = []) → objectsOf link w' = objectsOf link w₁
  /-- The report shown before the run is decided is not applied and changed nothing. -/
  shownUnapplied : ∀ s, r.previewSeen = some s → s.applied = false ∧ s.rowsUpdated = 0
  /-- A run that gets to its decision with a collision, not as a dry run and with moves
  to make, fails with the collision error, naming how many collide and the first. -/
  refusesCollisions : ∀ s e, r.previewSeen = some s → options.dryRun = false → s.preview ≠ [] →
    conflictError s.conflicts = some e → r.result = .error e
  shownReported : ∀ s s', r.previewSeen = some s → r.result = .ok s' →
    s'.preview = s.preview ∧ s'.conflicts = s.conflicts
  unshownFailed : r.previewSeen = none → ∃ e, r.result = .error e

/-- A migration is all or nothing. A run whose setup fails ends there, showing nothing.
Once the setup has brought the table to its current shape, a run that fails anywhere, a
dry run and a run that finds nothing to move leave every table as the setup left it; the
report is shown once, unapplied, exactly when the run gets as far as deciding, a collision
it shows refuses the run, and the run reports what it showed. -/
theorem migration_is_all_or_nothing (uri : String) (options : MigrationOptions) (w : World) :
    match (setupMigration uri options).run w with
    | (.ok link, w₁) =>
      RunAtomic options link w₁ ((migrate uri options).run w).1 ((migrate uri options).run w).2
    | (.error e, w₁) => (migrate uri options).run w = ({ previewSeen := none, result := .error e }, w₁) := by
  rcases setup : (setupMigration uri options).run w with ⟨_ | link, w₁⟩
  · rw [migrate_run]
    unfold prepareMigration
    rw [run_bind, setup]
  · dsimp only
    have prepared := prepareMigration_cases setup
    rw [migrate_run]
    rcases run : (prepareMigration uri options).run w with ⟨_ | ⟨link', before, report⟩, w₂⟩ <;>
      rw [run] at prepared <;> dsimp only at prepared ⊢
    · obtain ⟨-, restored⟩ := prepared.resolve_right fun ⟨_, _, h, _⟩ => nomatch h
      exact ⟨fun _ => restored, fun _ h => (nomatch h), fun _ _ h => (nomatch h),
        fun _ _ h => (nomatch h), fun _ => ⟨_, rfl⟩⟩
    · obtain ⟨before', report', same, hbefore, unapplied⟩ :=
        prepared.resolve_left fun ⟨⟨_, h⟩, _⟩ => nomatch h
      cases same
      refine ⟨fun failed => ?_, fun s h => by cases h; exact unapplied,
        fun s e h dry moves conflict => ?_, fun s s' h done => ?_, fun h => (nomatch h)⟩
      · rw [finishMigration_restores w₂ ?_, hbefore]
        rcases failed with failed | dry | ⟨s, shown, empty⟩
        · exact .inl failed
        · exact .inr (.inl dry)
        · cases shown
          exact .inr (.inr empty)
      · cases h
        exact finishMigration_refuses w₂ dry moves conflict
      · cases h
        exact finishMigration_reports w₂ done

end Sqlite

end KvStore
