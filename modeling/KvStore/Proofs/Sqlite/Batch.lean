import Mathlib
import KvStore.Sqlite.Backend
import KvStore.Proofs.Migration.AllOrNothing
import KvStore.Proofs.Store.Gate

/-!
SQLite batch writes are all or nothing. Writing entries runs one upsert per entry, and
deleting keys one `DELETE ... IN (...)` per chunk of at most 500 keys, all inside one
transaction. The meaning of such a batch is the statements run one after another on the
connection's database (`runStatements`): the call fails and every database reads as before
it, or the statements all ran and the connection's database is the one they left, with the
transaction closed; and when they all run, the call returns (`BatchAtomic`).

The statements of the SQL engine stay opaque: the property holds whatever each statement
does to the database and whether it fails.
-/

namespace KvStore

namespace World

variable (w : World) (id : Nat) (db : Sql.Database)

theorem find?_map_of_keys {β : Type} {f : Nat × β → Nat × β} {l : List (Nat × β)} {i : Nat}
    (hkey : ∀ e, (f e).1 = e.1) (hkeep : ∀ e, (e.1 == i) = true → f e = e) :
    (l.map f).find? (·.1 == i) = l.find? (·.1 == i) := by
  induction l with
  | nil => rfl
  | cons e l ih =>
    simp only [List.map_cons, List.find?_cons, hkey]
    cases h : e.1 == i
    · exact ih
    · rw [hkeep e h]

theorem database_setDatabase_of_ne {i : Nat} (hi : i ≠ id) : (w.setDatabase id db).database i = w.database i := by
  unfold setDatabase database
  split
  · -- the entry of `id` is replaced in place; the first entry of `i` is found unchanged
    rw [find?_map_of_keys]
    · rintro ⟨k, d⟩
      dsimp only
      split <;> rfl
    · rintro ⟨k, d⟩ he
      have hk : k = i := by simpa using he
      subst hk
      simp [hi]
  · rw [List.find?_append]
    have skipped : [(id, db)].find? (·.1 == i) = none := by simp [Ne.symm hi]
    rw [skipped, Option.or_none]

@[simp] theorem database_with_clock : { w.database id with clock := w.host.nowMillis } = w.database id := rfl

/-- The world `w'` differs from `w` in the database `id` at most: every other part of the world is as
it was, and every other database reads the same. -/
structure Frame (id : Nat) (w w' : World) : Prop where
  rest : { w' with databases := w.databases } = w
  other : ∀ i, i ≠ id → w'.database i = w.database i

namespace Frame

variable {id : Nat} {w₁ w₂ w₃ : World}

@[refl] theorem refl (id : Nat) (w : World) : Frame id w w := ⟨rfl, fun _ _ => rfl⟩

theorem trans (h₁ : Frame id w₁ w₂) (h₂ : Frame id w₂ w₃) : Frame id w₁ w₃ where
  rest := calc { w₃ with databases := w₁.databases }
      _ = { { w₃ with databases := w₂.databases } with databases := w₁.databases } := rfl
      _ = { w₂ with databases := w₁.databases } := by rw [h₂.rest]
      _ = w₁ := h₁.rest
  other i hi := (h₂.other i hi).trans (h₁.other i hi)

theorem host (h : Frame id w₁ w₂) : w₂.host = w₁.host := by
  have hosts := congrArg World.host h.rest
  exact hosts

end Frame

theorem frame_setDatabase : Frame id w (w.setDatabase id db) where
  rest := by
    unfold setDatabase
    split <;> rfl
  other _ hi := database_setDatabase_of_ne w id db hi

@[simp] theorem host_setDatabase : (w.setDatabase id db).host = w.host := (frame_setDatabase w id db).host

end World

namespace Sqlite

open Act

variable {α β γ : Type} {link : SqliteLink}

/-- Statements run one after another on a connection's database, each on the database the
one before left, read at the clock reading `now`: the database the last leaves and the rows
each changed, or `none` when one fails. -/
def runStatements (now : Nat) : Sql.Database → List (String × List Sql.Value) → Option (Sql.Database × List Nat)
  | db, [] => some (db, [])
  | db, (sql, params) :: rest =>
    match Sql.execute db sql params with
    | (db', .ok n) => (runStatements now { db' with clock := now } rest).map fun (d, counts) => (d, n :: counts)
    | (_, .error _) => none

def upsertStatements (b : SqliteBackend) (ns : String) (entries : List StoredEntry) :
    List (String × List Sql.Value) :=
  entries.map fun e => (upsertSql b.qualified, upsertParams ns e)

def deleteStatements (b : SqliteBackend) (ns : String) (keys : List String) : List (String × List Sql.Value) :=
  (chunks inChunk keys).map fun chunk => (deleteInSql b.qualified chunk.length, texts (ns :: chunk))

section Chunks

variable {δ : Type} {n : Nat}

theorem chunks_go_succ_cons (fuel : Nat) (x : δ) (xs : List δ) :
    chunks.go n (fuel + 1) (x :: xs) = (x :: xs).take n :: chunks.go n fuel ((x :: xs).drop (max n 1)) := rfl

theorem flatten_chunks_go (hn : 0 < n) :
    ∀ (fuel : Nat) (xs : List δ), xs.length ≤ fuel → (chunks.go n fuel xs).flatten = xs
  | 0, xs, h => by
    rw [List.eq_nil_of_length_eq_zero (Nat.le_zero.mp h)]
    rfl
  | _ + 1, [], _ => rfl
  | fuel + 1, x :: xs, h => by
    -- each chunk takes at least one item, so the fuel, the number of items, lasts
    have hdrop : ((x :: xs).drop (max n 1)).length ≤ fuel := by
      simp only [List.length_drop, List.length_cons] at h ⊢
      omega
    rw [chunks_go_succ_cons, List.flatten_cons, flatten_chunks_go hn fuel _ hdrop, Nat.max_eq_left hn, List.take_append_drop]

theorem mem_chunks_go (hn : 0 < n) : ∀ (fuel : Nat) (xs : List δ), ∀ c ∈ chunks.go n fuel xs, c ≠ [] ∧ c.length ≤ n
  | 0, _, _, h => nomatch h
  | _ + 1, [], _, h => nomatch h
  | fuel + 1, x :: xs, c, h => by
    rw [chunks_go_succ_cons, List.mem_cons] at h
    rcases h with rfl | h
    · refine ⟨?_, List.length_take_le _ _⟩
      simp only [ne_eq, List.take_eq_nil_iff, reduceCtorEq, or_false]
      omega
    · exact mem_chunks_go hn fuel _ c h

theorem flatten_chunks (hn : 0 < n) (xs : List δ) : (chunks n xs).flatten = xs :=
  flatten_chunks_go hn _ xs (Nat.le_refl _)

theorem chunk_bounds (hn : 0 < n) {xs c : List δ} (hc : c ∈ chunks n xs) : c ≠ [] ∧ c.length ≤ n :=
  mem_chunks_go hn _ xs c hc

end Chunks

section Runs

theorem link_run (b : SqliteBackend) (w : World) :
    b.link.run w = match (w.pool b.pool).connection with
      | .sqlite (some l) => (.ok l, w)
      | _ => (.error .disconnected, w) := by
  unfold SqliteBackend.link
  rw [run_get_bind]
  rcases (w.pool b.pool).connection with (_ | l) | root | n <;> rfl

theorem executeOn_run (hread : link.readable = true) (sql : String) (params : List Sql.Value) (w : World) :
    (executeOn link sql params).run w =
      (.ok (Sql.execute (w.database link.database) sql params).2,
        w.setDatabase link.database (Sql.execute (w.database link.database) sql params).1) := by
  unfold executeOn onLink
  simp only [hread, Bool.not_true, Bool.false_eq_true, if_false]
  rfl

/-- The database as a transaction sees it: marked with the objects to roll back to. -/
def inTransactionOf (db : Sql.Database) : Sql.Database := { db with savepoint := some db.objects }

/-- A transaction refuses an unreadable database and one with a transaction open, changing
nothing; otherwise its body runs on the database marked with where to roll back to, and
the transaction commits what the body returned, or puts the database back as it was. -/
theorem inTransaction_run (operation : String) (body : Act α) (w : World) :
    (inTransaction link operation body).run w =
      if !link.readable then (.error (.operationFailed operation notADatabase.message), w)
      else if (w.database link.database).savepoint.isSome then
        (.error (.operationFailed operation "cannot start a transaction within a transaction"), w)
      else match body.run (w.setDatabase link.database (inTransactionOf (w.database link.database))) with
        | (.ok a, w₂) => (.ok a, w₂.setDatabase link.database { w₂.database link.database with savepoint := none })
        | (.error e, w₂) => (.error e, w₂.setDatabase link.database (w.database link.database)) := by
  unfold inTransaction inTransactionOf
  cases hread : link.readable
  · rfl
  · simp only [Bool.not_true, Bool.false_eq_true, if_false]
    rw [run_get_bind]
    cases hopen : (w.database link.database).savepoint.isSome
    · simp only [Bool.false_eq_true, if_false]
      rw [run_modify_bind, run_bind, run_attempt]
      rcases body.run _ with ⟨e | a, w₂⟩ <;> rfl
    · rfl

/-- The action runs the statements one after another on the connection's database, changing
nothing else of the world, and answers from the rows they changed when none fails. -/
def RunsStatements (link : SqliteLink) (body : Act α) (stmts : List (String × List Sql.Value))
    (answer : List Nat → α) : Prop :=
  ∀ w, let run := body.run w
    World.Frame link.database w run.2 ∧
      match runStatements w.host.nowMillis (w.database link.database) stmts with
      | some (db, counts) => run.1 = .ok (answer counts) ∧ run.2.database link.database = db
      | none => ∃ e, run.1 = .error e

theorem RunsStatements.map {body : Act β} {stmts : List (String × List Sql.Value)} {answer : List Nat → β}
    (h : RunsStatements link body stmts answer) (g : β → α) :
    RunsStatements link (body >>= fun b => pure (g b)) stmts (g ∘ answer) := by
  intro w
  obtain ⟨hframe, hstmts⟩ := h w
  dsimp only
  rw [run_bind]
  rcases hrun : body.run w with ⟨e | b, w₁⟩ <;> rw [hrun] at hframe hstmts <;> refine ⟨hframe, ?_⟩ <;>
    split at hstmts
  · exact nomatch hstmts.1
  · exact ⟨e, rfl⟩
  · obtain ⟨hb, hdb⟩ := hstmts
    cases hb
    exact ⟨rfl, hdb⟩
  · obtain ⟨e, he⟩ := hstmts
    exact nomatch he

/-- A loop that runs one statement per item, folding the rows each changed into its state,
runs the statements one after another and answers the fold. -/
theorem forIn_statements {operation : String} (stmt : γ → String × List Sql.Value) (step : β → Nat → β)
    {f : γ → β → Act (ForInStep β)}
    (hf : ∀ x acc w, (f x acc).run w =
      match Sql.execute (w.database link.database) (stmt x).1 (stmt x).2 with
      | (db, .ok n) => (.ok (.yield (step acc n)), w.setDatabase link.database db)
      | (db, .error e) => (.error (.operationFailed operation e.message), w.setDatabase link.database db))
    (xs : List γ) (acc : β) :
    RunsStatements link (forIn xs acc f) (xs.map stmt) (fun counts => counts.foldl step acc) := by
  induction xs generalizing acc with
  | nil => exact fun w => ⟨.refl _ w, rfl, rfl⟩
  | cons x xs ih =>
    intro w run
    unfold run
    rw [List.forIn_cons, run_bind, hf]
    simp only [List.map_cons, runStatements]
    rcases hx : Sql.execute (w.database link.database) (stmt x).1 (stmt x).2 with ⟨db, _ | n⟩
    · -- the failing statement ends the loop, the database it left in place
      exact ⟨World.frame_setDatabase _ _ _, ⟨_, rfl⟩⟩
    · -- the loop goes on from the database the statement left
      dsimp only
      obtain ⟨hframe, hrest⟩ := ih (step acc n) (w.setDatabase link.database db)
      dsimp only at hframe hrest
      simp only [World.host_setDatabase, World.database_setDatabase] at hrest
      refine ⟨(World.frame_setDatabase _ _ _).trans hframe, ?_⟩
      rcases hrun : runStatements w.host.nowMillis { db with clock := w.host.nowMillis } (xs.map stmt) with
        _ | ⟨db', counts⟩ <;> rw [hrun] at hrest
      · exact hrest
      · exact hrest

/-- What a batch write did, run from `w` to `w'` with result `r`: the databases other than
the connection's read as before; when it failed the connection's database does too, and
when it returned, the statements all ran, one after another, from the database the
transaction saw, and the connection's database is the one they left with the transaction
closed. Whenever they all run on a readable database with no transaction open, it returns. -/
structure BatchAtomic (link : SqliteLink) (stmts : List (String × List Sql.Value)) (answer : List Nat → α)
    (w : World) (r : Except Error α) (w' : World) : Prop where
  other : ∀ i, i ≠ link.database → w'.database i = w.database i
  failed : (∃ e, r = .error e) → w'.database link.database = w.database link.database
  applied : ∀ a, r = .ok a → ∃ db counts,
    runStatements w.host.nowMillis (inTransactionOf (w.database link.database)) stmts = some (db, counts) ∧
      a = answer counts ∧ w'.database link.database = { db with savepoint := none }
  returns : link.readable = true → (w.database link.database).savepoint = none → ∀ db counts,
    runStatements w.host.nowMillis (inTransactionOf (w.database link.database)) stmts = some (db, counts) →
      r = .ok (answer counts)

theorem BatchAtomic.congr {stmts : List (String × List Sql.Value)} {answer : List Nat → α} {w w' w'' : World}
    {r : Except Error α} (h : BatchAtomic link stmts answer w r w') (hw : ∀ i, w''.database i = w'.database i) :
    BatchAtomic link stmts answer w r w'' where
  other i hi := (hw i).trans (h.other i hi)
  failed hr := (hw _).trans (h.failed hr)
  applied a hr := by
    obtain ⟨db, counts, hdone, ha, hdb⟩ := h.applied a hr
    exact ⟨db, counts, hdone, ha, (hw _).trans hdb⟩
  returns := h.returns

theorem BatchAtomic.of_error {stmts : List (String × List Sql.Value)} {answer : List Nat → α} {w w' : World}
    {e : Error} (hw : ∀ i, w'.database i = w.database i)
    (hblocked : link.readable = true → (w.database link.database).savepoint = none → ∀ db counts,
      runStatements w.host.nowMillis (inTransactionOf (w.database link.database)) stmts ≠ some (db, counts)) :
    BatchAtomic link stmts answer w (.error e) w' where
  other i _ := hw i
  failed _ := hw _
  applied _ h := nomatch h
  returns hread hnone db counts hdone := absurd hdone (hblocked hread hnone db counts)

/-- A transaction around statements run one after another is all or nothing; it changes
nothing of the world but the connection's database. -/
theorem inTransaction_atomic {operation : String} {body : Act α} {stmts : List (String × List Sql.Value)}
    {answer : List Nat → α} (hbody : link.readable = true → RunsStatements link body stmts answer) (w : World) :
    let run := (inTransaction link operation body).run w
    World.Frame link.database w run.2 ∧ BatchAtomic link stmts answer w run.1 run.2 := by
  intro run
  unfold run
  rw [inTransaction_run]
  cases hread : link.readable
  · rw [if_pos (show (!false) = true from rfl)]
    exact ⟨.refl _ w, .of_error (fun _ => rfl) fun h => absurd (hread.symm.trans h) Bool.false_ne_true⟩
  cases hopen : (w.database link.database).savepoint.isSome
  · rw [if_neg (show ¬(!true) = true by decide), if_neg (show ¬false = true by decide)]
    -- the body runs on the database marked for rollback, as the transaction sees it
    let start := w.setDatabase link.database (inTransactionOf (w.database link.database))
    obtain ⟨hran, hstmts⟩ := hbody hread start
    have hstart : start.database link.database = inTransactionOf (w.database link.database) := by
      rw [World.database_setDatabase]
      rfl
    rw [World.host_setDatabase, hstart] at hstmts
    have hframe := (World.frame_setDatabase _ _ _).trans hran
    rcases hrun : body.run start with ⟨e | a, w₂⟩ <;> rw [hrun] at hframe hstmts <;> dsimp only at hframe hstmts ⊢
    · -- a failure puts the database back as it was
      have hback : (w₂.setDatabase link.database (w.database link.database)).database link.database =
          w.database link.database := by
        rw [World.database_setDatabase, hframe.host, World.database_with_clock]
      have hframe' := hframe.trans (World.frame_setDatabase w₂ link.database (w.database link.database))
      refine ⟨hframe', .of_error (fun i => ?_) fun _ _ db counts hdone => ?_⟩
      · by_cases hi : i = link.database
        · subst hi
          exact hback
        · exact hframe'.other i hi
      · rw [hdone] at hstmts
        exact nomatch hstmts.1
    · -- a return commits what the statements left
      split at hstmts
      · rename_i db counts hdone
        obtain ⟨ha, hdb⟩ := hstmts
        have hframe' := hframe.trans
          (World.frame_setDatabase w₂ link.database { w₂.database link.database with savepoint := none })
        refine ⟨hframe', hframe'.other, fun ⟨_, h⟩ => (nomatch h), fun a' h => ?_, fun _ _ db' counts' hdone' => ?_⟩
        · cases h
          refine ⟨db, counts, hdone, Except.ok.inj ha, ?_⟩
          rw [World.database_setDatabase, ← hdb]
          rfl
        · rw [hdone] at hdone'
          cases hdone'
          exact ha
      · obtain ⟨e, he⟩ := hstmts
        exact nomatch he
  · rw [if_neg (show ¬(!true) = true by decide), if_pos rfl]
    refine ⟨.refl _ w, .of_error (fun _ => rfl) fun _ hnone => ?_⟩
    simp [hnone] at hopen

/-- A batch on the connection of `b`'s pool, run from `w` to `w'` with result `r`: all or
nothing there, or, once the pool was released, failed with every database as it was. -/
def BatchAtomicOn (b : SqliteBackend) (stmts : List (String × List Sql.Value)) (answer : List Nat → α)
    (w : World) (r : Except Error α) (w' : World) : Prop :=
  match (w.pool b.pool).connection with
  | .sqlite (some link) => BatchAtomic link stmts answer w r w'
  | _ => r = .error .disconnected ∧ ∀ i, w'.database i = w.database i

/-- A backend call that takes the pool's connection and runs statements in one transaction
on it is all or nothing and changes nothing of the world but the databases. -/
theorem link_inTransaction_atomic (b : SqliteBackend) {operation : String} {body : SqliteLink → Act α}
    {stmts : List (String × List Sql.Value)} {answer : List Nat → α}
    (hbody : ∀ link, link.readable = true → RunsStatements link (body link) stmts answer) (w : World) :
    let run := (b.link >>= fun link => inTransaction link operation (body link)).run w
    { run.2 with databases := w.databases } = w ∧ BatchAtomicOn b stmts answer w run.1 run.2 := by
  intro run
  unfold run BatchAtomicOn
  rw [run_bind, link_run]
  rcases (w.pool b.pool).connection with (_ | link) | root | n
  · exact ⟨rfl, rfl, fun _ => rfl⟩
  · obtain ⟨hframe, hatomic⟩ := inTransaction_atomic (hbody link) w
    exact ⟨hframe.rest, hatomic⟩
  · exact ⟨rfl, rfl, fun _ => rfl⟩
  · exact ⟨rfl, rfl, fun _ => rfl⟩

end Runs

section Backend

variable (b : SqliteBackend) (ns : String)

theorem upsertMany_atomic (entries : List StoredEntry) (w : World) :
    let run := (b.upsertMany ns entries).run w
    { run.2 with databases := w.databases } = w ∧
      BatchAtomicOn b (upsertStatements b ns entries) (fun _ => ()) w run.1 run.2 :=
  link_inTransaction_atomic b (fun link hread =>
    (forIn_statements _ (fun _ _ => PUnit.unit) (fun e acc w => by
      dsimp only
      rw [run_bind, executeOn_run hread]
      rcases Sql.execute (w.database link.database) (upsertSql b.qualified) (upsertParams ns e) with
        ⟨db, _ | n⟩ <;> rfl) entries PUnit.unit).map fun _ => ()) w

/-- Deleting keys runs the delete of each chunk of keys, in order, in one transaction, and
counts the rows they removed. -/
theorem deleteMany_atomic (keys : List String) (w : World) :
    let run := (b.deleteMany ns keys).run w
    { run.2 with databases := w.databases } = w ∧
      BatchAtomicOn b (deleteStatements b ns keys) List.sum w run.1 run.2 := by
  have sum : List.sum = fun counts : List Nat => counts.foldl (· + ·) 0 := funext fun _ => List.sum_eq_foldl_nat
  rw [sum]
  exact link_inTransaction_atomic b (fun link hread =>
    (forIn_statements _ (· + ·) (fun chunk acc w => by
      dsimp only
      rw [run_bind, executeOn_run hread]
      rcases Sql.execute (w.database link.database) (deleteInSql b.qualified chunk.length) (texts (ns :: chunk)) with
        ⟨db, _ | n⟩ <;> rfl) (chunks inChunk keys) 0).map id) w

end Backend

section Store

open Store StoreAct

variable {b : SqliteBackend} {stmts : List (String × List Sql.Value)} {answer : List Nat → α}

theorem BatchAtomic.map {w w' : World} {r : Except Error α} (h : BatchAtomic link stmts answer w r w')
    (g : α → β) : BatchAtomic link stmts (g ∘ answer) w (r.map g) w' where
  other := h.other
  failed := fun ⟨e, he⟩ => h.failed (by cases r with
    | error e' => exact ⟨e', rfl⟩
    | ok a => exact nomatch he)
  applied c hc := by
    cases r with
    | error e => exact nomatch hc
    | ok a =>
      obtain ⟨db, counts, hdone, ha, hdb⟩ := h.applied a rfl
      cases hc
      exact ⟨db, counts, hdone, by rw [ha]; rfl, hdb⟩
  returns hread hnone db counts hdone := by
    rw [h.returns hread hnone db counts hdone]
    rfl

theorem BatchAtomicOn.map {w w' : World} {r : Except Error α} (h : BatchAtomicOn b stmts answer w r w')
    (g : α → β) : BatchAtomicOn b stmts (g ∘ answer) w (r.map g) w' := by
  revert h
  unfold BatchAtomicOn
  rcases (w.pool b.pool).connection with (_ | link) | root | n
  · exact fun ⟨hr, hw⟩ => ⟨by rw [hr]; rfl, hw⟩
  · exact fun h => h.map g
  · exact fun ⟨hr, hw⟩ => ⟨by rw [hr]; rfl, hw⟩
  · exact fun ⟨hr, hw⟩ => ⟨by rw [hr]; rfl, hw⟩

theorem BatchAtomicOn.congr {w w' w'' : World} {r : Except Error α} (h : BatchAtomicOn b stmts answer w r w')
    (hw : ∀ i, w''.database i = w'.database i) : BatchAtomicOn b stmts answer w r w'' := by
  revert h
  unfold BatchAtomicOn
  rcases (w.pool b.pool).connection with (_ | link) | root | n
  · exact fun ⟨hr, hw'⟩ => ⟨hr, fun i => (hw i).trans (hw' i)⟩
  · exact fun h => h.congr hw
  · exact fun ⟨hr, hw'⟩ => ⟨hr, fun i => (hw i).trans (hw' i)⟩
  · exact fun ⟨hr, hw'⟩ => ⟨hr, fun i => (hw i).trans (hw' i)⟩

theorem invoke_databases (operation : String) (call : Backend → Act α) (x : World × Store) :
    let run := (invoke operation call).run x
    run.1 = ((call x.2.backend).run x.1).1 ∧ ∀ i, run.2.1.database i = ((call x.2.backend).run x.1).2.database i := by
  simp only [invoke, StoreAct.run_bind, StoreAct.run_store, StoreAct.run_attempt, StoreAct.run_lift,
    Act.run_countOperation]
  rcases (call x.2.backend).run x.1 with ⟨e | a, w⟩ <;> exact ⟨rfl, fun _ => rfl⟩

/-- A store call makes a SQLite batch behind its gate: the gate refuses it, or the batch is
all or nothing from where the gate left the world. -/
theorem run_atomic (operation : String) (call : Backend → Act α) {x : World × Store}
    (hb : x.2.backend = .sqlite b)
    (hcall : ∀ w, BatchAtomicOn b stmts answer w ((call (.sqlite b)).run w).1 ((call (.sqlite b)).run w).2) :
    let run := (Store.run operation call).run x
    (∃ e x', gate.run x = (.error e, x') ∧ run = (.error e, x')) ∨
      ∃ x', gate.run x = (.ok (), x') ∧ BatchAtomicOn b stmts answer x'.1 run.1 run.2.1 := by
  intro run
  rcases run_cases operation call x with ⟨e, x', hg, hr⟩ | ⟨x', hg, -, -, hr⟩
  · exact .inl ⟨e, x', hg, hr⟩
  · refine .inr ⟨x', hg, ?_⟩
    have hb' : x'.2.backend = .sqlite b := by
      have later := gate_advances x
      rw [Advances, hg] at later
      exact later.backend.trans hb
    obtain ⟨hresult, hdatabases⟩ := invoke_databases operation call x'
    rw [hb'] at hresult hdatabases
    unfold run
    rw [hr, hresult]
    exact (hcall x'.1).congr hdatabases

theorem run_bind_pure_eq {a : StoreAct α} (g : α → β) (x : World × Store) :
    (a >>= fun v => pure (g v)).run x = ((a.run x).1.map g, (a.run x).2) := by
  rw [StoreAct.run_bind]
  rcases a.run x with ⟨e | v, x₁⟩ <;> rfl

/-- Writing entries to a SQLite store never leaves part of the batch: the gate refuses it,
or the upserts of the entries, keys stripped and repeats collapsed, are all or nothing from
where the gate left the world. -/
theorem store_setMany_atomic {x : World × Store} (hb : x.2.backend = .sqlite b) {entries : List (String × Payload)}
    (hne : entries ≠ []) :
    let run := (Store.setMany entries).run x
    (∃ e x', gate.run x = (.error e, x') ∧ run = (.error e, x')) ∨
      ∃ x', gate.run x = (.ok (), x') ∧
        BatchAtomicOn b (upsertStatements b x.2.ns.name
          (collapse (entries.map fun (k, v) => StoredEntry.ofPayload (x.2.ns.strip k) v))) (fun _ => ())
          x'.1 run.1 run.2.1 := by
  intro run
  unfold run Store.setMany
  rw [StoreAct.run_bind, ensureOpen_run]
  cases hclosed : isClosed x.1 x.2
  · have hfull : entries.isEmpty = false := List.isEmpty_eq_false_iff.mpr hne
    simp only [Bool.false_eq_true, if_false, hfull]
    rw [StoreAct.run_bind, StoreAct.run_store]
    exact run_atomic "set_many" _ hb fun w => (upsertMany_atomic b _ _ w).2
  · exact .inl ⟨_, _, gate_of_closed hclosed, rfl⟩

/-- Deleting keys from a SQLite store never leaves part of the batch: the gate refuses it,
or the deletes of the stripped keys, chunk by chunk, are all or nothing from where the gate
left the world, and the store answers whether they removed a row. -/
theorem store_deleteMany_atomic {x : World × Store} (hb : x.2.backend = .sqlite b) {keys : List String}
    (hne : keys ≠ []) :
    let run := (Store.deleteMany keys).run x
    (∃ e x', gate.run x = (.error e, x') ∧ run = (.error e, x')) ∨
      ∃ x', gate.run x = (.ok (), x') ∧
        BatchAtomicOn b (deleteStatements b x.2.ns.name (stripAll x.2.ns keys)) (fun counts => decide (counts.sum > 0))
          x'.1 run.1 run.2.1 := by
  intro run
  unfold run Store.deleteMany
  rw [StoreAct.run_bind, ensureOpen_run]
  cases hclosed : isClosed x.1 x.2
  · have hfull : keys.isEmpty = false := List.isEmpty_eq_false_iff.mpr hne
    simp only [Bool.false_eq_true, if_false, hfull]
    rw [StoreAct.run_bind, StoreAct.run_store]
    dsimp only
    rw [run_bind_pure_eq]
    rcases run_atomic "delete_many" (fun b' => b'.deleteMany x.2.ns.name (stripAll x.2.ns keys)) hb
      (fun w => (deleteMany_atomic b _ _ w).2) with ⟨e, x', hg, hr⟩ | ⟨x', hg, h⟩
    · exact .inl ⟨e, x', hg, by rw [hr]; rfl⟩
    · exact .inr ⟨x', hg, h.map fun removed => decide (removed > 0)⟩
  · exact .inl ⟨_, _, gate_of_closed hclosed, rfl⟩

end Store

/-- SQLite batch writes are all or nothing. Writing entries or deleting keys through a
backend, on every world: nothing but the databases changes, and the call fails with every
database as it was, or it ran the upsert of every entry, or the delete of every chunk of
keys, one after another in one transaction that it committed; the chunks hold the keys in
order, each at most `inChunk` of them. Through a store, every such batch behind the gate is
all or nothing from where the gate left the world. -/
theorem sqlite_batch_writes_are_all_or_nothing :
    (∀ (b : SqliteBackend) (ns : String) (entries : List StoredEntry) (w : World),
      let run := (b.upsertMany ns entries).run w
      { run.2 with databases := w.databases } = w ∧
        BatchAtomicOn b (upsertStatements b ns entries) (fun _ => ()) w run.1 run.2) ∧
    (∀ (b : SqliteBackend) (ns : String) (keys : List String) (w : World),
      let run := (b.deleteMany ns keys).run w
      { run.2 with databases := w.databases } = w ∧ BatchAtomicOn b (deleteStatements b ns keys) List.sum w run.1 run.2) ∧
    (∀ keys : List String,
      (chunks inChunk keys).flatten = keys ∧ ∀ c ∈ chunks inChunk keys, c ≠ [] ∧ c.length ≤ inChunk) ∧
    (∀ (b : SqliteBackend) (x : World × Store) (entries : List (String × Payload)),
      x.2.backend = .sqlite b → entries ≠ [] →
      let run := (Store.setMany entries).run x
      (∃ e x', Store.gate.run x = (.error e, x') ∧ run = (.error e, x')) ∨
        ∃ x', Store.gate.run x = (.ok (), x') ∧
          BatchAtomicOn b (upsertStatements b x.2.ns.name
            (Store.collapse (entries.map fun (k, v) => StoredEntry.ofPayload (x.2.ns.strip k) v))) (fun _ => ())
            x'.1 run.1 run.2.1) ∧
    (∀ (b : SqliteBackend) (x : World × Store) (keys : List String),
      x.2.backend = .sqlite b → keys ≠ [] →
      let run := (Store.deleteMany keys).run x
      (∃ e x', Store.gate.run x = (.error e, x') ∧ run = (.error e, x')) ∨
        ∃ x', Store.gate.run x = (.ok (), x') ∧
          BatchAtomicOn b (deleteStatements b x.2.ns.name (Store.stripAll x.2.ns keys))
            (fun counts => decide (counts.sum > 0)) x'.1 run.1 run.2.1) :=
  ⟨upsertMany_atomic, deleteMany_atomic,
    fun keys => ⟨flatten_chunks (by decide) keys, fun _ hc => chunk_bounds (by decide) hc⟩,
    fun _ _ _ hb hne => store_setMany_atomic hb hne, fun _ _ _ hb hne => store_deleteMany_atomic hb hne⟩

theorem sqlite_store_batches_are_all_or_nothing :
    let x : World × Store := (default, { (default : Store) with backend := .sqlite default })
    ((∃ e x', Store.gate.run x = (.error e, x') ∧ (Store.setMany [("k", .text "v")]).run x = (.error e, x')) ∨
      ∃ x', Store.gate.run x = (.ok (), x') ∧
        BatchAtomicOn default (upsertStatements default x.2.ns.name
          (Store.collapse ([("k", Payload.text "v")].map fun (k, v) => StoredEntry.ofPayload (x.2.ns.strip k) v)))
          (fun _ => ()) x'.1 ((Store.setMany [("k", .text "v")]).run x).1 ((Store.setMany [("k", .text "v")]).run x).2.1) ∧
    ((∃ e x', Store.gate.run x = (.error e, x') ∧ (Store.deleteMany ["k"]).run x = (.error e, x')) ∨
      ∃ x', Store.gate.run x = (.ok (), x') ∧
        BatchAtomicOn default (deleteStatements default x.2.ns.name (Store.stripAll x.2.ns ["k"]))
          (fun counts => decide (counts.sum > 0)) x'.1 ((Store.deleteMany ["k"]).run x).1
          ((Store.deleteMany ["k"]).run x).2.1) :=
  ⟨sqlite_batch_writes_are_all_or_nothing.2.2.2.1 default _ _ rfl (List.cons_ne_nil _ _),
    sqlite_batch_writes_are_all_or_nothing.2.2.2.2 default _ _ rfl (List.cons_ne_nil _ _)⟩

end Sqlite

end KvStore
