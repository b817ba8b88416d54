import Mathlib
import KvStore.Bucket.Layout

/-!
# Reaping interleaved with writes and deletes

Here every call on a bucket is a sequence of atomic file-system steps over a map from paths
to files, and a schedule says whether the sweep or the client makes the next one. The sweep
reads a listed object; renames one that looks stale to a fresh tombstone; reads the
tombstone again; and then removes it (still stale) or hard-links it back unless its path is
taken again, removing the tombstone after. The client writes each entry to a fresh hidden
file renamed over its object, and removes an object for each delete.

Over every schedule the sweep removes only stale versions, and counts each of them
(`reaping_interleaved_with_calls`). Once every call has returned, each key holds the outcome
of its last write or delete, or nothing when that write was stale and swept, provided no
delete of the key lands while the sweep holds it in a tombstone. A delete that lands there
is undone by the hard link (`delete_during_reap_is_undone`).
-/

namespace KvStore

namespace Bucket

namespace Interleaving

/-- A path of the bucket: an object's own path, or a hidden file (a temporary file or a
tombstone) named by a fresh number. -/
inductive Loc (K : Type) where
  | object (k : K)
  | hidden (n : Nat)
  deriving DecidableEq

inductive Op (K V : Type) where
  | put (k : K) (v : V)
  | remove (k : K)

inductive Call (K V : Type) where
  | upsertMany (entries : List (K × V))
  | deleteMany (keys : List K)

/-- Where the sweep is in its scan of the keys it listed. -/
inductive Sweep (K : Type) where
  | scan (ks : List K)
  | seize (k : K) (ks : List K)
  | judge (k : K) (n : Nat) (ks : List K)
  | drop (k : K) (n : Nat) (ks : List K)
  | link (k : K) (n : Nat) (ks : List K)
  | unlink (n : Nat) (ks : List K)

/-- The files by path; the counter that names hidden files; the client's operations still to
run and the temporary file of the write under way; where the sweep is; and the versions the
sweep removed, with their number. -/
structure State (K V : Type) where
  files : Loc K → Option V
  fresh : Nat
  todo : List (Op K V)
  staged : Option Nat
  sweep : Sweep K
  count : Nat
  removed : List V

inductive Actor where
  | sweeper
  | client

/-- An object file: the object it holds and its modification time. -/
structure ObjectFile where
  object : StoredObject
  modified : Nat

def expiredFile (now : Int) (f : ObjectFile) : Bool := Layout.expiredAt now f.object

def unusedFile (limit : Int) (f : ObjectFile) : Bool := decide ((f.modified : Int) < limit)

variable {K V : Type} [DecidableEq K]

def Call.ops : Call K V → List (Op K V)
  | .upsertMany entries => entries.map fun e => .put e.1 e.2
  | .deleteMany keys => keys.map .remove

/-- The bucket holding `objects` and no hidden file, with the client about to run `calls` and
the sweep about to visit `ks`. -/
def start (objects : K → Option V) (calls : List (Call K V)) (ks : List K) : State K V where
  files := fun
    | .object k => objects k
    | .hidden _ => none
  fresh := 0
  todo := calls.flatMap Call.ops
  staged := none
  sweep := .scan ks
  count := 0
  removed := []

def sweepStep (stale : V → Bool) (s : State K V) : State K V :=
  match s.sweep with
  | .scan [] => s
  | .scan (k :: ks) =>
    match s.files (.object k) with
    | some v => { s with sweep := if stale v then .seize k ks else .scan ks }
    | none => { s with sweep := .scan ks }
  | .seize k ks =>
    -- rename to a tombstone; an object gone since the read is passed over
    match s.files (.object k) with
    | some v =>
      { s with files := Function.update (Function.update s.files (.object k) none) (.hidden s.fresh) (some v),
               fresh := s.fresh + 1, sweep := .judge k s.fresh ks }
    | none => { s with sweep := .scan ks }
  | .judge k n ks => { s with sweep := if (s.files (.hidden n)).any stale then .drop k n ks else .link k n ks }
  | .drop _ n ks =>
    { s with files := Function.update s.files (.hidden n) none, count := s.count + 1,
             removed := s.removed ++ (s.files (.hidden n)).toList, sweep := .scan ks }
  | .link k n ks =>
    -- the hard link fails when a newer write holds the path
    match s.files (.object k) with
    | some _ => { s with sweep := .unlink n ks }
    | none => { s with files := Function.update s.files (.object k) (s.files (.hidden n)), sweep := .unlink n ks }
  | .unlink n ks => { s with files := Function.update s.files (.hidden n) none, sweep := .scan ks }

def clientStep (s : State K V) : State K V :=
  match s.todo, s.staged with
  | [], _ => s
  | .put _ v :: _, none =>
    { s with files := Function.update s.files (.hidden s.fresh) (some v), fresh := s.fresh + 1,
             staged := some s.fresh }
  | .put k _ :: rest, some n =>
    { s with files := Function.update (Function.update s.files (.hidden n) none) (.object k) (s.files (.hidden n)),
             todo := rest, staged := none }
  | .remove k :: rest, _ => { s with files := Function.update s.files (.object k) none, todo := rest }

def step (stale : V → Bool) (s : State K V) : Actor → State K V
  | .sweeper => sweepStep stale s
  | .client => clientStep s

def run (stale : V → Bool) : State K V → List Actor → State K V
  | s, [] => s
  | s, a :: sched => run stale (step stale s a) sched

def Sweep.finished : Sweep K → Bool
  | .scan [] => true
  | _ => false

def State.finished (s : State K V) : Bool := s.todo.isEmpty && s.sweep.finished

def Sweep.tomb? : Sweep K → Option Nat
  | .judge _ n _ | .drop _ n _ | .link _ n _ | .unlink n _ => some n
  | _ => none

/-- The tombstone holding `k`, from the rename until the sweep drops it or links it back. -/
def Sweep.tombOf (k : K) : Sweep K → Option Nat
  | .judge k' n _ | .drop k' n _ | .link k' n _ => if k' = k then some n else none
  | _ => none

def Op.removes (k : K) : Op K V → Bool
  | .remove k' => decide (k' = k)
  | .put _ _ => false

def Op.outcome (k : K) (cur : Option V) : Op K V → Option V
  | .put k' v => if k' = k then some v else cur
  | .remove k' => if k' = k then none else cur

def replay (k : K) (cur : Option V) (ops : List (Op K V)) : Option V :=
  ops.foldl (fun o op => op.outcome k o) cur

def lastOutcome (objects : K → Option V) (calls : List (Call K V)) (k : K) : Option V :=
  replay k (objects k) (calls.flatMap Call.ops)

/-- Whether the client's next step deletes `k` while the sweep holds `k` in a tombstone. -/
def disturbs (k : K) (s : State K V) : Actor → Bool
  | .client => (s.sweep.tombOf k).isSome && s.todo.head?.any (Op.removes k)
  | .sweeper => false

def undisturbed (stale : V → Bool) (k : K) : State K V → List Actor → Bool
  | _, [] => true
  | s, a :: sched => !disturbs k s a && undisturbed stale k (step stale s a) sched

/-- What every reachable state keeps: the hidden files in use have distinct names below
the fresh counter, the client's temporary file holds its pending write, the tombstone
holds what was seized (stale when it is about to be dropped), and the count is the number
of versions removed, all stale. -/
structure Sound (stale : V → Bool) (s : State K V) : Prop where
  staged : ∀ n, s.staged = some n → n < s.fresh ∧ ∃ k v rest, s.todo = .put k v :: rest ∧ s.files (.hidden n) = some v
  tomb : ∀ n, s.sweep.tomb? = some n → n < s.fresh ∧ s.staged ≠ some n ∧ (s.files (.hidden n)).isSome
  dropping : ∀ k n ks, s.sweep = .drop k n ks → (s.files (.hidden n)).any stale
  removed : ∀ v ∈ s.removed, stale v = true
  count : s.count = s.removed.length

/-- Where the current outcome `cur` of `k` is: at the object's path, or swept as stale; or,
while the sweep holds `k`, in its tombstone with the path free, or at the path written anew. -/
def Holds (stale : V → Bool) (k : K) (cur : Option V) (s : State K V) : Prop :=
  match s.sweep.tombOf k with
  | some n => (s.files (.object k) = none ∧ s.files (.hidden n) = cur) ∨ (s.files (.object k) = cur ∧ cur.isSome)
  | none => s.files (.object k) = cur ∨ (s.files (.object k) = none ∧ ∃ v, cur = some v ∧ stale v = true ∧ v ∈ s.removed)

/-- `k` is on its way to `target`: the client's remaining operations take its current
outcome there. -/
def Tracks (stale : V → Bool) (target : Option V) (k : K) (s : State K V) : Prop :=
  ∃ cur, replay k cur s.todo = target ∧ Holds stale k cur s

section Steps

variable {stale : V → Bool} {s : State K V} {k : K} {v : V} {rest : List (Op K V)} {n : Nat} {ks : List K}

theorem clientStep_idle (ht : s.todo = []) : clientStep s = s := by
  simp [clientStep, ht]

theorem clientStep_write (ht : s.todo = .put k v :: rest) (hs : s.staged = none) :
    clientStep s =
      { s with files := Function.update s.files (.hidden s.fresh) (some v), fresh := s.fresh + 1,
               staged := some s.fresh } := by
  simp [clientStep, ht, hs]

theorem clientStep_rename (ht : s.todo = .put k v :: rest) (hs : s.staged = some n) :
    clientStep s =
      { s with files := Function.update (Function.update s.files (.hidden n) none) (.object k) (s.files (.hidden n)),
               todo := rest, staged := none } := by
  simp [clientStep, ht, hs]

theorem clientStep_remove (ht : s.todo = .remove k :: rest) :
    clientStep s = { s with files := Function.update s.files (.object k) none, todo := rest } := by
  unfold clientStep
  rw [ht]

theorem sweepStep_done (h : s.sweep = .scan []) : sweepStep stale s = s := by
  simp [sweepStep, h]

theorem sweepStep_read (h : s.sweep = .scan (k :: ks)) :
    sweepStep stale s = { s with sweep := if (s.files (.object k)).any stale then .seize k ks else .scan ks } := by
  cases hf : s.files (.object k) <;> simp [sweepStep, h, hf]

theorem sweepStep_seize (h : s.sweep = .seize k ks) (hf : s.files (.object k) = some v) :
    sweepStep stale s =
      { s with files := Function.update (Function.update s.files (.object k) none) (.hidden s.fresh) (some v),
               fresh := s.fresh + 1, sweep := .judge k s.fresh ks } := by
  simp [sweepStep, h, hf]

theorem sweepStep_seize_gone (h : s.sweep = .seize k ks) (hf : s.files (.object k) = none) :
    sweepStep stale s = { s with sweep := .scan ks } := by
  simp [sweepStep, h, hf]

theorem sweepStep_judge (h : s.sweep = .judge k n ks) :
    sweepStep stale s = { s with sweep := if (s.files (.hidden n)).any stale then .drop k n ks else .link k n ks } := by
  simp [sweepStep, h]

theorem sweepStep_drop (h : s.sweep = .drop k n ks) :
    sweepStep stale s =
      { s with files := Function.update s.files (.hidden n) none, count := s.count + 1,
               removed := s.removed ++ (s.files (.hidden n)).toList, sweep := .scan ks } := by
  simp [sweepStep, h]

theorem sweepStep_link_taken (h : s.sweep = .link k n ks) (hf : s.files (.object k) = some v) :
    sweepStep stale s = { s with sweep := .unlink n ks } := by
  simp [sweepStep, h, hf]

theorem sweepStep_link (h : s.sweep = .link k n ks) (hf : s.files (.object k) = none) :
    sweepStep stale s =
      { s with files := Function.update s.files (.object k) (s.files (.hidden n)), sweep := .unlink n ks } := by
  simp [sweepStep, h, hf]

theorem sweepStep_unlink (h : s.sweep = .unlink n ks) :
    sweepStep stale s = { s with files := Function.update s.files (.hidden n) none, sweep := .scan ks } := by
  simp [sweepStep, h]

end Steps

section Sound

variable {stale : V → Bool} {s : State K V}

theorem Sweep.tombOf_of_finished {sw : Sweep K} {k : K} (h : sw.finished = true) : sw.tombOf k = none := by
  cases sw <;> simp_all [Sweep.finished, Sweep.tombOf]

theorem tomb?_of_tombOf {sw : Sweep K} {k : K} {n : Nat} (h : sw.tombOf k = some n) : sw.tomb? = some n := by
  cases sw <;> simp_all [Sweep.tombOf, Sweep.tomb?]

omit [DecidableEq K] in
theorem sound_start (objects : K → Option V) (calls : List (Call K V)) (ks : List K) :
    Sound stale (start objects calls ks) where
  staged := by simp [start]
  tomb := by simp [start, Sweep.tomb?]
  dropping := by simp [start]
  removed := by simp [start]
  count := rfl

theorem update_hidden_of_ne {f : Loc K → Option V} {m n : Nat} (hmn : m ≠ n) (o : Option V) :
    Function.update f (.hidden n) o (.hidden m) = f (.hidden m) := by
  simp [hmn]

theorem update_object_hidden {f : Loc K → Option V} {k : K} {m : Nat} (o : Option V) :
    Function.update f (.object k) o (.hidden m) = f (.hidden m) := by
  simp

theorem Sound.clientStep (h : Sound stale s) : Sound stale (clientStep s) := by
  rcases ht : s.todo with _ | ⟨op, rest⟩
  · rwa [clientStep_idle ht]
  rcases op with ⟨k, v⟩ | k
  · rcases hst : s.staged with _ | m
    · -- the temporary file takes the fresh name, above the tombstone's
      rw [clientStep_write ht hst]
      refine ⟨fun n hn => ?_, fun n hn => ?_, fun k' n ks hd => ?_, h.removed, h.count⟩
      · obtain rfl : s.fresh = n := by simpa using hn
        exact ⟨Nat.lt_succ_self _, k, v, rest, ht, by simp⟩
      · obtain ⟨hlt, -, hsome⟩ := h.tomb n hn
        dsimp only
        rw [update_hidden_of_ne (show n ≠ s.fresh by omega)]
        exact ⟨by omega, by simp; omega, hsome⟩
      · obtain ⟨hlt, -, -⟩ := h.tomb n (by simp [show s.sweep = _ from hd, Sweep.tomb?])
        dsimp only
        rw [update_hidden_of_ne (show n ≠ s.fresh by omega)]
        exact h.dropping k' n ks hd
    · -- the rename empties the temporary file, which is not the tombstone
      rw [clientStep_rename ht hst]
      have hapart : ∀ n, s.sweep.tomb? = some n → n ≠ m := fun n hn e => (h.tomb n hn).2.1 (by rw [hst, e])
      refine ⟨by simp, fun n hn => ?_, fun k' n ks hd => ?_, h.removed, h.count⟩
      · obtain ⟨hlt, -, hsome⟩ := h.tomb n hn
        dsimp only
        rw [update_object_hidden, update_hidden_of_ne (hapart n hn)]
        exact ⟨hlt, by simp, hsome⟩
      · have hn : s.sweep.tomb? = some n := by simp [show s.sweep = _ from hd, Sweep.tomb?]
        dsimp only
        rw [update_object_hidden, update_hidden_of_ne (hapart n hn)]
        exact h.dropping k' n ks hd
  · -- a delete finds nothing staged and writes no hidden file
    have hst : s.staged = none := by
      cases hs : s.staged with
      | none => rfl
      | some m =>
        obtain ⟨-, _, _, _, he, -⟩ := h.staged m hs
        rw [ht] at he
        cases he
    rw [clientStep_remove ht]
    refine ⟨by simp [hst], fun n hn => ?_, fun k' n ks hd => ?_, h.removed, h.count⟩
    · dsimp only
      rw [update_object_hidden]
      exact h.tomb n hn
    · dsimp only
      rw [update_object_hidden]
      exact h.dropping k' n ks hd

omit [DecidableEq K] in
/-- The temporary file stays sound through a step that leaves the client alone: the same
operations and staged name, no smaller counter, and the staged file untouched. -/
theorem Sound.staged_frame {s' : State K V} (h : Sound stale s) (todo : s'.todo = s.todo)
    (staged : s'.staged = s.staged) (fresh : s.fresh ≤ s'.fresh)
    (kept : ∀ m, s.staged = some m → s'.files (.hidden m) = s.files (.hidden m)) :
    ∀ m, s'.staged = some m → m < s'.fresh ∧
      ∃ k v rest, s'.todo = .put k v :: rest ∧ s'.files (.hidden m) = some v := by
  intro m hm
  rw [staged] at hm
  obtain ⟨hlt, k, v, rest, ht, hfile⟩ := h.staged m hm
  exact ⟨by omega, k, v, rest, by rw [todo, ht], by rw [kept m hm, hfile]⟩

theorem Sound.sweepStep (h : Sound stale s) : Sound stale (sweepStep stale s) := by
  rcases hsw : s.sweep with ks | ⟨k, ks⟩ | ⟨k, n, ks⟩ | ⟨k, n, ks⟩ | ⟨k, n, ks⟩ | ⟨n, ks⟩
  · cases ks with
    | nil => rwa [sweepStep_done hsw]
    | cons k ks =>
      -- reading moves only the sweep, to a place without a tombstone
      rw [sweepStep_read hsw]
      refine ⟨h.staged, fun n hn => ?_, fun k' n ks' hd => ?_, h.removed, h.count⟩
      · split at hn <;> simp [Sweep.tomb?] at hn
      · split at hd <;> simp at hd
  · cases hf : s.files (.object k) with
    | none =>
      rw [sweepStep_seize_gone hsw hf]
      exact ⟨h.staged, by simp [Sweep.tomb?], by simp, h.removed, h.count⟩
    | some v =>
      -- the tombstone takes the fresh name, above the temporary file's
      rw [sweepStep_seize hsw hf]
      refine ⟨h.staged_frame rfl rfl (by simp) fun m hm => ?_, fun n hn => ?_, by simp, h.removed, h.count⟩
      · have := (h.staged m hm).1
        dsimp only
        rw [update_hidden_of_ne (by omega), update_object_hidden]
      · obtain rfl : s.fresh = n := by simpa [Sweep.tomb?] using hn
        refine ⟨by simp, fun hs => ?_, by simp⟩
        have := (h.staged _ hs).1
        omega
  · -- judging changes no file and keeps the tombstone
    have htomb := h.tomb n (by simp [hsw, Sweep.tomb?])
    rw [sweepStep_judge hsw]
    refine ⟨h.staged, fun m hm => ?_, fun k' m ks' hd => ?_, h.removed, h.count⟩
    · obtain rfl : n = m := by split at hm <;> simpa [Sweep.tomb?] using hm
      exact htomb
    · split at hd
      · obtain ⟨-, rfl, -⟩ : k = k' ∧ n = m ∧ ks = ks' := by simpa using hd
        assumption
      · simp at hd
  · -- the dropped tombstone held one stale version
    obtain ⟨-, hne, hsome⟩ := h.tomb n (by simp [hsw, Sweep.tomb?])
    have hstale := h.dropping k n ks hsw
    obtain ⟨v, hv⟩ := Option.isSome_iff_exists.1 hsome
    rw [hv] at hstale
    rw [sweepStep_drop hsw]
    refine ⟨h.staged_frame rfl rfl le_rfl fun m hm => ?_, by simp [Sweep.tomb?], by simp, fun u hu => ?_, ?_⟩
    · dsimp only
      rw [update_hidden_of_ne fun e => hne (by rw [hm, e])]
    · rcases List.mem_append.1 hu with hu | hu
      · exact h.removed u hu
      · simp only [hv, Option.toList_some, List.mem_singleton] at hu
        subst hu
        simpa using hstale
    · simp [h.count, hv]
  · have htomb := h.tomb n (by simp [hsw, Sweep.tomb?])
    cases hf : s.files (.object k) with
    | some v =>
      rw [sweepStep_link_taken hsw hf]
      exact ⟨h.staged, by simpa [Sweep.tomb?] using htomb, by simp, h.removed, h.count⟩
    | none =>
      rw [sweepStep_link hsw hf]
      refine ⟨h.staged_frame rfl rfl le_rfl fun m _ => ?_, fun m hm => ?_, by simp, h.removed, h.count⟩
      · dsimp only
        rw [update_object_hidden]
      · obtain rfl : n = m := by simpa [Sweep.tomb?] using hm
        simpa [update_object_hidden] using htomb
  · obtain ⟨-, hne, -⟩ := h.tomb n (by simp [hsw, Sweep.tomb?])
    rw [sweepStep_unlink hsw]
    refine ⟨h.staged_frame rfl rfl le_rfl fun m hm => ?_, by simp [Sweep.tomb?], by simp, h.removed, h.count⟩
    dsimp only
    rw [update_hidden_of_ne fun e => hne (by rw [hm, e])]

theorem Sound.step (h : Sound stale s) : ∀ a, Sound stale (step stale s a)
  | .sweeper => h.sweepStep
  | .client => h.clientStep

theorem Sound.run (h : Sound stale s) (sched : List Actor) : Sound stale (run stale s sched) := by
  induction sched generalizing s with
  | nil => exact h
  | cons a sched ih => exact ih (h.step a)

end Sound

section Tracks

variable {stale : V → Bool} {s : State K V} {k : K} {cur target : Option V}

theorem replay_cons (op : Op K V) (ops : List (Op K V)) :
    replay k cur (op :: ops) = replay k (op.outcome k cur) ops := rfl

theorem Holds.of_none (h : s.sweep.tombOf k = none)
    (hp : s.files (.object k) = cur ∨ (s.files (.object k) = none ∧ ∃ v, cur = some v ∧ stale v = true ∧ v ∈ s.removed)) :
    Holds stale k cur s := by
  simpa only [Holds, h] using hp

theorem Holds.of_some (n : Nat) (h : s.sweep.tombOf k = some n)
    (hp : (s.files (.object k) = none ∧ s.files (.hidden n) = cur) ∨ (s.files (.object k) = cur ∧ cur.isSome)) :
    Holds stale k cur s := by
  simpa only [Holds, h] using hp

theorem Holds.none_cases (hh : Holds stale k cur s) (h : s.sweep.tombOf k = none) :
    s.files (.object k) = cur ∨ (s.files (.object k) = none ∧ ∃ v, cur = some v ∧ stale v = true ∧ v ∈ s.removed) := by
  simpa only [Holds, h] using hh

theorem Holds.some_cases {n : Nat} (hh : Holds stale k cur s) (h : s.sweep.tombOf k = some n) :
    (s.files (.object k) = none ∧ s.files (.hidden n) = cur) ∨ (s.files (.object k) = cur ∧ cur.isSome) := by
  simpa only [Holds, h] using hh

/-- A step that keeps where the sweep holds `k`, the object's path, the tombstone holding
`k` and every removed version keeps where `k`'s outcome is. -/
theorem Holds.frame {t : State K V} (h : Holds stale k cur s) (hsw : t.sweep.tombOf k = s.sweep.tombOf k)
    (hobj : t.files (.object k) = s.files (.object k))
    (htomb : ∀ n, s.sweep.tombOf k = some n → t.files (.hidden n) = s.files (.hidden n))
    (hrem : s.removed ⊆ t.removed) : Holds stale k cur t := by
  cases hk : s.sweep.tombOf k with
  | none =>
    refine Holds.of_none (hsw.trans hk) ?_
    rw [hobj]
    obtain h | ⟨hnone, v, hv, hstale, hmem⟩ := h.none_cases hk
    · exact .inl h
    · exact .inr ⟨hnone, v, hv, hstale, hrem hmem⟩
  | some n =>
    refine Holds.of_some n (hsw.trans hk) ?_
    rw [hobj, htomb n hk]
    exact h.some_cases hk

theorem Tracks.clientStep (hs : Sound stale s) (h : Tracks stale target k s) (hd : disturbs k s .client = false) :
    Tracks stale target k (clientStep s) := by
  obtain ⟨cur, hrep, hhold⟩ := h
  rcases ht : s.todo with _ | ⟨op, rest⟩
  · rw [clientStep_idle ht]
    exact ⟨cur, hrep, hhold⟩
  rw [ht, replay_cons] at hrep
  rcases op with ⟨k', v⟩ | k'
  · rcases hst : s.staged with _ | m
    · -- the temporary file is apart from the object and the tombstone
      rw [clientStep_write ht hst]
      refine ⟨cur, by rw [ht, replay_cons]; exact hrep, hhold.frame rfl (by simp) (fun n hn => ?_) (List.Subset.refl _)⟩
      have hlt := (hs.tomb n (tomb?_of_tombOf hn)).1
      exact update_hidden_of_ne (by omega) _
    · obtain ⟨-, k'', v', rest', hput, hfile⟩ := hs.staged m hst
      obtain ⟨⟨rfl, rfl⟩, -⟩ : (k' = k'' ∧ v = v') ∧ rest = rest' := by simpa [ht] using hput
      rw [clientStep_rename ht hst]
      refine ⟨_, hrep, ?_⟩
      by_cases hk : k' = k
      · -- the rename puts the write at the object's path
        subst hk
        cases htomb : s.sweep.tombOf k' with
        | none => exact Holds.of_none htomb (.inl (by simp [Op.outcome, hfile]))
        | some n => exact Holds.of_some n htomb (.inr ⟨by simp [Op.outcome, hfile], by simp [Op.outcome]⟩)
      · rw [show (Op.put k' v).outcome k cur = cur by simp [Op.outcome, hk]]
        refine hhold.frame rfl (by simp [Ne.symm hk]) (fun n hn => ?_) (List.Subset.refl _)
        have hne : n ≠ m := fun e => (hs.tomb n (tomb?_of_tombOf hn)).2.1 (by rw [hst, e])
        dsimp only
        rw [update_object_hidden, update_hidden_of_ne hne]
  · rw [clientStep_remove ht]
    refine ⟨_, hrep, ?_⟩
    by_cases hk : k' = k
    · -- undisturbed: the sweep does not hold the key being deleted
      subst hk
      have htomb : s.sweep.tombOf k' = none := by
        cases h' : s.sweep.tombOf k' with
        | none => rfl
        | some n => simp [disturbs, h', ht, Op.removes] at hd
      exact Holds.of_none htomb (.inl (by simp [Op.outcome]))
    · rw [show (Op.remove k').outcome k cur = cur by simp [Op.outcome, hk]]
      exact hhold.frame rfl (by simp [Ne.symm hk]) (fun _ _ => by simp) (List.Subset.refl _)

theorem Tracks.sweepStep (hs : Sound stale s) (h : Tracks stale target k s) :
    Tracks stale target k (sweepStep stale s) := by
  obtain ⟨cur, hrep, hhold⟩ := h
  rcases hsw : s.sweep with ks | ⟨k', ks⟩ | ⟨k', n, ks⟩ | ⟨k', n, ks⟩ | ⟨k', n, ks⟩ | ⟨n, ks⟩
  · cases ks with
    | nil => rw [sweepStep_done hsw]; exact ⟨cur, hrep, hhold⟩
    | cons k' ks =>
      rw [sweepStep_read hsw]
      refine ⟨cur, hrep, hhold.frame ?_ rfl (fun _ _ => rfl) (List.Subset.refl _)⟩
      split <;> simp [hsw, Sweep.tombOf]
  · cases hf : s.files (.object k') with
    | none =>
      rw [sweepStep_seize_gone hsw hf]
      exact ⟨cur, hrep, hhold.frame (by simp [hsw, Sweep.tombOf]) rfl (fun _ _ => rfl) (List.Subset.refl _)⟩
    | some v =>
      rw [sweepStep_seize hsw hf]
      refine ⟨cur, hrep, ?_⟩
      have hnone : s.sweep.tombOf k = none := by simp [hsw, Sweep.tombOf]
      by_cases hk : k' = k
      · -- the object moves to the fresh tombstone, leaving its path free
        subst hk
        have hcur : cur = some v := by
          rcases hhold.none_cases hnone with h | ⟨h, -⟩
          · rw [← h, hf]
          · rw [hf] at h; cases h
        exact Holds.of_some s.fresh (by simp [Sweep.tombOf]) (.inl ⟨by simp, by simp [hcur]⟩)
      · refine hhold.frame (by simp [hsw, Sweep.tombOf, hk]) (by simp [Ne.symm hk]) (by simp [hnone]) (List.Subset.refl _)
  · rw [sweepStep_judge hsw]
    refine ⟨cur, hrep, hhold.frame ?_ rfl (fun _ _ => rfl) (List.Subset.refl _)⟩
    split <;> simp [hsw, Sweep.tombOf]
  · obtain ⟨-, -, hsome⟩ := hs.tomb n (by simp [hsw, Sweep.tomb?])
    have hstale := hs.dropping k' n ks hsw
    rw [sweepStep_drop hsw]
    refine ⟨cur, hrep, ?_⟩
    by_cases hk : k' = k
    · -- the stale version in the tombstone is the outcome, or the path was written anew
      subst hk
      rcases hhold.some_cases (show s.sweep.tombOf k' = some n by simp [hsw, Sweep.tombOf]) with
        ⟨hobj, htomb⟩ | ⟨hobj, -⟩
      · obtain ⟨t, ht⟩ := Option.isSome_iff_exists.1 hsome
        refine Holds.of_none (by simp [Sweep.tombOf]) (.inr ⟨by simpa using hobj, t, ?_, ?_, ?_⟩)
        · rw [← htomb, ht]
        · simpa [ht] using hstale
        · simp [ht]
      · exact Holds.of_none (by simp [Sweep.tombOf]) (.inl (by simpa using hobj))
    · refine hhold.frame (by simp [hsw, Sweep.tombOf, hk]) (by simp) (by simp [hsw, Sweep.tombOf, hk]) ?_
      exact List.subset_append_left _ _
  · by_cases hk : k' = k
    · subst hk
      have htomb : s.sweep.tombOf k' = some n := by simp [hsw, Sweep.tombOf]
      cases hf : s.files (.object k') with
      | some w =>
        -- a newer write holds the path: the tombstone is let go
        rw [sweepStep_link_taken hsw hf]
        refine ⟨cur, hrep, Holds.of_none (by simp [Sweep.tombOf]) (.inl ?_)⟩
        rcases hhold.some_cases htomb with ⟨hobj, -⟩ | ⟨hobj, -⟩
        · rw [hf] at hobj; cases hobj
        · exact hobj
      | none =>
        -- the path is free: the tombstone goes back to it
        rw [sweepStep_link hsw hf]
        refine ⟨cur, hrep, Holds.of_none (by simp [Sweep.tombOf]) (.inl ?_)⟩
        rcases hhold.some_cases htomb with ⟨-, htomb'⟩ | ⟨hobj, hsome⟩
        · simpa using htomb'
        · rw [hf] at hobj
          subst hobj
          cases hsome
    · have hnone : s.sweep.tombOf k = none := by simp [hsw, Sweep.tombOf, hk]
      cases hf : s.files (.object k') with
      | some w =>
        rw [sweepStep_link_taken hsw hf]
        exact ⟨cur, hrep, hhold.frame (by rw [hnone]; rfl) rfl (fun _ _ => rfl) (List.Subset.refl _)⟩
      | none =>
        rw [sweepStep_link hsw hf]
        exact ⟨cur, hrep, hhold.frame (by rw [hnone]; rfl) (by simp [Ne.symm hk]) (by simp [hnone]) (List.Subset.refl _)⟩
  · rw [sweepStep_unlink hsw]
    exact ⟨cur, hrep, hhold.frame (by simp [hsw, Sweep.tombOf]) (by simp) (by simp [hsw, Sweep.tombOf]) (List.Subset.refl _)⟩

theorem Tracks.step (hs : Sound stale s) (h : Tracks stale target k s) :
    ∀ a, disturbs k s a = false → Tracks stale target k (step stale s a)
  | .sweeper, _ => h.sweepStep hs
  | .client, hd => h.clientStep hs hd

/-- Along a run in which no delete of `k` lands while the sweep holds `k`, `k` stays on its
way to its target. -/
theorem Tracks.run (hs : Sound stale s) (h : Tracks stale target k s) (sched : List Actor)
    (hu : undisturbed stale k s sched = true) : Tracks stale target k (run stale s sched) := by
  induction sched generalizing s with
  | nil => exact h
  | cons a sched ih =>
    simp only [undisturbed, Bool.and_eq_true, Bool.not_eq_true'] at hu
    exact ih (hs.step a) (h.step hs a hu.1) hu.2

theorem tracks_start (objects : K → Option V) (calls : List (Call K V)) (ks : List K) (k : K) :
    Tracks stale (lastOutcome objects calls k) k (start objects calls ks) :=
  ⟨objects k, rfl, Holds.of_none (by simp [start, Sweep.tombOf]) (.inl rfl)⟩

end Tracks

/-- Reaping over every interleaving of one sweep with the client's calls: the sweep removes
only stale versions, and counts exactly those; once the sweep and every call are done, a key
that no delete reached while it sat in the sweep's tombstone holds the outcome of its last
write or delete, or nothing when that write was stale and swept. -/
theorem reaping_interleaved_with_calls (stale : V → Bool) (objects : K → Option V) (calls : List (Call K V))
    (ks : List K) (sched : List Actor) :
    let s := run stale (start objects calls ks) sched
    (∀ v ∈ s.removed, stale v = true) ∧ s.count = s.removed.length ∧
      (s.finished = true → ∀ k, undisturbed stale k (start objects calls ks) sched = true →
        s.files (.object k) = lastOutcome objects calls k ∨
          (s.files (.object k) = none ∧ ∃ v, lastOutcome objects calls k = some v ∧ stale v = true ∧ v ∈ s.removed)) := by
  intro s
  have hsound : Sound stale s := (sound_start objects calls ks).run sched
  refine ⟨hsound.removed, hsound.count, fun hfin k hu => ?_⟩
  have htracks : Tracks stale (lastOutcome objects calls k) k s :=
    (tracks_start objects calls ks k).run (sound_start objects calls ks) sched hu
  obtain ⟨cur, hrep, hhold⟩ := htracks
  -- at the end nothing is left to replay and the sweep holds no tombstone
  have hdone : s.todo.isEmpty = true ∧ s.sweep.finished = true := by simpa [State.finished] using hfin
  have htodo : s.todo = [] := List.isEmpty_iff.1 hdone.1
  have hcur : cur = lastOutcome objects calls k := by
    rw [htodo] at hrep
    exact hrep
  subst hcur
  exact hhold.none_cases (Sweep.tombOf_of_finished hdone.2)

/-- The re-check at work: the sweep reads an unused object, a fresh write takes its path
before the rename, and the sweep, finding its tombstone fresh, links the write back. -/
theorem fresh_write_caught_by_reap_is_restored :
    let old : ObjectFile := ⟨⟨"k", "v1", ⟨none, 0, ""⟩⟩, 1⟩
    let new : ObjectFile := ⟨⟨"k", "v2", ⟨none, 0, ""⟩⟩, 9⟩
    let objects : String → Option ObjectFile := fun k => if k = "k" then some old else none
    let calls : List (Call String ObjectFile) := [.upsertMany [("k", new)]]
    let sched : List Actor := [.sweeper, .client, .client, .sweeper, .sweeper, .sweeper, .sweeper]
    let s := run (unusedFile 5) (start objects calls ["k"]) sched
    s.finished = true ∧ undisturbed (unusedFile 5) "k" (start objects calls ["k"]) sched = true ∧
      (s.files (.object "k") = lastOutcome objects calls "k" ∨
        (s.files (.object "k") = none ∧
          ∃ v, lastOutcome objects calls "k" = some v ∧ unusedFile 5 v = true ∧ v ∈ s.removed)) := by
  intro old new objects calls sched s
  have hfin : s.finished = true := rfl
  have hu : undisturbed (unusedFile 5) "k" (start objects calls ["k"]) sched = true := rfl
  exact ⟨hfin, hu, (reaping_interleaved_with_calls (unusedFile 5) objects calls ["k"] sched).2.2 hfin "k" hu⟩

/-- A delete undone: an expired object is read as a candidate, a fresh write takes its
path, the sweep renames that write to its tombstone, the client deletes the key and
returns, and the sweep, finding the tombstone fresh, links it back to the free path. Every
call has returned, the last one on the key deleted it, and the key holds the write. -/
theorem delete_during_reap_is_undone :
    let old : ObjectFile := ⟨⟨"k", "v1", ⟨some 0, 0, ""⟩⟩, 0⟩
    let new : ObjectFile := ⟨⟨"k", "v2", ⟨none, 0, ""⟩⟩, 0⟩
    let objects : String → Option ObjectFile := fun k => if k = "k" then some old else none
    let calls : List (Call String ObjectFile) := [.upsertMany [("k", new)], .deleteMany ["k"]]
    let s := run (expiredFile 1) (start objects calls ["k"])
      [.sweeper, .client, .client, .sweeper, .client, .sweeper, .sweeper, .sweeper]
    s.finished = true ∧ lastOutcome objects calls "k" = none ∧ s.files (.object "k") = some new := by
  intro old new objects calls s
  exact ⟨rfl, rfl, rfl⟩

end Interleaving

end Bucket

end KvStore
