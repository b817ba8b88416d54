import KvStore.Proofs.Bucket.Budget
import KvStore.Proofs.Store.Alignment

/-!
Times of last use in a bucket. The modification time of a key's object file says when the
object was last written or read (`Layout.lastAccessed`). Clearing what went unused reads these
times: it removes exactly the objects, in every namespace, not used within the given number of
seconds, and counts them (`Keeps.clearUnusedFor`).

Over a run of calls, the time of each object still there is that of the last call that wrote
it or read it back (`Keeps.runCommands`): the step lemmas of each call (`Refreshes`) say that
writes and read hits stamp a key with a time within the call, and that nothing else, reads that
miss, listings, pages and sweeps included, changes it. A sweep's reap whose check keeps the
object links the tombstone back, and the object keeps its time (`Keeps.reap_kept`).
-/

namespace KvStore

namespace Bucket

open Act

variable {w : World} {l : Layout} {M : Contents}

/-- Whether an object last used at `m` went unused for `maxAge` seconds by `now`, all in
nanoseconds; a cutoff before the epoch is the epoch. -/
def unusedAt (now maxAge m : Nat) : Bool := decide ((m : Int) < max 0 ((now : Int) - maxAge * 1000000000))

theorem unusedAt_eq_cutoff (now maxAge m : Nat) :
    unusedAt now maxAge m = decide ((m : Int) < Layout.cutoff now maxAge) := by
  unfold unusedAt Layout.cutoff
  split <;> simp only [decide_eq_decide] <;> omega

def Layout.unusedFor (l : Layout) (w : World) (now maxAge : Nat) (a : String × String) : Bool :=
  (l.lastAccessed w a).any (unusedAt now maxAge)

theorem Keeps.modified_held (hk : Keeps l w M) {ns k : String} {s : Stored} (hs : M.lookup (ns, k) = some s) :
    ∃ m, w.host.files.modified (w.host.resolve (l.objectPath ns k)) = .ok m ∧ l.lastAccessed w (ns, k) = some m ∧
      ∀ d m', w.host.files.find? (w.host.resolve l.bucketDir ++ [namespaceDirName ns, objectFileName k]) =
        some (.file d m') → m' = m := by
  obtain ⟨la, m, -, hdir, hl⟩ := hk.holds.lookup_object_of_lookup hs
  have hfind : w.host.files.find? (w.host.resolve l.bucketDir ++ [namespaceDirName ns, objectFileName k]) =
      some (.file (.text (objectText ns k s la)) m) := by
    rw [hk.holds.lookup_object_of_dir (hk.holds.fits ns k s hs).1 hdir _ (Holds.short_objectFileName k)] at hl
    exact Except.ok.inj hl
  refine ⟨m, by rw [resolve_objectPath]; exact FileTree.modified_of_file hl, lastAccessed_of_file hfind,
    fun d m' hf => ?_⟩
  rw [hfind] at hf
  cases hf
  rfl

/-- What clearing what went unused does with each object it lists, for the cutoff `limit`. -/
def Layout.unusedVisit (l : Layout) (limit : Int) (n : Nat) (path : String) : Act Nat := do
  match (← files).modified (← resolve path) with
  | .ok modified =>
    if (modified : Int) < limit then
      pure (if ← l.reap path (fun _ modified => decide ((modified : Int) < limit)) then n + 1 else n)
    else pure n
  | .error .notFound => pure n
  | .error e => throw (ioFailure "bucket_metadata" e)

theorem clearUnusedFor_eq_sweep (l : Layout) (maxAge : Nat) :
    l.clearUnusedFor maxAge = (do
      modify fun w => { w with host := w.host.tick }
      let limit := Layout.cutoff (← get).host.clock maxAge
      l.sweep (l.unusedVisit limit)) :=
  rfl

/-- Clearing what went unused removes, in every namespace, exactly the objects whose time of
last use lies before `maxAge` seconds ago, as the clock reads when the call begins, and counts
them; the objects left keep their times. -/
theorem Keeps.clearUnusedFor (hk : Keeps l w M) (maxAge : Nat)
    (hunique : w.unique + (M.filter fun a _ => l.unusedFor w (w.host.clock + 1000) maxAge a).entries.length ≤
      10 ^ 249) :
    ∃ w', (l.clearUnusedFor maxAge).Returns w
        (M.filter fun a _ => l.unusedFor w (w.host.clock + 1000) maxAge a).entries.length w' ∧
      Keeps l w' (M.filter fun a _ => !l.unusedFor w (w.host.clock + 1000) maxAge a) ∧
      Follows w w' (1 + 2 * (M.filter fun a _ => l.unusedFor w (w.host.clock + 1000) maxAge a).entries.length)
        (M.filter fun a _ => l.unusedFor w (w.host.clock + 1000) maxAge a).entries.length ∧
      Refreshes l w w' M (M.filter fun a _ => !l.unusedFor w (w.host.clock + 1000) maxAge a) fun _ => False := by
  let U : String × String → Stored → Bool := fun a _ => l.unusedFor w (w.host.clock + 1000) maxAge a
  -- the call ticks the clock once and reads it
  let w₀ : World := { w with host := w.host.tick }
  have hk₀ : Keeps l w₀ M := ⟨hk.poolOpen, hk.holds⟩
  have hf₀ : Follows w w₀ 1 0 := ⟨rfl, rfl, by simp [w₀, Host.tick], rfl⟩
  have hr₀ : Refreshes l w w₀ M M fun _ => False :=
    Refreshes.of_frame (by simp [w₀, Host.tick]) rfl (fun _ h => h) fun _ _ => rfl
  have hvisit : Visits l w₀ M U (l.unusedVisit (Layout.cutoff w₀.host.clock maxAge)) := by
    intro w₂ M₂ n ns k s hk₂ hr₂ hns hs₂
    -- the sweep has not touched the object yet: its time of last use is the one it had
    obtain ⟨m, hmod, hla, hfile⟩ := hk₂.modified_held hs₂
    have hU : U (ns, k) s = decide ((m : Int) < Layout.cutoff w.host.tick.clock maxAge) := by
      have hsame : l.lastAccessed w (ns, k) = some m := by
        rw [← hla, hr₂.kept _ (by rw [hs₂]; rfl) id]
        rfl
      show (l.lastAccessed w (ns, k)).any _ = _
      rw [hsame, Option.any_some, unusedAt_eq_cutoff]
      rfl
    refine ⟨fun hu hn => ?_, fun hu => returns_files.bind ((returns_resolve _).bind ?_)⟩
    · -- unused: it is reaped, and the check on its tombstone reads the same time
      have hcond : (m : Int) < Layout.cutoff w.host.tick.clock maxAge := by
        simpa [hu] using hU
      obtain ⟨w₃, hreap, hk₃, hf₃, hr₃⟩ := hk₂.reap_stale hns hs₂
        (fun _ modified => decide ((modified : Int) < Layout.cutoff w.host.tick.clock maxAge))
        (fun _ m' hf' => by rw [hfile _ m' hf']; simpa using hcond) hn
      refine ⟨w₃, returns_files.bind ((returns_resolve _).bind ?_), hk₃, hf₃, hr₃⟩
      rw [hmod]
      dsimp only
      rw [if_pos hcond]
      exact hreap.bind (returns_pure _ _)
    · have hcond : ¬ ((m : Int) < Layout.cutoff w.host.tick.clock maxAge) := by
        simpa [hu] using hU
      rw [hmod]
      dsimp only
      rw [if_neg hcond]
      exact returns_pure _ _
  obtain ⟨w', hrun, hk', hf', hr'⟩ := hk₀.sweep hvisit hunique
  refine ⟨w', ?_, hk', (hf₀.trans hf').of_le (le_refl _) (Nat.zero_add _), hr₀.frame_trans hr'⟩
  rw [clearUnusedFor_eq_sweep]
  exact (returns_modify _ w).bind ((returns_get _).bind hrun)

section Sizes

theorem length_insert_le (M : Contents) (a : String × String) (s : Stored) :
    (M.insert a s).entries.length ≤ M.entries.length + 1 := by
  rw [AList.entries_insert, List.length_cons]
  exact Nat.succ_le_succ (List.kerase_sublist _ _).length_le

theorem length_erase_le (M : Contents) (a : String × String) : (M.erase a).entries.length ≤ M.entries.length :=
  (List.kerase_sublist _ _).length_le

theorem length_apply_le (c : Call) (M : Contents) :
    (c.apply M).2.entries.length ≤ M.entries.length + c.entries.length := by
  cases c with
  | upsertMany ns entries =>
    show (M.upsert ns entries).entries.length ≤ M.entries.length + entries.length
    induction entries using List.reverseRecOn with
    | nil => exact le_refl _
    | append_singleton entries e ih =>
      have := length_insert_le (M.upsert ns entries) (ns, e.key) ⟨e.value, e.expires⟩
      rw [Contents.upsert_append_singleton, List.length_append, List.length_singleton]
      omega
  | deleteMany ns keys =>
    show (M.deleteAll ns keys).2.entries.length ≤ M.entries.length + 0
    induction keys using List.reverseRecOn with
    | nil => exact le_refl _
    | append_singleton keys k ih =>
      rw [Contents.deleteAll_append_singleton]
      exact (length_erase_le _ _).trans ih
  | delete ns key => exact (length_erase_le M _).trans (Nat.le_add_right _ _)
  | clearNamespace ns | clearExpired now => exact (List.length_filter_le _ _).trans (Nat.le_add_right _ _)
  | bootstrap | getMany | hasMany | page => exact Nat.le_add_right _ _

end Sizes

/-- A call a bucket answers: a primitive call of the backend contract, or clearing the objects
unused for a number of seconds. -/
inductive Command where
  | call (c : Call)
  | clearUnusedFor (maxAge : Nat)

namespace Command

def perform (l : Layout) : Command → Act Reply
  | .call c => (Backend.bucket l).perform c
  | .clearUnusedFor maxAge => .count <$> l.clearUnusedFor maxAge

def performAll (l : Layout) (cs : List Command) : Act (List Reply) := cs.mapM (perform l)

/-- Whether a call used a key, as its reply shows: it wrote the key, or read it back. -/
def uses : Command → Reply → String × String → Bool
  | .call (.upsertMany ns entries), _, a => decide (a.1 = ns ∧ a.2 ∈ entries.map (·.key))
  | .call (.getMany ns _), .pairs found, a => decide (a.1 = ns ∧ a.2 ∈ found.map (·.1))
  | _, _, _ => false

def keys : Command → List String
  | .call c => c.keys
  | .clearUnusedFor _ => []

def entries : Command → List StoredEntry
  | .call c => c.entries
  | .clearUnusedFor _ => []

def namespace? : Command → Option String
  | .call c => c.namespace?
  | .clearUnusedFor _ => none

/-- How many times a call changes the files at most, while at most `n` keys are held. -/
def ticks : Command → Nat → Nat
  | .call (.clearNamespace _), n => n
  | .call (.clearExpired _), n => 2 * n
  | .call c, _ => callTicks c ∅
  | .clearUnusedFor _, n => 1 + 2 * n

/-- How many times calls made one after another change the files at most, from `n` held keys. -/
def room : List Command → Nat → Nat
  | [], _ => 0
  | c :: cs, n => c.ticks n + room cs (n + c.entries.length)

theorem ticks_mono (c : Command) {n n' : Nat} (h : n ≤ n') : c.ticks n ≤ c.ticks n' := by
  rcases c with ((_ | _ | _ | _ | _ | _ | _ | _ | _) | _) <;> simp only [ticks] <;> omega

theorem room_mono (cs : List Command) {n n' : Nat} (h : n ≤ n') : room cs n ≤ room cs n' := by
  induction cs generalizing n n' with
  | nil => exact le_refl _
  | cons c cs ih =>
    have := c.ticks_mono h
    have := ih (Nat.add_le_add_right h c.entries.length)
    simp only [room]
    omega

theorem callTicks_le_ticks (c : Call) {n : Nat} (hM : M.entries.length ≤ n) : callTicks c M ≤ (call c).ticks n := by
  cases c with
  | clearNamespace ns =>
    have : (M.keysIn ns).length ≤ M.entries.length := by
      simp only [Contents.keysIn, List.length_map]
      exact List.length_filter_le _ _
    simp only [callTicks, ticks]
    omega
  | clearExpired now =>
    have : (M.clearExpired now).1 ≤ M.entries.length := List.length_filter_le _ _
    simp only [callTicks, ticks]
    omega
  | _ => exact le_refl _

end Command

/-- Where in a run the last call that used a key stands, given each call's reply. -/
def lastUse : List (Command × Reply) → String × String → Option Nat
  | [], _ => none
  | (c, r) :: rest, a =>
    match lastUse rest a with
    | some i => some (i + 1)
    | none => if c.uses r a then some 0 else none

def clockAfter (l : Layout) (cs : List Command) (w : World) : Nat := ((Command.performAll l cs).run w).2.host.clock

theorem clockAfter_cons {c : Command} {cs : List Command} {r : Reply} {w₁ : World}
    (h : (c.perform l).Returns w r w₁) : clockAfter l (c :: cs) w = clockAfter l cs w₁ := by
  unfold clockAfter Command.performAll
  rw [List.mapM_cons, run_bind, show (c.perform l).run w = (.ok r, w₁) from h]
  dsimp only
  rw [run_bind]
  rcases (cs.mapM (Command.perform l)).run w₁ with ⟨_ | _, _⟩ <;> rfl

/-- One call of a run answers, keeps the layout, and stamps exactly the keys it used; the
clock, the name counter and the map grow within its bounds. -/
theorem Keeps.command {K : List String} (hk : Keeps l w M) (c : Command)
    (hapart : ∀ k ∈ K, ∀ k' ∈ K, objectFileName k = objectFileName k' → k = k')
    (hheld : ∀ ns k, (M.lookup (ns, k)).isSome → k ∈ K) (hkeys : ∀ k ∈ c.keys, k ∈ K)
    (hns : ∀ ns ∈ c.namespace?, ns.utf8ByteSize ≤ 126) (hfits : ∀ e ∈ c.entries, Fits ⟨e.value, e.expires⟩)
    (hclock : w.host.clock + 1000 * c.ticks M.entries.length < 2 ^ 63 * 1000000)
    (hunique : w.unique + c.ticks M.entries.length ≤ 10 ^ 249) :
    ∃ r w' M', (c.perform l).Returns w r w' ∧ Keeps l w' M' ∧ Refreshes l w w' M M' (fun a => c.uses r a) ∧
      w'.host.clock ≤ w.host.clock + 1000 * c.ticks M.entries.length ∧
      w'.unique ≤ w.unique + c.ticks M.entries.length ∧ M'.entries.length ≤ M.entries.length + c.entries.length ∧
      ∀ ns k, (M'.lookup (ns, k)).isSome → k ∈ K := by
  cases c with
  | call c =>
    have hticks := Command.callTicks_le_ticks c (le_refl M.entries.length)
    have hfresh := callFresh_le c M
    obtain ⟨w', hrun, hk', hf, hr⟩ := hk.perform c hapart hheld hkeys hns hfits (by omega) (by omega)
    have hclock' := hf.clock
    have hunique' := hf.unique
    refine ⟨_, w', _, hrun, hk', hr.congr fun a ha => ?_, by omega, by omega, length_apply_le c M,
      fun ns k h => (held_apply c h).elim (hheld ns k) (hkeys k)⟩
    -- the keys stamped are those written, and those asked for that were found
    cases c with
    | getMany ns keys =>
      simp only [Call.stamps, Command.uses, Call.apply, decide_eq_true_eq] at ha ⊢
      obtain ⟨a₁, a₂⟩ := a
      constructor
      · rintro ⟨rfl, hkey⟩
        exact ⟨rfl, Store.mem_keys_found.2 ⟨hkey, ha⟩⟩
      · rintro ⟨rfl, hkey⟩
        exact ⟨rfl, (Store.mem_keys_found.1 hkey).1⟩
    | upsertMany ns entries => simp [Call.stamps, Command.uses]
    | _ => simp [Call.stamps, Command.uses]
  | clearUnusedFor maxAge =>
    have hcount : (M.filter fun a _ => l.unusedFor w (w.host.clock + 1000) maxAge a).entries.length ≤
        M.entries.length := List.length_filter_le _ _
    simp only [Command.ticks] at hunique hclock
    obtain ⟨w', hrun, hk', hf, hr⟩ := hk.clearUnusedFor maxAge (by omega)
    have hclock' := hf.clock
    have hunique' := hf.unique
    refine ⟨_, w', _, hrun.map, hk', hr.congr fun _ _ => by simp [Command.uses], ?_, ?_,
      (List.length_filter_le _ _).trans (Nat.le_add_right _ _), fun ns k h => hheld ns k ?_⟩
    · simp only [Command.ticks]
      omega
    · simp only [Command.ticks]
      omega
    · rw [Contents.lookup_filter] at h
      cases hM : M.lookup (ns, k)
      · rw [hM] at h
        cases h
      · rfl

/-- A run of calls from `w`, whose bucket holds the layout of `M`, answers and leaves each object
with the time of the last call that wrote it or read it back: a time within that call, or the
time it had before the run when no call used it. -/
def StampsLastUse (l : Layout) (w : World) (M : Contents) (cs : List Command) : Prop :=
  ∃ rs w' M', (Command.performAll l cs).Returns w rs w' ∧ Keeps l w' M' ∧
    ∀ a, (M'.lookup a).isSome → ∃ m, l.lastAccessed w' a = some m ∧
      match lastUse (cs.zip rs) a with
      | some i => clockAfter l (cs.take i) w < m ∧ m ≤ clockAfter l (cs.take (i + 1)) w
      | none => (M.lookup a).isSome ∧ l.lastAccessed w a = some m

/-- Clearing what went unused for `maxAge` seconds, from `w` whose bucket holds the layout of
`M`, counts the objects not used since the cutoff, removes exactly those, and leaves the others
their times. -/
def ClearsUnused (l : Layout) (w : World) (M : Contents) (maxAge : Nat) : Prop :=
  ∃ w', (l.clearUnusedFor maxAge).Returns w
      (M.filter fun a _ => l.unusedFor w (w.host.clock + 1000) maxAge a).entries.length w' ∧
    Keeps l w' (M.filter fun a _ => !l.unusedFor w (w.host.clock + 1000) maxAge a) ∧
    ∀ a, ((M.filter fun a _ => !l.unusedFor w (w.host.clock + 1000) maxAge a).lookup a).isSome →
      l.lastAccessed w' a = l.lastAccessed w a

/-- A reap whose check keeps a held object of `M` puts it back where it stood: the bucket
holds the layout of `M` again and every object its time. -/
def RestoresKept (l : Layout) (w : World) (M : Contents) : Prop :=
  ∀ ns k s (stale : StoredObject → Nat → Bool), ns.utf8ByteSize ≤ 126 → M.lookup (ns, k) = some s →
    (∀ la m, w.host.files.find? (w.host.resolve l.bucketDir ++ [namespaceDirName ns, objectFileName k]) =
      some (.file (.text (objectText ns k s la)) m) → stale (objectOf ns k s la) m = false) →
    ∃ w', (l.reap (l.objectPath ns k) stale).Returns w false w' ∧ Keeps l w' M ∧
      ∀ a, (M.lookup a).isSome → l.lastAccessed w' a = l.lastAccessed w a

theorem Keeps.runCommands {K : List String} (hk : Keeps l w M) (cs : List Command)
    (hapart : ∀ k ∈ K, ∀ k' ∈ K, objectFileName k = objectFileName k' → k = k')
    (hheld : ∀ ns k, (M.lookup (ns, k)).isSome → k ∈ K) (hkeys : ∀ c ∈ cs, ∀ k ∈ c.keys, k ∈ K)
    (hns : ∀ c ∈ cs, ∀ ns ∈ c.namespace?, ns.utf8ByteSize ≤ 126)
    (hfits : ∀ c ∈ cs, ∀ e ∈ c.entries, Fits ⟨e.value, e.expires⟩)
    (hclock : w.host.clock + 1000 * Command.room cs M.entries.length < 2 ^ 63 * 1000000)
    (hunique : w.unique + Command.room cs M.entries.length ≤ 10 ^ 249) :
    StampsLastUse l w M cs := by
  induction cs generalizing w M with
  | nil =>
    refine ⟨[], w, M, returns_pure _ _, hk, fun a ha => ?_⟩
    obtain ⟨m, hm⟩ := hk.lastAccessed_held ha
    exact ⟨m, hm, ha, hm⟩
  | cons c cs ih =>
    simp only [Command.room] at hclock hunique
    obtain ⟨r, w₁, M₁, hrun, hk₁, hr, hclock₁, hunique₁, hlen, hheld₁⟩ := hk.command c hapart hheld
      (hkeys c (by simp)) (hns c (by simp)) (hfits c (by simp)) (by omega) (by omega)
    have hroom := Command.room_mono cs hlen
    obtain ⟨rs, w', M', hrest, hk', hlast⟩ := ih hk₁ hheld₁ (fun c' hc' => hkeys c' (by simp [hc']))
      (fun c' hc' => hns c' (by simp [hc'])) (fun c' hc' => hfits c' (by simp [hc'])) (by omega) (by omega)
    refine ⟨r :: rs, w', M', ?_, hk', fun a ha => ?_⟩
    · unfold Command.performAll
      rw [List.mapM_cons]
      exact hrun.bind (hrest.bind (returns_pure _ _))
    · obtain ⟨m, hm, hwhen⟩ := hlast a ha
      refine ⟨m, hm, ?_⟩
      rw [List.zip_cons_cons, lastUse]
      -- the last use is in the rest of the run, or it is this call, or there is none
      cases hi : lastUse (cs.zip rs) a with
      | some i =>
        rw [hi] at hwhen
        dsimp only
        rw [List.take_succ_cons, List.take_succ_cons, clockAfter_cons hrun, clockAfter_cons hrun]
        exact hwhen
      | none =>
        rw [hi] at hwhen
        obtain ⟨hheld₁a, hm₁⟩ := hwhen
        by_cases hu : c.uses r a = true
        · obtain ⟨m', hm', hlo, hhi⟩ := hr.used a hheld₁a hu
          rw [hm₁, Option.some.injEq] at hm'
          subst hm'
          simp only [hu, if_true, List.take_zero, List.take_succ_cons, clockAfter_cons hrun]
          exact ⟨hlo, hhi⟩
        · simp only [hu, Bool.false_eq_true, if_false]
          exact ⟨hr.held a hheld₁a hu, (hr.kept a hheld₁a hu).symm.trans hm₁⟩

/-- The bucket keeps, as each object file's modification time, when the object was last used.
Every run of calls from a bucket holding the layout of `M`, under the conditions of the layout
(namespaces that fit a directory name, expiries that fit 64 bits, long keys with distinct
digests, room on the clock and the name counter), leaves each object with a time within the last
call that wrote it or read it back, or with the time it had before the run when no call did. A
reap whose check keeps an object puts it back with its time. Clearing what went unused removes
in every namespace exactly the objects not used since the cutoff, counts them, and leaves the
others their times. -/
theorem access_times_follow_last_use (l : Layout) :
    (∀ w M (cs : List Command), Keeps l w M →
      (∀ c ∈ cs, ∀ ns ∈ c.namespace?, ns.utf8ByteSize ≤ 126) →
      (∀ c ∈ cs, ∀ e ∈ c.entries, ∀ x ∈ e.expires, InI64 x) →
      (∀ k ∈ M.entries.map (·.1.2) ++ cs.flatMap Command.keys,
        ∀ k' ∈ M.entries.map (·.1.2) ++ cs.flatMap Command.keys,
        125 < k.utf8ByteSize → 125 < k'.utf8ByteSize →
        Sha256.digest k.toUTF8.toList = Sha256.digest k'.toUTF8.toList → k = k') →
      w.host.clock + 1000 * Command.room cs M.entries.length < 2 ^ 63 * 1000000 →
      w.unique + Command.room cs M.entries.length ≤ 10 ^ 249 →
      StampsLastUse l w M cs) ∧
    (∀ w M, Keeps l w M → w.unique < 10 ^ 249 → RestoresKept l w M) ∧
    ∀ w M maxAge, Keeps l w M → w.unique + M.entries.length ≤ 10 ^ 249 → ClearsUnused l w M maxAge := by
  refine ⟨fun w M cs hk hns hfits hdigests hclock hunique => ?_, fun w M hk hn => ?_,
    fun w M maxAge hk hunique => ?_⟩
  · exact hk.runCommands cs (objectFileName_apart hdigests)
      (fun ns k hheld => List.mem_append_left _ (key_mem_of_held hheld))
      (fun c hc k hk => List.mem_append_right _ (List.mem_flatMap.2 ⟨c, hc, hk⟩)) hns hfits hclock hunique
  · intro ns k s stale hns hs hkeep
    obtain ⟨w', hrun, hk', -, hr⟩ := hk.reap_kept hns hs stale hkeep hn
    exact ⟨w', hrun, hk', fun a ha => hr.kept a ha id⟩
  · have hcount : (M.filter fun a _ => l.unusedFor w (w.host.clock + 1000) maxAge a).entries.length ≤
        M.entries.length := List.length_filter_le _ _
    obtain ⟨w', hrun, hk', -, hr⟩ := hk.clearUnusedFor maxAge (by omega)
    exact ⟨w', hrun, hk', fun a ha => hr.kept a ha id⟩

/-- Writes two keys, reads one back and misses another, asks for both, clears what went unused
for an hour, and pages through the namespace. -/
def sampleRun : List Command :=
  [.call (.upsertMany "ns" [⟨"a", "1", none⟩, ⟨"b", "2", none⟩]), .call (.getMany "ns" ["a", "z"]),
    .call (.hasMany "ns" ["a", "b"]), .clearUnusedFor 3600, .call (.page "ns" none 10)]

theorem fresh_bucket_stamps_last_use :
    StampsLastUse freshLayout freshWorld ∅ sampleRun ∧ RestoresKept freshLayout freshWorld ∅ ∧
      ClearsUnused freshLayout freshWorld ∅ 3600 :=
  ⟨(access_times_follow_last_use freshLayout).1 freshWorld ∅ sampleRun keeps_fresh (by decide) (by decide)
      (by decide) (by decide) (by decide),
    (access_times_follow_last_use freshLayout).2.1 freshWorld ∅ keeps_fresh (by decide),
    (access_times_follow_last_use freshLayout).2.2 freshWorld ∅ 3600 keeps_fresh (by decide)⟩

end Bucket

end KvStore
