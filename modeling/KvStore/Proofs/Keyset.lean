import Mathlib
import KvStore.Store.Iterator

/-!
Keyset scans under concurrent writers.

What a page source sees at a fetch is a `Snapshot` of the namespace: its keys in
ascending order, and which of them can still be read when the page's entries are read.
A fetch from a cursor scans the first `limit` keys after it; the page counts them, names
the last, and carries those still readable (`Page.Answers`). A source answering its
`i`-th fetch from the `i`-th snapshot stands for every interleaving of inserts and
deletes with the scan, since the scan observes the namespace only through its fetches.

Main statements: a drained scan yields strictly increasing keys, and every key that
stays in the namespace from the first fetch to the last is yielded exactly once; on a
namespace nobody writes, the scan yields every key and fetches `n / limit + 1` pages.
-/

namespace KvStore

structure Snapshot where
  keys : List String
  ascending : keys.Pairwise (· < ·)
  /-- Whether a scanned key can still be read when the page's entries are read. -/
  live : String → Bool

def after (cursor : Option String) (key : String) : Bool :=
  match cursor with
  | some c => decide (c < key)
  | none => true

namespace Snapshot

def scan (s : Snapshot) (cursor : Option String) (limit : Nat) : List String :=
  (s.keys.filter (after cursor)).take limit

def Holds (s : Snapshot) (key : String) : Prop := key ∈ s.keys ∧ s.live key = true

def page (s : Snapshot) (value : String → String) (cursor : Option String) (limit : Nat) : Page :=
  { entries := ((s.scan cursor limit).filter s.live).map fun k => (k, value k)
    fetched := (s.scan cursor limit).length
    lastKey := (s.scan cursor limit).getLast? }

end Snapshot

/-- A page answers a fetch from `cursor` on a snapshot as the page-source contract asks:
it counts the keys scanned, names the last of them, and carries, in order, those still
readable. -/
structure Page.Answers (p : Page) (s : Snapshot) (cursor : Option String) (limit : Nat) : Prop where
  fetched : p.fetched = (s.scan cursor limit).length
  lastKey : p.lastKey = (s.scan cursor limit).getLast?
  entries : p.entries.map Prod.fst = (s.scan cursor limit).filter s.live

theorem Snapshot.page_answers (s : Snapshot) (value : String → String) (cursor : Option String)
    (limit : Nat) : (s.page value cursor limit).Answers s cursor limit :=
  ⟨rfl, rfl, by simp [Snapshot.page, Function.comp_def]⟩

def fetchFrom (src : Nat → Option String → Nat → Page) (cursor : Option String) (limit : Nat) :
    StateM Nat (Outcome Page) :=
  fun i => (.ok (src i cursor limit), i + 1)

def IterState.covers : IterState → String → Bool
  | .start, _ => false
  | .paging c, k => decide (k ≤ c)
  | .done, _ => true

theorem IterState.after_eq_not_covers {state : IterState} {cursor : Option String}
    (going : state.cursor? = some cursor) (key : String) :
    after cursor key = !state.covers key := by
  cases state with
  | start => cases going; rfl
  | paging c =>
    cases going
    simp only [after, IterState.covers, ← decide_not, not_le]
  | done => cases going

section Sorted

variable {α : Type} [LinearOrder α]

theorem le_getLast_of_mem {xs : List α} {last x : α} (ascending : xs.Pairwise (· < ·))
    (hlast : xs.getLast? = some last) (member : x ∈ xs) : x ≤ last := by
  obtain ⟨init, rfl⟩ := List.getLast?_eq_some_iff.mp hlast
  rcases List.mem_append.mp member with inInit | isLast
  · exact le_of_lt ((List.pairwise_append.mp ascending).2.2 x inInit last (by simp))
  · simp only [List.mem_singleton] at isLast
    exact le_of_eq isLast

theorem filter_le_getLast_take {xs : List α} {n : Nat} {last : α} (ascending : xs.Pairwise (· < ·))
    (hlast : (xs.take n).getLast? = some last) :
    xs.filter (fun x => decide (x ≤ last)) = xs.take n := by
  have split := List.pairwise_append.mp ((List.take_append_drop n xs).symm ▸ ascending)
  have inPrefix : last ∈ xs.take n := List.mem_of_getLast? hlast
  conv_lhs => rw [← List.take_append_drop n xs]
  rw [List.filter_append, List.filter_eq_self.mpr, List.filter_eq_nil_iff.mpr, List.append_nil]
  · intro x inRest
    simpa using split.2.2 last inPrefix x inRest
  · intro x inPrefix'
    simpa using le_getLast_of_mem split.1 hlast inPrefix'

theorem mem_take_of_le_getLast {xs : List α} {n : Nat} {last x : α} (ascending : xs.Pairwise (· < ·))
    (hlast : (xs.take n).getLast? = some last) (member : x ∈ xs) (below : x ≤ last) :
    x ∈ xs.take n := by
  rw [← filter_le_getLast_take ascending hlast]
  simpa using ⟨member, below⟩

theorem filter_append_filter_not {xs : List α} (ascending : xs.Pairwise (· < ·)) {p : α → Bool}
    (downward : ∀ a b, a < b → p b = true → p a = true) :
    xs.filter p ++ xs.filter (fun x => !p x) = xs := by
  induction xs with
  | nil => rfl
  | cons x rest ih =>
    have tail := ih (List.pairwise_cons.mp ascending).2
    by_cases kept : p x = true
    · simp [kept, tail]
    · have above : ∀ y ∈ rest, p y = false := by
        intro y member
        by_contra hy
        exact kept (downward x y ((List.pairwise_cons.mp ascending).1 y member) (by simpa using hy))
      have dropped : rest.filter p = [] := List.filter_eq_nil_iff.mpr (by simpa using above)
      have whole : rest.filter (fun x => !p x) = rest := List.filter_eq_self.mpr (by simpa using above)
      simp [kept, dropped, whole]

end Sorted

namespace Snapshot

theorem scan_sublist (s : Snapshot) (cursor : Option String) (limit : Nat) :
    (s.scan cursor limit).Sublist s.keys :=
  (List.take_sublist _ _).trans List.filter_sublist

theorem after_of_mem_scan {s : Snapshot} {cursor : Option String} {limit : Nat} {key : String}
    (member : key ∈ s.scan cursor limit) : after cursor key = true :=
  (List.mem_filter.mp (List.mem_of_mem_take member)).2

theorem scan_ascending (s : Snapshot) (cursor : Option String) (limit : Nat) :
    (s.scan cursor limit).Pairwise (· < ·) :=
  s.ascending.sublist (s.scan_sublist cursor limit)

theorem mem_scan_of_le_last {s : Snapshot} {cursor : Option String} {limit : Nat} {key last : String}
    (hlast : (s.scan cursor limit).getLast? = some last) (member : key ∈ s.keys)
    (later : after cursor key = true) (below : key ≤ last) : key ∈ s.scan cursor limit :=
  mem_take_of_le_getLast (s.ascending.sublist List.filter_sublist) hlast
    (List.mem_filter.mpr ⟨member, later⟩) below

theorem mem_scan_of_short {s : Snapshot} {cursor : Option String} {limit : Nat} {key : String}
    (short : (s.scan cursor limit).length < limit) (member : key ∈ s.keys)
    (later : after cursor key = true) : key ∈ s.scan cursor limit := by
  have whole : (s.keys.filter (after cursor)).length ≤ limit := by
    simp only [scan, List.length_take] at short
    omega
  rw [scan, List.take_of_length_le whole]
  exact List.mem_filter.mpr ⟨member, later⟩

theorem scan_ne_nil {s : Snapshot} {cursor : Option String} {limit : Nat} {key : String}
    (positive : 0 < limit) (member : key ∈ s.keys) (later : after cursor key = true) :
    s.scan cursor limit ≠ [] := by
  simp only [scan, ne_eq, List.take_eq_nil_iff, not_or]
  exact ⟨by omega, List.ne_nil_of_mem (List.mem_filter.mpr ⟨member, later⟩)⟩

end Snapshot

theorem IterState.eq_done_of_cursor?_eq_none {state : IterState} (stopped : state.cursor? = none) :
    state = .done := by
  cases state <;> simp_all [IterState.cursor?]

theorem IterState.lt_of_covers {state : IterState} {a b : String} (ha : state.covers a = true)
    (hb : state.covers b = false) : a < b := by
  cases state with
  | start => simp [IterState.covers] at ha
  | paging c =>
    simp only [IterState.covers, decide_eq_true_eq, decide_eq_false_iff_not, not_le] at ha hb
    exact lt_of_le_of_lt ha hb
  | done => simp [IterState.covers] at hb

def Stays (snap : Nat → Snapshot) (fetches : Nat) (key : String) : Prop :=
  ∀ j < fetches, (snap j).Holds key

theorem Stays.before {snap : Nat → Snapshot} {i : Nat} {key : String} (stays : Stays snap (i + 1) key) :
    Stays snap i key :=
  fun j early => stays j (by omega)

theorem Stays.last {snap : Nat → Snapshot} {i : Nat} {key : String} (stays : Stays snap (i + 1) key) :
    (snap i).Holds key :=
  stays i (by omega)

/-- The invariant of a scan under writers, after `fetches` fetches with `yielded` yielded.
The keys it has seen, yielded then buffered, ascend and lie at or before where it stands,
and every key at or before it that stayed throughout is among them. -/
structure ScanInv (snap : Nat → Snapshot) (it : KeysetIterator) (yielded : List String)
    (fetches : Nat) : Prop where
  positive : 0 < it.limit
  ascending : (yielded ++ it.buffer.map Prod.fst).Pairwise (· < ·)
  covered : ∀ k ∈ yielded ++ it.buffer.map Prod.fst, it.state.covers k = true
  complete : ∀ k, Stays snap fetches k → it.state.covers k = true →
    k ∈ yielded ++ it.buffer.map Prod.fst

theorem ScanInv.start (snap : Nat → Snapshot) (limit : Nat) :
    ScanInv snap (KeysetIterator.new limit) [] 0 where
  positive := by simp [KeysetIterator.new]
  ascending := by simp [KeysetIterator.new]
  covered := by simp [KeysetIterator.new]
  complete := by simp [KeysetIterator.new, IterState.covers]

section Steps

variable {snap : Nat → Snapshot} {it : KeysetIterator} {ys : List String} {i : Nat}

theorem ScanInv.pop {e : String × String} {rest : List (String × String)}
    (inv : ScanInv snap it ys i) (hb : it.buffer = e :: rest) :
    ScanInv snap { it with buffer := rest } (ys ++ [e.1]) i := by
  have same : ys ++ [e.1] ++ rest.map Prod.fst = ys ++ it.buffer.map Prod.fst := by simp [hb]
  refine ⟨inv.positive, ?_, ?_, ?_⟩
  · simpa only [same] using inv.ascending
  · simpa only [same] using inv.covered
  · simpa only [same] using inv.complete

variable {cur : Option String} {p : Page}

theorem ScanInv.finish (inv : ScanInv snap it ys i) (going : it.state.cursor? = some cur) (answers : p.Answers (snap i) cur it.limit)
    (empty : p.fetched = 0) : ScanInv snap { it with state := .done } ys (i + 1) := by
  refine ⟨inv.positive, inv.ascending, by simp [IterState.covers], ?_⟩
  intro k stays _
  by_cases before : it.state.covers k = true
  · exact inv.complete k stays.before before
  · have later : after cur k = true := by
      simpa [IterState.after_eq_not_covers going] using before
    have nonempty := Snapshot.scan_ne_nil inv.positive stays.last.1 later
    rw [answers.fetched, List.length_eq_zero_iff] at empty
    exact absurd empty nonempty

/-- A fetch that scans something buffers the readable keys it scanned, all after the keys
seen so far. The scan then stands at the last key scanned, or is over when the page was
short, and in both cases no key that stayed is left behind. -/
theorem ScanInv.absorb (inv : ScanInv snap it ys i) (hb : it.buffer = [])
    (going : it.state.cursor? = some cur) (answers : p.Answers (snap i) cur it.limit)
    (nonempty : p.fetched ≠ 0) : ScanInv snap (it.absorb p) ys (i + 1) := by
  have buffered : (it.absorb p).buffer.map Prod.fst =
      ((snap i).scan cur it.limit).filter (snap i).live := by
    simp [KeysetIterator.absorb, hb, answers.entries]
  have yieldedCovered : ∀ k ∈ ys, it.state.covers k = true := by simpa [hb] using inv.covered
  have scannedAfter : ∀ k ∈ (snap i).scan cur it.limit, it.state.covers k = false := by
    intro k member
    simpa [IterState.after_eq_not_covers going] using Snapshot.after_of_mem_scan member
  have scanned : (snap i).scan cur it.limit ≠ [] := by
    intro none
    rw [answers.fetched, none] at nonempty
    exact nonempty rfl
  obtain ⟨last, hlast⟩ : ∃ last, ((snap i).scan cur it.limit).getLast? = some last :=
    ⟨_, List.getLast?_eq_some_getLast scanned⟩
  have state : (it.absorb p).state = if it.limit ≤ p.fetched then .paging last else .done := by
    simp [KeysetIterator.absorb, answers.lastKey, hlast]
  refine ⟨inv.positive, ?_, ?_, ?_⟩ <;> rw [buffered]
  · apply List.pairwise_append.mpr
    refine ⟨by simpa [hb] using inv.ascending,
      ((snap i).scan_ascending cur it.limit).sublist List.filter_sublist, ?_⟩
    intro a ha b hb'
    exact IterState.lt_of_covers (yieldedCovered a ha) (scannedAfter b (List.mem_of_mem_filter hb'))
  · intro k member
    rw [state]
    by_cases full : it.limit ≤ p.fetched
    · simp only [full, if_true, IterState.covers, decide_eq_true_eq]
      rcases List.mem_append.mp member with inYielded | inBuffer
      · exact le_of_lt (IterState.lt_of_covers (yieldedCovered k inYielded)
          (scannedAfter last (List.mem_of_getLast? hlast)))
      · exact le_getLast_of_mem ((snap i).scan_ascending cur it.limit) hlast
          (List.mem_of_mem_filter inBuffer)
    · simp [full, IterState.covers]
  · intro k stays covered
    by_cases before : it.state.covers k = true
    · exact List.mem_append_left _ (by simpa [hb] using inv.complete k stays.before before)
    · have later : after cur k = true := by
        simpa [IterState.after_eq_not_covers going] using before
      obtain ⟨inKeys, isLive⟩ := stays.last
      have inScan : k ∈ (snap i).scan cur it.limit := by
        rw [state] at covered
        by_cases full : it.limit ≤ p.fetched
        · simp only [full, if_true, IterState.covers, decide_eq_true_eq] at covered
          exact Snapshot.mem_scan_of_le_last hlast inKeys later covered
        · exact Snapshot.mem_scan_of_short (answers.fetched ▸ Nat.lt_of_not_le full) inKeys later
      exact List.mem_append_right _ (List.mem_filter.mpr ⟨inScan, isLive⟩)

end Steps

theorem IterState.covers_of_lt {state : IterState} {a b : String} (lt : a < b)
    (hb : state.covers b = true) : state.covers a = true := by
  cases state with
  | start => simp [IterState.covers] at hb
  | paging c =>
    simp only [IterState.covers, decide_eq_true_eq] at hb ⊢
    exact le_of_lt (lt_of_lt_of_le lt hb)
  | done => rfl

@[simp] theorem IterState.filter_done_covers (xs : List String) :
    xs.filter IterState.done.covers = xs :=
  List.filter_eq_self.mpr fun _ _ => rfl

theorem Snapshot.covered_append_after (s : Snapshot) {state : IterState} {cursor : Option String}
    (going : state.cursor? = some cursor) :
    s.keys.filter state.covers ++ s.keys.filter (after cursor) = s.keys := by
  have flipped : s.keys.filter (after cursor) = s.keys.filter (fun k => !state.covers k) := by
    congr 1
    funext k
    exact IterState.after_eq_not_covers going k
  rw [flipped]
  exact filter_append_filter_not s.ascending fun _ _ lt hb => IterState.covers_of_lt lt hb

/-- The invariant of a scan of a namespace nobody writes, pages of `limit` keys: the keys it
has seen are exactly those at or before where it stands, a full page of them for each page
fetched while it goes on, and once it is over it has fetched one page more than the full
pages the namespace fills. -/
structure SteadyInv (s : Snapshot) (limit : Nat) (it : KeysetIterator) (yielded : List String)
    (fetches : Nat) : Prop where
  positive : 0 < limit
  sameLimit : it.limit = limit
  seen : yielded ++ it.buffer.map Prod.fst = s.keys.filter it.state.covers
  paged : it.state ≠ .done → (yielded ++ it.buffer.map Prod.fst).length = fetches * limit
  ended : it.state = .done → fetches = s.keys.length / limit + 1

theorem SteadyInv.start (s : Snapshot) (limit : Nat) :
    SteadyInv s (max limit 1) (KeysetIterator.new limit) [] 0 where
  positive := by omega
  sameLimit := rfl
  seen := by simp [KeysetIterator.new, IterState.covers]
  paged := by simp [KeysetIterator.new]
  ended := by simp [KeysetIterator.new]

section Steady

variable {s : Snapshot} {limit : Nat} {it : KeysetIterator} {ys : List String} {i : Nat}

theorem SteadyInv.pop {e : String × String} {rest : List (String × String)}
    (inv : SteadyInv s limit it ys i) (hb : it.buffer = e :: rest) :
    SteadyInv s limit { it with buffer := rest } (ys ++ [e.1]) i := by
  have same : ys ++ [e.1] ++ rest.map Prod.fst = ys ++ it.buffer.map Prod.fst := by simp [hb]
  refine ⟨inv.positive, inv.sameLimit, ?_, ?_, inv.ended⟩
  · simpa only [same] using inv.seen
  · simpa only [same] using inv.paged

variable {cur : Option String} {p : Page}

theorem SteadyInv.finish (inv : SteadyInv s limit it ys i) (hb : it.buffer = [])
    (going : it.state.cursor? = some cur) (answers : p.Answers s cur limit) (empty : p.fetched = 0) :
    SteadyInv s limit { it with state := .done } ys (i + 1) := by
  have nothingAfter : s.keys.filter (after cur) = [] := by
    rw [answers.fetched, List.length_eq_zero_iff, Snapshot.scan, List.take_eq_nil_iff] at empty
    exact empty.resolve_left (Nat.pos_iff_ne_zero.mp inv.positive)
  have all : ys = s.keys := by
    have whole := s.covered_append_after going
    rw [nothingAfter, List.append_nil, ← inv.seen, hb] at whole
    simpa using whole
  have going' : it.state ≠ .done := by
    intro stopped
    simp [stopped, IterState.cursor?] at going
  have count : ys.length = i * limit := by simpa [hb] using inv.paged going'
  refine ⟨inv.positive, inv.sameLimit, ?_, fun stopped => absurd stopped (by simp), fun _ => ?_⟩
  · simp [hb, all]
  · rw [← all, count, Nat.mul_div_cancel _ inv.positive]

/-- A fetch that scans something buffers the next keys: a full page leaves the scan at its
last key, a short one ends it with every key seen. -/
theorem SteadyInv.absorb (inv : SteadyInv s limit it ys i) (hb : it.buffer = [])
    (going : it.state.cursor? = some cur) (answers : p.Answers s cur limit)
    (live : ∀ k, s.live k = true) (nonempty : p.fetched ≠ 0) :
    SteadyInv s limit (it.absorb p) ys (i + 1) := by
  set rest := s.keys.filter (after cur) with hrest
  have passed : ys = s.keys.filter it.state.covers := by simpa [hb] using inv.seen
  have whole : ys ++ rest = s.keys := passed ▸ s.covered_append_after going
  have buffered : (it.absorb p).buffer.map Prod.fst = rest.take limit := by
    simp [KeysetIterator.absorb, hb, answers.entries, List.filter_eq_self.mpr fun k _ => live k,
      Snapshot.scan, hrest]
  have scanned : rest.take limit ≠ [] := by
    intro none
    rw [answers.fetched, Snapshot.scan, ← hrest, none] at nonempty
    exact nonempty rfl
  obtain ⟨last, hlast⟩ : ∃ last, (rest.take limit).getLast? = some last :=
    ⟨_, List.getLast?_eq_some_getLast scanned⟩
  have going' : it.state ≠ .done := by
    intro stopped
    simp [stopped, IterState.cursor?] at going
  have count : ys.length = i * limit := by simpa [hb] using inv.paged going'
  have fetched : p.fetched = (rest.take limit).length := by rw [answers.fetched, Snapshot.scan]
  have state : (it.absorb p).state = if limit ≤ p.fetched then .paging last else .done := by
    simp [KeysetIterator.absorb, answers.lastKey, Snapshot.scan, ← hrest, hlast, inv.sameLimit]
  have restAscending : rest.Pairwise (· < ·) := s.ascending.sublist List.filter_sublist
  refine ⟨inv.positive, inv.sameLimit, ?_, ?_, ?_⟩
  · rw [buffered, state]
    by_cases full : limit ≤ p.fetched
    · have below : ys.filter (fun k => decide (k ≤ last)) = ys := by
        apply List.filter_eq_self.mpr
        intro k member
        have lastAfter : after cur last = true :=
          (List.mem_filter.mp (List.mem_of_mem_take (List.mem_of_getLast? hlast))).2
        have covered : it.state.covers k = true := by
          rw [passed] at member
          exact (List.mem_filter.mp member).2
        have uncovered : it.state.covers last = false := by
          simpa [IterState.after_eq_not_covers going] using lastAfter
        simpa using le_of_lt (IterState.lt_of_covers covered uncovered)
      have atLast : (IterState.paging last).covers = fun k => decide (k ≤ last) := rfl
      simp only [full, if_true, atLast]
      rw [← whole, List.filter_append, below, filter_le_getLast_take restAscending hlast]
    · have short : rest.length ≤ limit := by
        simp only [fetched, List.length_take] at full
        omega
      simp [full, List.take_of_length_le short, whole]
  · rw [buffered, state]
    intro going''
    by_cases full : limit ≤ p.fetched
    · have length : (rest.take limit).length = limit := by
        simp only [fetched] at full
        simp only [List.length_take] at full ⊢
        omega
      simp [count, length, Nat.succ_mul]
    · simp [full] at going''
  · rw [state]
    intro stopped
    by_cases full : limit ≤ p.fetched
    · simp [full] at stopped
    · have short : rest.length < limit := by
        simp only [fetched, List.length_take] at full
        omega
      have some : 0 < rest.length := by
        have := List.length_pos_iff.mpr scanned
        simp only [List.length_take] at this
        omega
      have total : s.keys.length = i * limit + rest.length := by
        rw [← whole, List.length_append, count]
      have lo : i * limit ≤ i * limit + rest.length := by omega
      have hi : i * limit + rest.length < (i + 1) * limit := by rw [Nat.add_mul]; omega
      rw [total, Nat.div_eq_of_lt_le lo hi]

end Steady

/-- The keys of a snapshot that a scan has still to pass: those after its cursor, while it
goes on. -/
def Snapshot.ahead (s : Snapshot) (state : IterState) : Nat :=
  match state.cursor? with
  | some cursor => (s.keys.filter (after cursor)).length
  | none => 0

/-- A page that scanned something leaves fewer keys ahead: its last key was ahead of the
cursor, and the scan goes on, if at all, after it. -/
theorem Snapshot.ahead_absorb_lt {s : Snapshot} {it : KeysetIterator} {cur : Option String} {p : Page}
    (going : it.state.cursor? = some cur) (answers : p.Answers s cur it.limit) (scanned : p.fetched ≠ 0) :
    s.ahead (it.absorb p).state < s.ahead it.state := by
  obtain ⟨last, hlast⟩ : ∃ last, (s.scan cur it.limit).getLast? = some last := by
    have nonempty : s.scan cur it.limit ≠ [] := by
      intro none
      rw [answers.fetched, none] at scanned
      exact scanned rfl
    exact Option.isSome_iff_exists.mp (List.getLast?_isSome.mpr nonempty)
  have member := List.mem_of_getLast? hlast
  have passed : 0 < (s.keys.filter (after cur)).length :=
    List.length_filter_pos_iff.mpr ⟨last, (s.scan_sublist cur it.limit).subset member,
      Snapshot.after_of_mem_scan member⟩
  -- every key after `last` is after the cursor, and `last` is not after itself
  have fewer : (s.keys.filter (after (some last))).length < (s.keys.filter (after cur)).length := by
    have nested : (s.keys.filter (after cur)).filter (after (some last)) = s.keys.filter (after (some last)) := by
      rw [List.filter_filter]
      refine List.filter_congr fun k _ => ?_
      cases hk : after (some last) k
      · rfl
      · have below : last < k := by simpa [after] using hk
        have above := Snapshot.after_of_mem_scan member
        cases cur with
        | none => rfl
        | some c =>
          simp only [after, Bool.true_and, decide_eq_true_eq] at above ⊢
          exact lt_trans above below
    rw [← nested]
    refine List.length_filter_lt_length_iff_exists.mpr ⟨last, ?_, by simp [after]⟩
    exact List.mem_filter.mpr ⟨(s.scan_sublist cur it.limit).subset member, Snapshot.after_of_mem_scan member⟩
  have state : (it.absorb p).state = if p.fetched ≥ it.limit then .paging last else .done := by
    simp only [KeysetIterator.absorb, answers.lastKey, hlast]
  have before : s.ahead it.state = (s.keys.filter (after cur)).length := by
    simp only [Snapshot.ahead, going]
  rw [state, before]
  split
  · simpa [Snapshot.ahead, IterState.cursor?] using fewer
  · simpa [Snapshot.ahead, IterState.cursor?] using passed

section Runs

open KeysetIterator

theorem nextWithin_buffered {m : Type → Type} [Monad m] (fetch : Option String → Nat → m (Outcome Page))
    {fuel : Nat} {it : KeysetIterator} {e : String × String} {rest : List (String × String)}
    (hb : it.buffer = e :: rest) :
    nextWithin fetch (fuel + 1) it = pure (some ({ it with buffer := rest }, .ok (some e))) := by
  simp [nextWithin, hb]

variable {src : Nat → Option String → Nat → Page}

theorem nextWithin_fetchFrom {fuel : Nat} {it : KeysetIterator} {cur : Option String} (i : Nat)
    (hb : it.buffer = []) (going : it.state.cursor? = some cur) :
    (nextWithin (fetchFrom src) (fuel + 1) it).run i =
      if (src i cur it.limit).fetched = 0 then (some ({ it with state := .done }, .ok none), i + 1)
      else (nextWithin (fetchFrom src) fuel (it.absorb (src i cur it.limit))).run (i + 1) := by
  simp only [nextWithin, hb, going]
  simp [fetchFrom, StateT.run, bind, StateT.bind, pure]
  split <;> rfl

theorem collectWithin_fetchFrom (fuel : Nat) (it : KeysetIterator) (acc : List (String × String))
    (i : Nat) :
    (collectWithin (fetchFrom src) (fuel + 1) it acc).run i =
      match (nextWithin (fetchFrom src) (fuel + 1) it).run i with
      | (none, j) => (none, j)
      | (some (_, .error e), j) => (some (.error e), j)
      | (some (_, .ok none), j) => (some (.ok acc.reverse), j)
      | (some (it', .ok (some e)), j) => (collectWithin (fetchFrom src) fuel it' (e :: acc)).run j := by
  rw [collectWithin, StateT.run_bind]
  rcases (nextWithin (fetchFrom src) (fuel + 1) it).run i with ⟨_ | ⟨it', _ | _ | e⟩, j⟩ <;> rfl

/-- What a call of `next` leaves, from a scan that had yielded `yielded`: the invariant
with the entry it yields added, or at the end a finished scan. It never fails, since the
source does not. -/
def NextSpec (snap : Nat → Snapshot) (yielded : List String) (fetches : Nat) :
    KeysetIterator × Outcome (Option (String × String)) → Prop
  | (it, .ok (some e)) => ScanInv snap it (yielded ++ [e.1]) fetches
  | (it, .ok none) => ScanInv snap it yielded fetches ∧ it.state = .done ∧ it.buffer = []
  | (_, .error _) => False

variable {snap : Nat → Snapshot}

theorem nextWithin_spec (answers : ∀ i cursor n, (src i cursor n).Answers (snap i) cursor n)
    {fuel : Nat} {it : KeysetIterator} {ys : List String} {i i' : Nat}
    {res : KeysetIterator × Outcome (Option (String × String))} (inv : ScanInv snap it ys i)
    (run : (nextWithin (fetchFrom src) fuel it).run i = (some res, i')) : NextSpec snap ys i' res := by
  induction fuel generalizing it i with
  | zero =>
    simp only [nextWithin, StateT.run, pure, StateT.pure] at run
    cases run
  | succ fuel ih =>
    cases hb : it.buffer with
    | cons e rest =>
      simp only [nextWithin, hb] at run
      cases run
      exact inv.pop hb
    | nil =>
      cases going : it.state.cursor? with
      | none =>
        simp only [nextWithin, hb, going] at run
        cases run
        exact ⟨inv, IterState.eq_done_of_cursor?_eq_none going, hb⟩
      | some cur =>
        rw [nextWithin_fetchFrom i hb going] at run
        split at run
        · cases run
          exact ⟨inv.finish going (answers i cur it.limit) ‹_›, rfl, hb⟩
        · exact ih (inv.absorb hb going (answers i cur it.limit) ‹_›) run

/-- More turns keep an answer: a step that answers within `fuel` turns of its loop gives
the same answer with any more. -/
theorem nextWithin_of_le {fuel fuel' : Nat} {it : KeysetIterator} {i i' : Nat}
    {res : KeysetIterator × Outcome (Option (String × String))} (more : fuel ≤ fuel')
    (run : (nextWithin (fetchFrom src) fuel it).run i = (some res, i')) :
    (nextWithin (fetchFrom src) fuel' it).run i = (some res, i') := by
  induction fuel generalizing fuel' it i with
  | zero =>
    simp only [nextWithin, StateT.run, pure, StateT.pure] at run
    cases run
  | succ fuel ih =>
    obtain ⟨f, rfl⟩ : ∃ f, fuel' = f + 1 := ⟨fuel' - 1, by omega⟩
    cases hb : it.buffer with
    | cons e rest =>
      rw [nextWithin_buffered _ hb] at run ⊢
      exact run
    | nil =>
      cases going : it.state.cursor? with
      | none =>
        simp only [nextWithin, hb, going] at run ⊢
        exact run
      | some cur =>
        rw [nextWithin_fetchFrom i hb going] at run ⊢
        split
        · rwa [if_pos ‹_›] at run
        · rw [if_neg ‹_›] at run
          exact ih (by omega) run

/-- On a namespace nobody writes, a step answers within one turn more than the keys its
scan has still to pass, whichever of them can be read: each page that yields nothing
leaves fewer keys ahead. -/
theorem nextWithin_answers {s : Snapshot} (answers : ∀ i cursor n, (src i cursor n).Answers s cursor n)
    {fuel : Nat} {it : KeysetIterator} (enough : s.ahead it.state < fuel) (i : Nat) :
    ∃ res i', (nextWithin (fetchFrom src) fuel it).run i = (some res, i') := by
  induction fuel generalizing it i with
  | zero => omega
  | succ fuel ih =>
    cases hb : it.buffer with
    | cons e rest => exact ⟨_, i, by rw [nextWithin_buffered _ hb]; rfl⟩
    | nil =>
      cases going : it.state.cursor? with
      | none => exact ⟨_, i, by simp only [nextWithin, hb, going]; rfl⟩
      | some cur =>
        rw [nextWithin_fetchFrom i hb going]
        split
        · exact ⟨_, _, rfl⟩
        · have fewer := Snapshot.ahead_absorb_lt going (answers i cur it.limit) ‹_›
          exact ih (by omega) (i + 1)

/-- On a namespace nobody writes, the bound on a step's turns does not matter once it
exceeds the keys its scan has still to pass: every such bound gives the same answer. -/
theorem nextWithin_eq_of_ahead_lt {s : Snapshot} (answers : ∀ i cursor n, (src i cursor n).Answers s cursor n)
    {fuel : Nat} {it : KeysetIterator} (enough : s.ahead it.state < fuel) (i : Nat) :
    (nextWithin (fetchFrom src) fuel it).run i = (nextWithin (fetchFrom src) (s.ahead it.state + 1) it).run i := by
  obtain ⟨res, i', run⟩ := nextWithin_answers answers (Nat.lt_succ_self (s.ahead it.state)) i
  rw [run, nextWithin_of_le (by omega) run]

def yieldedKeys : Outcome (Option (String × String)) → List String
  | .ok (some e) => [e.1]
  | _ => []

/-- The scans reachable from a fresh one with page size `limit` by calls of `next` against
the source, with the keys yielded so far and the number of fetches made. -/
inductive Reaches (src : Nat → Option String → Nat → Page) (limit : Nat) :
    KeysetIterator → List String → Nat → Prop
  | start : Reaches src limit (KeysetIterator.new limit) [] 0
  | next {it : KeysetIterator} {ys : List String} {i fuel : Nat} {it' : KeysetIterator}
      {r : Outcome (Option (String × String))} {i' : Nat} :
      Reaches src limit it ys i → (nextWithin (fetchFrom src) fuel it).run i = (some (it', r), i') →
      Reaches src limit it' (ys ++ yieldedKeys r) i'

theorem Reaches.scanInv (answers : ∀ i cursor n, (src i cursor n).Answers (snap i) cursor n)
    {limit : Nat} {it : KeysetIterator} {ys : List String} {i : Nat} (reach : Reaches src limit it ys i) :
    ScanInv snap it ys i := by
  induction reach with
  | start => exact ScanInv.start snap limit
  | @next _ _ _ _ it' r _ _ run inv =>
    have spec := nextWithin_spec answers inv run
    rcases r with _ | _ | e
    · exact spec.elim
    · simpa [yieldedKeys] using spec.1
    · exact spec

/-- What a call of `next` leaves on a namespace nobody writes: the invariant with the entry
it yields added, or at the end every key yielded after one page more than the full ones. -/
def SteadyNext (s : Snapshot) (limit : Nat) (yielded : List String) (fetches : Nat) :
    KeysetIterator × Outcome (Option (String × String)) → Prop
  | (it, .ok (some e)) => SteadyInv s limit it (yielded ++ [e.1]) fetches
  | (_, .ok none) => yielded = s.keys ∧ fetches = s.keys.length / limit + 1
  | (_, .error _) => False

variable {s : Snapshot} {limit : Nat}

theorem SteadyInv.at_end {it : KeysetIterator} {ys : List String} {i : Nat}
    (inv : SteadyInv s limit it ys i) (hb : it.buffer = []) (stopped : it.state = .done) :
    ys = s.keys ∧ i = s.keys.length / limit + 1 :=
  ⟨by simpa [hb, stopped] using inv.seen, inv.ended stopped⟩

/-- On a namespace nobody writes, a call of `next` answers within two turns of its loop, and
within one once every key has been yielded. -/
theorem nextWithin_steady (answers : ∀ i cursor n, (src i cursor n).Answers s cursor n)
    (live : ∀ k, s.live k = true) (fuel : Nat) {it : KeysetIterator} {ys : List String} {i : Nat}
    (inv : SteadyInv s limit it ys i) (enough : 0 < fuel) (twice : ys.length < s.keys.length → 1 < fuel) :
    ∃ res i', (nextWithin (fetchFrom src) fuel it).run i = (some res, i') ∧ SteadyNext s limit ys i' res := by
  obtain ⟨f, rfl⟩ : ∃ f, fuel = f + 1 := ⟨fuel - 1, by omega⟩
  cases hb : it.buffer with
  | cons e rest =>
    exact ⟨({ it with buffer := rest }, .ok (some e)), i, by rw [nextWithin_buffered _ hb]; rfl,
      inv.pop hb⟩
  | nil =>
    cases going : it.state.cursor? with
    | none =>
      refine ⟨(it, .ok none), i, by simp only [nextWithin, hb, going]; rfl, ?_⟩
      exact inv.at_end hb (IterState.eq_done_of_cursor?_eq_none going)
    | some cur =>
      have answered : (src i cur it.limit).Answers s cur limit := by
        simpa only [inv.sameLimit] using answers i cur it.limit
      rw [nextWithin_fetchFrom i hb going]
      split
      · exact ⟨({ it with state := .done }, .ok none), i + 1, rfl,
          (inv.finish hb going answered ‹_›).at_end hb rfl⟩
      · have next := inv.absorb hb going answered live ‹_›
        obtain ⟨e, rest, hb'⟩ : ∃ e rest, (it.absorb (src i cur it.limit)).buffer = e :: rest := by
          have scanned : (it.absorb (src i cur it.limit)).buffer ≠ [] := by
            simp only [KeysetIterator.absorb, hb, List.nil_append, ne_eq]
            intro none
            have keys := (answers i cur it.limit).entries
            rw [none, List.map_nil, List.filter_eq_self.mpr fun k _ => live k] at keys
            have := (answers i cur it.limit).fetched
            rw [← keys, List.length_nil] at this
            exact ‹¬_› this
          exact List.exists_cons_of_ne_nil scanned
        have fewer : ys.length < s.keys.length := by
          have bound := congrArg List.length next.seen
          simp only [List.length_append, List.length_map, hb'] at bound
          have := List.length_filter_le (it.absorb (src i cur it.limit)).state.covers s.keys
          simp only [List.length_cons] at bound
          omega
        obtain ⟨f', rfl⟩ : ∃ f', f = f' + 1 := ⟨f - 1, by have := twice fewer; omega⟩
        exact ⟨({ it.absorb (src i cur it.limit) with buffer := rest }, .ok (some e)), i + 1,
          by rw [nextWithin_buffered _ hb']; rfl, next.pop hb'⟩

/-- On a namespace nobody writes, a drain with more calls than keys left yields every key and
fetches one page more than the full pages. -/
theorem collectWithin_steady (answers : ∀ i cursor n, (src i cursor n).Answers s cursor n)
    (live : ∀ k, s.live k = true) {fuel : Nat} {it : KeysetIterator} {acc : List (String × String)}
    {i : Nat} (inv : SteadyInv s limit it (acc.reverse.map Prod.fst) i)
    (enough : s.keys.length - acc.length < fuel) :
    ∃ entries, (collectWithin (fetchFrom src) fuel it acc).run i =
      (some (.ok entries), s.keys.length / limit + 1) ∧ entries.map Prod.fst = s.keys := by
  induction fuel generalizing it acc i with
  | zero => omega
  | succ f ih =>
    rw [collectWithin_fetchFrom]
    obtain ⟨res, j, run, spec⟩ := nextWithin_steady answers live (f + 1) inv (by omega)
      (fun fewer => by simp only [List.length_map, List.length_reverse] at fewer; omega)
    rw [run]
    rcases res with ⟨it', _ | _ | e⟩
    · exact spec.elim
    · obtain ⟨all, count⟩ := spec
      exact ⟨acc.reverse, by rw [count], all⟩
    · have spec : SteadyInv s limit it' (acc.reverse.map Prod.fst ++ [e.1]) j := spec
      have next : SteadyInv s limit it' ((e :: acc).reverse.map Prod.fst) j := by simpa using spec
      have room : acc.length + 1 ≤ s.keys.length := by
        have bound := congrArg List.length next.seen
        have := List.length_filter_le it'.state.covers s.keys
        simp only [List.length_append, List.length_map, List.length_reverse, List.length_cons] at bound
        omega
      exact ih next (by simp only [List.length_cons]; omega)

end Runs

/-- A keyset scan is complete and never repeats a key, whatever is written while it runs.
Against a source that answers each fetch from some snapshot of the namespace as the page
contract asks, the keys yielded by any run of `next` calls strictly increase; once a call
finds the end, every key that stayed in the namespace from the first fetch to the last was
yielded exactly once; and on a namespace nobody writes, a drain with more calls than keys
yields every key, fetching `n / limit + 1` pages. -/
theorem keyset_scan_yields_each_key_once (limit : Nat) (snap : Nat → Snapshot)
    (src : Nat → Option String → Nat → Page)
    (answers : ∀ i cursor n, (src i cursor n).Answers (snap i) cursor n) :
    (∀ it ys i, Reaches src limit it ys i → ys.Pairwise (· < ·)) ∧
    (∀ it ys i fuel it' i', Reaches src limit it ys i →
      (KeysetIterator.nextWithin (fetchFrom src) fuel it).run i = (some (it', .ok none), i') →
      ∀ key, Stays snap i' key → ys.count key = 1) ∧
    (∀ s : Snapshot, (∀ i, snap i = s) → (∀ key, s.live key = true) →
      ∀ fuel, s.keys.length < fuel →
        ∃ entries, (KeysetIterator.collectWithin (fetchFrom src) fuel (KeysetIterator.new limit) []).run 0 =
          (some (.ok entries), s.keys.length / max limit 1 + 1) ∧ entries.map Prod.fst = s.keys) := by
  refine ⟨fun it ys i reach => ?_, fun it ys i fuel it' i' reach run key stays => ?_,
    fun s steady live fuel enough => ?_⟩
  · exact (reach.scanInv answers).ascending.sublist (List.sublist_append_left _ _)
  · obtain ⟨final, stopped, empty⟩ := nextWithin_spec answers (reach.scanInv answers) run
    have ascending : ys.Pairwise (· < ·) := by simpa [empty] using final.ascending
    have yielded : key ∈ ys := by
      simpa [empty] using final.complete key stays (by simp [stopped, IterState.covers])
    exact List.count_eq_one_of_mem (ascending.imp ne_of_lt) yielded
  · have answered : ∀ i cursor n, (src i cursor n).Answers s cursor n :=
      fun i cursor n => steady i ▸ answers i cursor n
    exact collectWithin_steady answered live (SteadyInv.start s limit) (by simpa using enough)

def pagesDeleted (i : Nat) : Snapshot where
  keys := ["a", "b", "c", "d", "e"].drop (2 * i)
  ascending := List.Pairwise.sublist (List.drop_sublist _ _) (by decide)
  live := fun _ => true

theorem keyset_scan_with_pages_deleted :
    (∀ i cursor n, ((pagesDeleted i).page (fun _ => "v") cursor n).Answers (pagesDeleted i) cursor n) ∧
    (∀ it ys i, Reaches (fun i => (pagesDeleted i).page (fun _ => "v")) 2 it ys i → ys.Pairwise (· < ·)) ∧
    (∀ it ys i fuel it' i', Reaches (fun i => (pagesDeleted i).page (fun _ => "v")) 2 it ys i →
      (KeysetIterator.nextWithin (fetchFrom fun i => (pagesDeleted i).page (fun _ => "v")) fuel it).run i =
        (some (it', .ok none), i') →
      ∀ key, Stays pagesDeleted i' key → ys.count key = 1) ∧
    (∀ s : Snapshot, (∀ i, pagesDeleted i = s) → (∀ key, s.live key = true) →
      ∀ fuel, s.keys.length < fuel →
        ∃ entries, (KeysetIterator.collectWithin (fetchFrom fun i => (pagesDeleted i).page (fun _ => "v"))
            fuel (KeysetIterator.new 2) []).run 0 =
          (some (.ok entries), s.keys.length / max 2 1 + 1) ∧ entries.map Prod.fst = s.keys) :=
  ⟨fun i cursor n => (pagesDeleted i).page_answers _ cursor n,
    keyset_scan_yields_each_key_once 2 pagesDeleted _ fun i cursor n => (pagesDeleted i).page_answers _ cursor n⟩

end KvStore
