import Mathlib
import KvStore.Proofs.Store.Gate
import KvStore.Proofs.Pool.Calls
import KvStore.Proofs.Backend.Metrics

/-!
What a store records of its calls. A store counts each backend call it makes under
`storage_operations_total`, with the call's outcome, adds what `clear_expired` removed to
`storage_entries_reaped_total`, and publishes events on its bus. A `Record` lists what a
run of calls should leave there: the operations counted with their status, the counts
returned by `clear_expired`, and the events, in order. `Accounted b R x x'` says that from
`x` to `x'` every such counter of backend `b` grew by what `R` adds to it and the bus took
the events of `R`; `Reports` carries it, with the action's outcome, along the code.

`Step.record` says what each call of the store's interface records: the bootstrap when the
call ran it, the call's own operation when it passed the open check and the bootstrap gate,
the count and the event of `clear_expired`, the error of a failed sweep and the first
disconnect (`Step.accounted`). A whole run records the concatenation (`replay_accounted`),
in which the bootstrap is counted at most once and at most one disconnect is published,
since a call that counts one leaves its outcome cached (`Step.bootstraps_le`) and one that
publishes the other leaves the store closed (`Step.disconnects_le`).
-/
namespace KvStore

namespace Store

def operationSeries (backend operation status : String) : String :=
  Metrics.series "storage_operations_total" [("backend", backend), ("operation", operation), ("status", status)]

def reapedSeries (backend : String) : String :=
  Metrics.series "storage_entries_reaped_total" [("backend", backend)]

def Tallied (backend key : String) : Prop := (∃ o s, key = operationSeries backend o s) ∨ key = reapedSeries backend

def statusOf {α : Type} (r : Except Error α) : String := if r.toBool then "success" else "error"

section Series

theorem series_take (name : String) (labels : List (String × String)) {k : Nat} (hk : k ≤ name.length) :
    (Metrics.series name labels).toList.take k = name.toList.take k := by
  unfold Metrics.series
  split
  · rfl
  · simp only [String.toList_append, List.append_assoc]
    rw [List.take_append_of_le_length (by rw [String.length_toList]; exact hk)]

theorem series_ne_of_take {name name' : String} (labels labels' : List (String × String)) {k : Nat}
    (hk : k ≤ name.length) (hk' : k ≤ name'.length) (hne : name.toList.take k ≠ name'.toList.take k) :
    Metrics.series name labels ≠ Metrics.series name' labels' := fun h =>
  hne (by rw [← series_take name labels hk, ← series_take name' labels' hk', h])

theorem Tallied.ne_series {backend key name : String} (hkey : Tallied backend key)
    (hname : name = "store_events_published_total" ∨ name = "store_events_dropped_total" ∨
      name = "storage_pools_closed_total") (labels : List (String × String)) :
    key ≠ Metrics.series name labels := by
  have hlen : 9 ≤ name.length := by rcases hname with rfl | rfl | rfl <;> decide
  rcases hkey with ⟨o, s, rfl⟩ | rfl
  · refine series_ne_of_take _ _ (by decide) hlen ?_
    rcases hname with rfl | rfl | rfl <;> decide
  · refine series_ne_of_take _ _ (by decide) hlen ?_
    rcases hname with rfl | rfl | rfl <;> decide

theorem eq_of_append_cons_eq {α : Type} {c : α} :
    ∀ {l₁ l₂ r₁ r₂ : List α}, c ∉ l₁ → c ∉ l₂ → l₁ ++ c :: r₁ = l₂ ++ c :: r₂ → l₁ = l₂ ∧ r₁ = r₂
  | [], [], _, _, _, _, h => ⟨rfl, (List.cons.inj h).2⟩
  | [], a :: _, _, _, _, h₂, h => absurd (List.mem_cons.mpr (.inl (List.cons.inj h).1)) h₂
  | a :: _, [], _, _, h₁, _, h => absurd (List.mem_cons.mpr (.inl (List.cons.inj h).1.symm)) h₁
  | a :: l₁, b :: l₂, _, _, h₁, h₂, h => by
    obtain ⟨hab, h⟩ := List.cons.inj h
    obtain ⟨hl, hr⟩ := eq_of_append_cons_eq (fun hc => h₁ (List.mem_cons_of_mem a hc))
      (fun hc => h₂ (List.mem_cons_of_mem b hc)) h
    exact ⟨by rw [hab, hl], hr⟩

theorem operationSeries_inj {backend o s o' s' : String} (ho : '"' ∉ o.toList) (ho' : '"' ∉ o'.toList)
    (h : operationSeries backend o s = operationSeries backend o' s') : o = o' ∧ s = s' := by
  have hl := congrArg String.toList h
  simp only [operationSeries, Metrics.series, List.isEmpty_cons, Bool.false_eq_true, if_false, List.map_cons,
    List.map_nil, String.intercalate_cons_cons, String.intercalate_singleton, String.toList_append,
    List.append_assoc, List.append_cancel_left_eq] at hl
  have hquote : "\"".toList = ['"'] := rfl
  rw [hquote, List.singleton_append, List.singleton_append] at hl
  obtain ⟨hname, hrest⟩ := eq_of_append_cons_eq ho ho' hl
  simp only [List.append_eq, List.nil_append, List.append_cancel_left_eq, List.append_cancel_right_eq] at hrest
  exact ⟨String.toList_inj.mp hname, String.toList_inj.mp hrest⟩

end Series

/-- What a run of store calls should record: the operations counted, each with its status,
the counts `clear_expired` returned, and the events published, each in order. -/
structure Record where
  operations : List (String × String) := []
  reaped : List Nat := []
  events : List StoreEvent := []

namespace Record

instance : Append Record := ⟨fun a b => ⟨a.operations ++ b.operations, a.reaped ++ b.reaped, a.events ++ b.events⟩⟩

@[simp] theorem operations_append (a b : Record) : (a ++ b).operations = a.operations ++ b.operations := rfl
@[simp] theorem reaped_append (a b : Record) : (a ++ b).reaped = a.reaped ++ b.reaped := rfl
@[simp] theorem events_append (a b : Record) : (a ++ b).events = a.events ++ b.events := rfl

def adds (R : Record) (backend key : String) : Nat :=
  R.operations.countP (fun p => operationSeries backend p.1 p.2 == key) +
    if key = reapedSeries backend then R.reaped.sum else 0

@[simp] theorem adds_append (a b : Record) (backend key : String) :
    (a ++ b).adds backend key = a.adds backend key + b.adds backend key := by
  unfold adds
  simp only [operations_append, reaped_append, List.countP_append, List.sum_append]
  split <;> omega

@[simp] theorem empty_append (R : Record) : {} ++ R = R := rfl

@[simp] theorem append_empty (R : Record) : R ++ {} = R := by
  show (⟨R.operations ++ [], R.reaped ++ [], R.events ++ []⟩ : Record) = R
  simp only [List.append_nil]

@[simp] theorem adds_empty (backend key : String) : ({} : Record).adds backend key = 0 := by
  simp [adds]

end Record

def publishAll (bus : EventBus) (events : List StoreEvent) : EventBus := events.foldl (fun b e => (b.publish e).1) bus

/-- From `x` to `x'` the store recorded `R`: with metrics on, each counter its calls account
for grew by what `R` adds to it, and the bus took the events of `R`, in order. -/
structure Accounted (backend : String) (R : Record) (x x' : World × Store) : Prop where
  enabled : x'.1.metrics.enabled = x.1.metrics.enabled
  tally : x.1.metrics.enabled = true → ∀ key, Tallied backend key →
    x'.1.metrics.value key = x.1.metrics.value key + R.adds backend key
  bus : x'.2.bus = publishAll x.2.bus R.events

namespace Accounted

variable {backend : String} {R R₁ R₂ : Record} {x x' x₁ x₂ : World × Store}

theorem of_eq (hm : x'.1.metrics = x.1.metrics) (hb : x'.2.bus = x.2.bus) : Accounted backend {} x x' where
  enabled := by rw [hm]
  tally _ key _ := by rw [hm, Record.adds_empty, Nat.add_zero]
  bus := hb

@[refl] theorem refl (backend : String) (x : World × Store) : Accounted backend {} x x := of_eq rfl rfl

theorem trans (h₁ : Accounted backend R₁ x x₁) (h₂ : Accounted backend R₂ x₁ x₂) :
    Accounted backend (R₁ ++ R₂) x x₂ where
  enabled := h₂.enabled.trans h₁.enabled
  tally hm key hkey := by
    rw [h₂.tally (h₁.enabled.trans hm) key hkey, h₁.tally hm key hkey, Record.adds_append, Nat.add_assoc]
  bus := by rw [h₂.bus, h₁.bus, Record.events_append, publishAll, publishAll, publishAll, List.foldl_append]

end Accounted

theorem operationSeries_ne_reapedSeries (backend o s : String) : operationSeries backend o s ≠ reapedSeries backend :=
  series_ne_of_take _ _ (k := 9) (by decide) (by decide) (by decide)

namespace Accounted

variable {backend : String} {R : Record} {x x₁ x₂ : World × Store}

theorem add_other (h : Accounted backend R x x₁) {name : String} (labels : List (String × String)) (n : Nat)
    (hname : name = "store_events_published_total" ∨ name = "store_events_dropped_total" ∨
      name = "storage_pools_closed_total")
    (hm : x₂.1.metrics = x₁.1.metrics.add name labels n) (hb : x₂.2.bus = x₁.2.bus) : Accounted backend R x x₂ where
  enabled := by rw [hm, Metrics.enabled_add]; exact h.enabled
  tally hon key hkey := by
    rw [hm, Metrics.value_add_other (hkey.ne_series hname labels)]
    exact h.tally hon key hkey
  bus := hb ▸ h.bus

theorem of_same (h : Accounted backend R x x₁) (hm : x₂.1.metrics = x₁.1.metrics) (hb : x₂.2.bus = x₁.2.bus) :
    Accounted backend R x x₂ where
  enabled := hm ▸ h.enabled
  tally := hm ▸ h.tally
  bus := hb ▸ h.bus

end Accounted

/-- Run from `x`, the action ends with `r` and records `R`. -/
structure Reports {α : Type} (backend : String) (a : StoreAct α) (x : World × Store) (r : Except Error α)
    (R : Record) : Prop where
  result : (a.run x).1 = r
  accounted : Accounted backend R x (a.run x).2

def Quiet {α : Type} (backend : String) (a : StoreAct α) : Prop := ∀ x, Accounted backend {} x (a.run x).2

namespace Reports

open StoreAct

variable {α β : Type} {backend : String} {a : StoreAct α} {x : World × Store} {r : Except Error α} {R R₁ R₂ : Record}

theorem of_run {x' : World × Store} (h : a.run x = (r, x')) (hx : Accounted backend R x x') :
    Reports backend a x r R :=
  ⟨by rw [h], by rw [h]; exact hx⟩

theorem congr_record (h : Reports backend a x r R₁) (hR : R₁ = R₂) : Reports backend a x r R₂ := hR ▸ h

theorem of_quiet (h : Quiet backend a) (x : World × Store) : Reports backend a x (a.run x).1 {} := ⟨rfl, h x⟩

theorem pure (v : α) (x : World × Store) : Reports backend (Pure.pure v : StoreAct α) x (.ok v) {} :=
  of_run rfl (.refl _ _)

theorem throw (e : Error) (x : World × Store) : Reports backend (MonadExcept.throw e : StoreAct α) x (.error e) {} :=
  of_run rfl (.refl _ _)

theorem bind {f : α → StoreAct β} {v : α} {r' : Except Error β} (ha : Reports backend a x (.ok v) R₁)
    (hf : Reports backend (f v) (a.run x).2 r' R₂) : Reports backend (a >>= f) x r' (R₁ ++ R₂) := by
  have hrun : a.run x = (.ok v, (a.run x).2) := Prod.ext ha.result rfl
  constructor
  · rw [run_bind, hrun]
    exact hf.result
  · rw [run_bind, hrun]
    exact ha.accounted.trans hf.accounted

theorem bind_empty {f : α → StoreAct β} {v : α} {r' : Except Error β} (ha : Reports backend a x (.ok v) {})
    (hf : Reports backend (f v) (a.run x).2 r' R) : Reports backend (a >>= f) x r' R :=
  bind ha hf

theorem bind_error {f : α → StoreAct β} {e : Error} (ha : Reports backend a x (.error e) R) :
    Reports backend (a >>= f) x (.error e) R := by
  have hrun : a.run x = (.error e, (a.run x).2) := Prod.ext ha.result rfl
  constructor
  · rw [run_bind, hrun]
  · rw [run_bind, hrun]
    exact ha.accounted

theorem attempt (ha : Reports backend a x r R) : Reports backend a.attempt x (.ok r) R :=
  ⟨by rw [run_attempt, ha.result], by rw [run_attempt]; exact ha.accounted⟩

theorem bind_same {f : α → StoreAct β} {v : α} {r' : Except Error β} (ha : a.run x = (.ok v, x))
    (hf : Reports backend (f v) x r' R) : Reports backend (a >>= f) x r' R :=
  bind (of_run ha (.refl _ _)) (by rw [ha]; exact hf)

theorem store_bind {f : Store → StoreAct β} {r : Except Error β} (hf : Reports backend (f x.2) x r R) :
    Reports backend (store >>= f) x r R :=
  bind_same (run_store x) hf

theorem world_bind {f : World → StoreAct β} {r : Except Error β} (hf : Reports backend (f x.1) x r R) :
    Reports backend (world >>= f) x r R :=
  bind_same (run_world x) hf

theorem lift {a : Act α} (ha : Act.KeepsMetrics a) (backend : String) (x : World × Store) :
    Reports backend (StoreAct.lift a) x (a.run x.1).1 {} :=
  of_run (run_lift a x) (.of_eq (ha x.1) rfl)

theorem log (level : LogLevel) (target message : String) (fields : List String) (span : Option LogSpan)
    (backend : String) (x : World × Store) :
    Reports backend (StoreAct.lift (Act.log level target message fields span)) x (.ok ()) {} :=
  lift (Act.Keeps.log _ _ _ _ _ World.metrics_record) backend x

theorem modifyStore {f : Store → Store} (hbus : (f x.2).bus = x.2.bus) :
    Reports backend (StoreAct.modifyStore f) x (.ok ()) {} :=
  of_run (run_modifyStore f x) (.of_eq rfl hbus)

theorem countOperation (backend o s : String) (x : World × Store) :
    Reports backend (StoreAct.lift (Act.countOperation backend o s)) x (.ok ()) { operations := [(o, s)] } := by
  refine of_run (run_lift _ x) ⟨Metrics.enabled_add, fun hm key _ => ?_, rfl⟩
  show (x.1.metrics.add _ _ 1).value key = _
  unfold Record.adds
  simp only [List.countP_cons, List.countP_nil, List.sum_nil, ite_self, Nat.zero_add, Nat.add_zero]
  by_cases hkey : operationSeries backend o s = key
  · subst hkey
    rw [operationSeries, Metrics.value_add_self hm]
    simp
  · rw [Metrics.value_add_other (Ne.symm hkey)]
    simp [hkey]

theorem countReaped (backend : String) (n : Nat) (x : World × Store) :
    Reports backend (StoreAct.lift (Act.count "storage_entries_reaped_total" [("backend", backend)] n)) x (.ok ())
      { reaped := [n] } := by
  refine of_run (run_lift _ x) ⟨Metrics.enabled_add, fun hm key _ => ?_, rfl⟩
  show (x.1.metrics.add _ _ n).value key = _
  unfold Record.adds
  simp only [List.countP_nil, Nat.zero_add, List.sum_cons, List.sum_nil, Nat.add_zero]
  by_cases hkey : key = reapedSeries backend
  · subst hkey
    rw [if_pos rfl]
    exact Metrics.value_add_self hm
  · rw [if_neg hkey, Metrics.value_add_other hkey, Nat.add_zero]

theorem publish (backend : String) (e : StoreEvent) (x : World × Store) :
    Reports backend (Store.publish e) x (.ok ()) { events := [e] } := by
  have delivered : Accounted backend { events := [e] } x (x.1, { x.2 with bus := (x.2.bus.publish e).1 }) :=
    ⟨rfl, fun _ key _ => by simp [Record.adds], rfl⟩
  have published : Accounted backend { events := [e] } x
      ({ x.1 with metrics := x.1.metrics.add "store_events_published_total" [("event", e.typeName)] 1 },
        { x.2 with bus := (x.2.bus.publish e).1 }) :=
    delivered.add_other _ 1 (.inl rfl) rfl rfl
  -- an event nobody listens to is counted as dropped as well
  cases hd : (x.2.bus.publish e).2
  · apply of_run
    · simp only [Store.publish, StoreAct.run_bind, run_store, run_modifyStore, run_lift, Act.run_count, hd]
      rfl
    · exact published.add_other [] 1 (.inr (.inl rfl)) rfl rfl
  · refine of_run ?_ published
    simp only [Store.publish, StoreAct.run_bind, run_store, run_modifyStore, run_lift, Act.run_count, hd]
    rfl

end Reports

namespace Quiet

open StoreAct

variable {α β : Type} {backend : String} {a : StoreAct α}

theorem pure (v : α) : Quiet backend (Pure.pure v : StoreAct α) := fun _ => .refl _ _

theorem throw (e : Error) : Quiet backend (MonadExcept.throw e : StoreAct α) := fun _ => .refl _ _

theorem throw_bind (e : Error) (f : α → StoreAct β) : Quiet backend ((MonadExcept.throw e : StoreAct α) >>= f) :=
  fun _ => .refl _ _

theorem bind {f : α → StoreAct β} (ha : Quiet backend a) (hf : ∀ v, Quiet backend (f v)) :
    Quiet backend (a >>= f) := by
  intro x
  rw [run_bind]
  rcases hrun : a.run x with ⟨_ | v, x₁⟩
  · have h := ha x
    rw [hrun] at h
    exact h
  · have h := ha x
    rw [hrun] at h
    exact h.trans (hf v x₁)

theorem lift {a : Act α} (ha : Act.KeepsMetrics a) : Quiet backend (StoreAct.lift a) :=
  fun x => (Reports.lift ha backend x).accounted

theorem get_bind {f : World × Store → StoreAct β} (hf : ∀ y, Quiet backend (f y)) :
    Quiet backend (MonadState.get >>= f) :=
  fun x => hf x x

theorem attempt (ha : Quiet backend a) : Quiet backend a.attempt := fun x => by
  rw [run_attempt]
  exact ha x

theorem modifyStore {f : Store → Store} (hbus : ∀ s, (f s).bus = s.bus) : Quiet backend (StoreAct.modifyStore f) :=
  fun x => (Reports.modifyStore (hbus x.2)).accounted

end Quiet

section Bootstrap

open StoreAct

variable {backend : String}

theorem quiet_setClearExpiredInterval (interval : Option Nat) (inRuntime : Bool) :
    Quiet backend (setClearExpiredInterval interval inRuntime) := by
  unfold setClearExpiredInterval
  refine Quiet.bind (Quiet.modifyStore fun _ => rfl) fun _ => ?_
  split
  · exact Quiet.pure _
  · exact Quiet.pure _
  · refine Quiet.get_bind fun y => ?_
    dsimp only
    split
    · exact Quiet.throw_bind _ _
    · split
      · exact Quiet.bind (Quiet.modifyStore fun _ => rfl) fun _ =>
          Quiet.lift (Act.Keeps.log _ _ _ _ _ World.metrics_record)
      · exact Quiet.throw_bind _ _

/-- What a bootstrap with outcome `r` records: the bootstrap counted with its status, and
its event. -/
def bootRecord (backend table : String) (r : Except Error Unit) : Record where
  operations := [("bootstrap", statusOf r)]
  events := [match r with
    | .ok () => .bootstrapped backend table
    | .error e => .error backend "bootstrap" e.message]

theorem runBootstrap_reports (x : World × Store) :
    Reports x.2.backend.name runBootstrap x (.ok ((x.2.backend.bootstrap.run x.1).1.mapError Error.message))
      (bootRecord x.2.backend.name x.2.backend.table (x.2.backend.bootstrap.run x.1).1) := by
  have hcall := Reports.lift (Backend.keeps_bootstrap World.metricsFrame x.2.backend) x.2.backend.name x
  unfold runBootstrap
  cases hr : (x.2.backend.bootstrap.run x.1).1 with
  | ok u =>
    rw [hr] at hcall
    refine Reports.congr_record (Reports.store_bind (hcall.attempt.bind_empty ((Reports.countOperation _ _ _ _).bind
      ((Reports.log _ _ _ _ _ _ _).bind_empty ((Reports.publish _ _ _).bind (show Reports _ _ _ _ {} from ?_)))))) rfl
    -- a reaper that cannot start is only logged
    split
    · dsimp only
      refine (Reports.of_quiet (quiet_setClearExpiredInterval _ _) _).attempt.bind_empty ?_
      split
      · exact (Reports.log _ _ _ _ _ _ _).bind_empty (Reports.pure _ _)
      · exact Reports.pure _ _
    · exact Reports.pure _ _
  | error e =>
    rw [hr] at hcall
    exact Reports.congr_record (Reports.store_bind (hcall.attempt.bind_empty ((Reports.countOperation _ _ _ _).bind
      ((Reports.log _ _ _ _ _ _ _).bind_empty ((Reports.publish _ _ _).bind (Reports.pure _ _)))))) rfl

end Bootstrap

section Gate

open StoreAct

def readyRecord (x : World × Store) : Record :=
  if x.2.bootstrapped.isNone then bootRecord x.2.backend.name x.2.backend.table (x.2.backend.bootstrap.run x.1).1
  else {}

/-- What the gate records: the bootstrap, when the store is open and nothing is cached. -/
def gateRecord (x : World × Store) : Record := if isClosed x.1 x.2 then {} else readyRecord x

theorem ready_accounted (x : World × Store) : Accounted x.2.backend.name (readyRecord x) x (ready.run x).2 := by
  cases h : x.2.bootstrapped with
  | some r =>
    simp only [ready_of_cached h, readyRecord, h, Option.isNone_some, Bool.false_eq_true, if_false]
    exact .refl _ _
  | none =>
    have hb := runBootstrap_reports x
    simp only [ready_of_empty h (Prod.ext hb.result rfl), readyRecord, h, Option.isNone_none, if_true]
    exact hb.accounted.of_same rfl rfl

theorem gate_accounted (x : World × Store) : Accounted x.2.backend.name (gateRecord x) x (gate.run x).2 := by
  cases hc : isClosed x.1 x.2
  · simp only [gateRecord, hc, Bool.false_eq_true, if_false, gate, StoreAct.run_bind, ensureOpen_run]
    have ha := ready_accounted x
    -- the store is checked again after waiting, which records nothing
    rcases hr : ready.run x with ⟨_ | _, x₁⟩
    · rw [hr] at ha
      exact ha
    · rw [hr] at ha
      exact ha
  · simp only [gateRecord, hc, if_true, gate_of_closed hc]
    exact .refl _ _

variable {α : Type} (operation : String) (call : Backend → Act α)

theorem invoke_reports (hcall : ∀ b, Act.KeepsMetrics (call b)) (x : World × Store) :
    Reports x.2.backend.name (invoke operation call) x ((call x.2.backend).run x.1).1
      { operations := [(operation, statusOf ((call x.2.backend).run x.1).1)] } := by
  have hc := Reports.lift (hcall x.2.backend) x.2.backend.name x
  unfold invoke
  cases hr : ((call x.2.backend).run x.1).1 with
  | ok v =>
    rw [hr] at hc
    exact Reports.congr_record (Reports.store_bind (hc.attempt.bind_empty
      ((Reports.countOperation _ _ _ _).bind (Reports.pure _ _)))) rfl
  | error e =>
    rw [hr] at hc
    exact Reports.congr_record (Reports.store_bind (hc.attempt.bind_empty
      ((Reports.countOperation _ _ _ _).bind ((Reports.log _ _ _ _ _ _ _).bind_empty (Reports.throw _ _))))) rfl

/-- What a gated call records: the gate's record, and the call with its status when it
passed the gate. -/
def runRecord (x : World × Store) (status : String) : Record :=
  gateRecord x ++ if (gate.run x).1.toBool then { operations := [(operation, status)] } else {}

theorem run_reports (hcall : ∀ b, Act.KeepsMetrics (call b)) (x : World × Store) :
    Reports x.2.backend.name (run operation call) x ((run operation call).run x).1
      (runRecord operation x (statusOf ((run operation call).run x).1)) := by
  refine ⟨rfl, ?_⟩
  have hg := gate_accounted x
  rcases run_cases operation call x with ⟨e, x₁, hgate, hrun⟩ | ⟨x₁, hgate, -, -, hrun⟩
  · rw [hgate] at hg
    simp only [runRecord, hgate, hrun, Except.toBool, Bool.false_eq_true, if_false, Record.append_empty]
    exact hg
  · rw [hgate] at hg
    have hb : x₁.2.backend = x.2.backend := by
      have h := (gate_advances x).backend
      rw [hgate] at h
      exact h
    have hi := invoke_reports operation call hcall x₁
    rw [hb] at hi
    simp only [runRecord, hgate, hrun, Except.toBool, if_true, hi.result]
    exact hg.trans hi.accounted

end Gate

section Requests

open StoreAct

variable {x : World × Store}

theorem ensureOpen_of_open (hopen : isClosed x.1 x.2 = false) : ensureOpen.run x = (.ok (), x) := by
  rw [ensureOpen_run, hopen]
  rfl

theorem statusOf_map {α β : Type} (g : α → β) (r : Except Error α) : statusOf (r.map g) = statusOf r := by
  cases r <;> rfl

namespace Reports

variable {α β : Type} {backend : String} {a : StoreAct α} {x : World × Store} {r : Except Error α} {R : Record}

theorem bind_map {f : α → StoreAct β} (g : α → β) (ha : Reports backend a x r R)
    (hf : ∀ v, r = .ok v → Reports backend (f v) (a.run x).2 (.ok (g v)) {}) :
    Reports backend (a >>= f) x (r.map g) R := by
  cases r with
  | ok v => exact congr_record (ha.bind (hf v rfl)) (Record.append_empty R)
  | error e => exact ha.bind_error

theorem map_pure (g : α → β) (ha : Reports backend a x r R) :
    Reports backend (a >>= fun v => Pure.pure (g v)) x (r.map g) R :=
  bind_map g ha fun v _ => pure (g v) _

/-- A call that reads the store, runs one backend call and answers from what it gave
records what the run records: the read and the answer add nothing. -/
theorem store_run {γ : Type} {operation : String} {call : Store → Backend → Act γ} {g : Store → γ → α}
    (hcall : ∀ b, Act.KeepsMetrics (call x.2 b)) :
    Reports x.2.backend.name (store >>= fun s => run operation (call s) >>= fun v => Pure.pure (g s v)) x
      (((run operation (call x.2)).run x).1.map (g x.2))
      (runRecord operation x (statusOf ((run operation (call x.2)).run x).1)) :=
  store_bind ((run_reports operation (call x.2) hcall x).map_pure (g x.2))

theorem discard (ha : Reports backend a x r R) : Reports backend (Functor.discard a) x (r.map fun _ => ()) R := by
  have hrun : a.run x = (r, (a.run x).2) := Prod.ext ha.result rfl
  cases r with
  | ok v => exact of_run (by rw [run_discard, hrun]; rfl) ha.accounted
  | error e => exact of_run (by rw [run_discard, hrun]; rfl) ha.accounted

end Reports

theorem accounted_of_reports {α β : Type} {a : StoreAct α} {operation : String} {x : World × Store}
    {r : Except Error α} {r₀ : Except Error β}
    (h : Reports x.2.backend.name a x r (runRecord operation x (statusOf r₀))) (hs : statusOf r = statusOf r₀) :
    Accounted x.2.backend.name (runRecord operation x (statusOf (a.run x).1)) x (a.run x).2 := by
  rw [h.result, hs]
  exact h.accounted

/-- What `clear_expired` records beyond its count: what it removed, and an event when it
removed anything. -/
def reapRecord (backend : String) : Except Error Nat → Record
  | .ok n => { reaped := [n], events := if 0 < n then [.reaped backend n] else [] }
  | .error _ => {}

theorem clearExpired_of_closed (h : isClosed x.1 x.2 = true) : clearExpired.run x = (.error .disconnected, x) := by
  simp only [clearExpired, StoreAct.run_bind, run_world, run_of_closed _ _ h]

def clearExpiredRecord (x : World × Store) : Record :=
  runRecord "clear_expired" x (statusOf (clearExpired.run x).1) ++ reapRecord x.2.backend.name (clearExpired.run x).1

theorem clearExpired_accounted (x : World × Store) :
    Accounted x.2.backend.name (clearExpiredRecord x) x (clearExpired.run x).2 := by
  have hrun := run_reports "clear_expired" (fun b => b.clearExpired x.1.nowMillis)
    (fun b => b.keeps_clearExpired World.metricsFrame _) x
  have hb : ((run "clear_expired" (fun b => b.clearExpired x.1.nowMillis)).run x).2.2.backend = x.2.backend :=
    (run_advances _ _ x).backend
  cases hr : ((run "clear_expired" (fun b => b.clearExpired x.1.nowMillis)).run x).1 with
  | error e =>
    rw [hr] at hrun
    have h : Reports x.2.backend.name clearExpired x (.error e) (runRecord "clear_expired" x "error") := by
      unfold clearExpired
      exact Reports.world_bind hrun.bind_error
    rw [clearExpiredRecord, h.result, reapRecord, Record.append_empty]
    exact h.accounted
  | ok n =>
    rw [hr] at hrun
    have h : Reports x.2.backend.name clearExpired x (.ok n)
        (runRecord "clear_expired" x "success" ++ reapRecord x.2.backend.name (.ok n)) := by
      unfold clearExpired
      refine Reports.world_bind (hrun.bind (Reports.store_bind ?_))
      dsimp only
      rw [hb]
      -- the sweep is logged and published only when it removed something
      by_cases hn : 0 < n
      · simp only [gt_iff_lt, hn, if_true]
        exact Reports.congr_record ((Reports.countReaped _ _ _).bind ((Reports.log _ _ _ _ _ _ _).bind_empty
          ((Reports.publish _ _ _).bind (Reports.pure _ _)))) (by simp only [reapRecord, hn, if_true]; rfl)
      · simp only [gt_iff_lt, hn, if_false]
        exact Reports.congr_record ((Reports.countReaped _ _ _).bind (Reports.pure _ _)) (by simp only [reapRecord, hn, if_false]; rfl)
    rw [clearExpiredRecord, h.result]
    exact h.accounted

namespace Request

def operation : Request → String
  | .get _ => "get"
  | .getMany _ => "get_many"
  | .set _ _ => "set"
  | .setMany _ => "set_many"
  | .delete _ => "delete"
  | .deleteMany _ => "delete_many"
  | .has _ => "has"
  | .hasMany _ => "has_many"
  | .clear => "clear"
  | .clearExpired => "clear_expired"
  | .clearUnusedFor _ => "clear_unused"
  | .fetchPage _ _ => "iterate"

/-- What a call records: nothing when it does not reach the gate; else the gate's record
and, when it passed, the call counted with its answer's status; `clear_expired` adds what
it removed. -/
def record (o : Request) (x : World × Store) : Record :=
  match o with
  | .clearExpired => clearExpiredRecord x
  | _ => if o.gated then runRecord o.operation x (statusOf (o.perform.run x).1) else {}

theorem record_of_closed (h : isClosed x.1 x.2 = true) (o : Request) : o.record x = {} := by
  cases o <;> simp only [record, ite_self, clearExpiredRecord, runRecord, gateRecord, h, if_true, gate_of_closed h,
    Except.toBool, Bool.false_eq_true, if_false, Record.append_empty, clearExpired_of_closed h, reapRecord]

theorem keepsMetrics_clearUnused (maxAge : Nat) (b : Backend) :
    Act.KeepsMetrics (match b with
      | .bucket l => l.clearUnusedFor maxAge
      | _ => throw (.invalidInput "clear_unused_for requires the bucket layout")) := by
  cases b with
  | bucket l => exact Bucket.Layout.keeps_clearUnusedFor World.metricsFrame l maxAge
  | sqlite | postgres => exact Act.Keeps.throw _

theorem perform_accounted (o : Request) (x : World × Store) :
    Accounted x.2.backend.name (o.record x) x (o.perform.run x).2 := by
  cases hc : isClosed x.1 x.2
  case true =>
    rw [record_of_closed hc, perform_of_closed hc]
  have hopen := ensureOpen_of_open hc
  -- each call reads the store, runs one backend call that keeps the metrics, and maps its
  -- answer; a batch call first finds the store open and its list not empty
  cases o with
  | get key =>
    simp only [record, gated, operation, if_true]
    have reported : Reports x.2.backend.name (get key).perform x _ _ :=
      (Reports.store_run fun b => b.keeps_getMany World.metricsFrame _ _).map_pure _
    exact accounted_of_reports reported (by simp only [statusOf_map])
  | getMany keys =>
    cases keys with
    | nil =>
      rw [(perform_of_empty hc).1]
      exact .refl _ _
    | cons k ks =>
      simp only [record, gated, operation, List.isEmpty_cons, Bool.not_false, if_true]
      have reported : Reports x.2.backend.name (getMany (k :: ks)).perform x _ _ :=
        (Reports.bind_same hopen (Reports.store_run fun b => b.keeps_getMany World.metricsFrame _ _)).map_pure _
      exact accounted_of_reports reported (by simp only [statusOf_map])
  | set key value =>
    simp only [record, gated, operation, if_true]
    have reported : Reports x.2.backend.name (set key value).perform x _ _ :=
      (Reports.store_bind (run_reports _ _ (fun b => b.keeps_upsertMany World.metricsFrame _ _) x)).map_pure _
    exact accounted_of_reports reported (by simp only [statusOf_map])
  | setMany entries =>
    cases entries with
    | nil =>
      rw [(perform_of_empty hc).2.2.2]
      exact .refl _ _
    | cons e es =>
      simp only [record, gated, operation, List.isEmpty_cons, Bool.not_false, if_true]
      have reported : Reports x.2.backend.name (setMany (e :: es)).perform x _ _ :=
        (Reports.bind_same hopen (Reports.store_bind
          (run_reports _ _ (fun b => b.keeps_upsertMany World.metricsFrame _ _) x))).map_pure _
      exact accounted_of_reports reported (by simp only [statusOf_map])
  | delete key =>
    simp only [record, gated, operation, if_true]
    have reported : Reports x.2.backend.name (delete key).perform x _ _ :=
      (Reports.store_bind (run_reports _ _ (fun b => b.keeps_delete World.metricsFrame _ _) x)).map_pure _
    exact accounted_of_reports reported (by simp only [statusOf_map])
  | deleteMany keys =>
    cases keys with
    | nil =>
      rw [(perform_of_empty hc).2.2.1]
      exact .refl _ _
    | cons k ks =>
      simp only [record, gated, operation, List.isEmpty_cons, Bool.not_false, if_true]
      have reported : Reports x.2.backend.name (deleteMany (k :: ks)).perform x _ _ :=
        (Reports.bind_same hopen (Reports.store_run fun b => b.keeps_deleteMany World.metricsFrame _ _)).map_pure _
      exact accounted_of_reports reported (by simp only [statusOf_map])
  | has key =>
    simp only [record, gated, operation, if_true]
    have reported : Reports x.2.backend.name (has key).perform x _ _ :=
      (Reports.store_run fun b => b.keeps_hasMany World.metricsFrame _ _).map_pure _
    exact accounted_of_reports reported (by simp only [statusOf_map])
  | hasMany keys =>
    cases keys with
    | nil =>
      rw [(perform_of_empty hc).2.1]
      exact .refl _ _
    | cons k ks =>
      simp only [record, gated, operation, List.isEmpty_cons, Bool.not_false, if_true]
      have reported : Reports x.2.backend.name (hasMany (k :: ks)).perform x _ _ :=
        (Reports.bind_same hopen (Reports.store_run fun b => b.keeps_hasMany World.metricsFrame _ _)).map_pure _
      exact accounted_of_reports reported (by simp only [statusOf_map])
  | clear =>
    simp only [record, gated, operation, if_true]
    -- the namespace's clearing is discarded, and the log line after it records nothing
    have cleared := run_reports "clear" _ (fun b => b.keeps_clearNamespace World.metricsFrame x.2.ns.name) x
    have reported : Reports x.2.backend.name clear.perform x _ _ :=
      (Reports.store_bind (cleared.discard.bind_map (fun _ => ()) fun _ _ => Reports.log _ _ _ _ _ _ _)).map_pure _
    exact accounted_of_reports reported (by simp only [statusOf_map])
  | clearExpired => exact (Reports.map_pure _ ⟨rfl, clearExpired_accounted x⟩).accounted
  | clearUnusedFor maxAge =>
    simp only [record, gated, operation, if_true]
    have reported : Reports x.2.backend.name (clearUnusedFor maxAge).perform x _ _ :=
      (run_reports _ _ (keepsMetrics_clearUnused maxAge) x).map_pure _
    exact accounted_of_reports reported (by simp only [statusOf_map])
  | fetchPage cursor limit =>
    simp only [record, gated, operation, if_true]
    have reported : Reports x.2.backend.name (fetchPage cursor limit).perform x _ _ :=
      (Reports.store_run fun b => b.keeps_page World.metricsFrame _ _ _).map_pure _
    exact accounted_of_reports reported (by simp only [statusOf_map])

end Request

end Requests

section Sweep

open StoreAct

theorem accounted_release (backend : String) (x : World × Store) (key : PoolKey) :
    Accounted backend {} x (x.1.release key, x.2) := by
  unfold World.release
  split
  · exact .refl _ _
  · dsimp only
    split
    · exact .of_eq rfl rfl
    · exact (Accounted.refl backend x).add_other _ 1 (.inr (.inr rfl)) rfl rfl

/-- What a sweep records beyond its `clear_expired`: the error of a failed sweep, unless the
store was disconnected. -/
def sweepError (backend : String) : Except Error Nat → Record
  | .error .disconnected => {}
  | .error e => { events := [.error backend "clear_expired" e.message] }
  | .ok _ => {}

def sweepRecord (x : World × Store) : Record :=
  if isClosed x.1 x.2 then {} else clearExpiredRecord x ++ sweepError x.2.backend.name (clearExpired.run x).1

theorem sweep_accounted (x : World × Store) : Accounted x.2.backend.name (sweepRecord x) x (sweep.run x).2 := by
  cases hc : isClosed x.1 x.2
  case true =>
    have hrun : sweep.run x = (.ok false, x) := by
      simp only [sweep, StoreAct.run_bind, run_store, run_world, hc, if_true]
      rfl
    rw [sweepRecord, hc, hrun]
    exact .refl _ _
  simp only [sweepRecord, hc, Bool.false_eq_true, if_false]
  have hce : Reports x.2.backend.name clearExpired x (clearExpired.run x).1 (clearExpiredRecord x) :=
    ⟨rfl, clearExpired_accounted x⟩
  suffices h : ∃ r, Reports x.2.backend.name sweep x r
      (clearExpiredRecord x ++ sweepError x.2.backend.name (clearExpired.run x).1) by
    obtain ⟨_, h⟩ := h
    exact h.accounted
  unfold sweep
  generalize (clearExpired.run x).1 = c at hce ⊢
  -- the sweep's outcome decides what it answers and whether an error is published
  rcases c with (_ | _ | _ | _ | _) | n
  all_goals
    refine ⟨_, Reports.store_bind (Reports.world_bind (by
      simp only [hc, Bool.false_eq_true, if_false]
      apply Reports.bind hce.attempt
      first
        | exact Reports.pure _ _
        | exact Reports.congr_record ((Reports.publish _ _ _).bind (Reports.pure _ _)) (Record.append_empty _)))⟩

def disconnectRecord (x : World × Store) : Record :=
  if x.2.closed then {} else { events := [.disconnected x.2.backend.name] }

theorem disconnect_accounted (x : World × Store) :
    Accounted x.2.backend.name (disconnectRecord x) x (disconnect.run x).2 := by
  cases hc : x.2.closed
  case true =>
    rw [disconnectRecord, hc, disconnect_of_closed hc]
    exact .refl _ _
  simp only [disconnectRecord, hc, Bool.false_eq_true, if_false]
  unfold disconnect
  apply Reports.accounted
  apply Reports.store_bind
  simp only [hc, Bool.false_eq_true, if_false]
  apply (Reports.modifyStore rfl).bind_empty
  apply Reports.world_bind
  apply (Reports.of_run (run_modify _ _) (accounted_release _ _ _)).bind_empty
  exact (Reports.log _ _ _ _ _ _ _).bind_empty (Reports.publish _ _ _)

theorem sweep_advances (x : World × Store) : sweep.Advances x := by
  unfold sweep
  refine advances_store_bind (advances_world_bind ?_)
  split
  · exact advances_pure _ _
  · refine (clearExpired_advances x).attempt_succeeds.advances.bind fun _ _ _ => ?_
    split
    · exact advances_pure _ _
    · exact advances_pure _ _
    · exact (publish_succeeds _ _).advances.bind fun _ _ _ => advances_pure _ _

end Sweep

section Runs

inductive Step where
  | call (o : Request)
  | ready
  | sweep
  | disconnect
  | setReaper (interval : Option Nat) (inRuntime : Bool)

namespace Step

def next : Step → World × Store → World × Store
  | .call o, x => (o.perform.run x).2
  | .ready, x => (Store.ready.run x).2
  | .sweep, x => (Store.sweep.run x).2
  | .disconnect, x => (Store.disconnect.run x).2
  | .setReaper interval inRuntime, x => ((setClearExpiredInterval interval inRuntime).run x).2

def record : Step → World × Store → Record
  | .call o, x => o.record x
  | .ready, x => readyRecord x
  | .sweep, x => sweepRecord x
  | .disconnect, x => disconnectRecord x
  | .setReaper _ _, _ => {}

theorem later (st : Step) (x : World × Store) : x.2.Later (st.next x).2 := by
  cases st with
  | call o => exact o.perform_advances x
  | ready => exact ready_advances x
  | sweep => exact sweep_advances x
  | disconnect => exact disconnect_advances x
  | setReaper interval inRuntime => exact setClearExpiredInterval_advances interval inRuntime x

theorem accounted (st : Step) (x : World × Store) : Accounted x.2.backend.name (st.record x) x (st.next x) := by
  cases st with
  | call o => exact o.perform_accounted x
  | ready => exact ready_accounted x
  | sweep => exact sweep_accounted x
  | disconnect => exact disconnect_accounted x
  | setReaper interval inRuntime => exact quiet_setClearExpiredInterval interval inRuntime x

end Step

def runAll (steps : List Step) (x : World × Store) : World × Store := steps.foldl (fun x st => st.next x) x

def recordAll : List Step → World × Store → Record
  | [], _ => {}
  | st :: steps, x => st.record x ++ recordAll steps (st.next x)

theorem replay_accounted (steps : List Step) (x : World × Store) :
    Accounted x.2.backend.name (recordAll steps x) x (runAll steps x) := by
  induction steps generalizing x with
  | nil => exact .refl _ _
  | cons st steps ih =>
    have h := ih (st.next x)
    rw [(st.later x).backend] at h
    exact (st.accounted x).trans h

end Runs

section Once

open StoreAct

namespace Record

def bootstraps (R : Record) : Nat := R.operations.countP (·.1 == "bootstrap")

def disconnects (R : Record) : Nat := R.events.countP fun e => e matches .disconnected _

@[simp] theorem bootstraps_append (a b : Record) : (a ++ b).bootstraps = a.bootstraps + b.bootstraps :=
  List.countP_append

@[simp] theorem disconnects_append (a b : Record) : (a ++ b).disconnects = a.disconnects + b.disconnects :=
  List.countP_append

@[simp] theorem bootstraps_empty : ({} : Record).bootstraps = 0 := rfl

@[simp] theorem disconnects_empty : ({} : Record).disconnects = 0 := rfl

end Record

variable {x : World × Store}

@[simp] theorem bootRecord_bootstraps (backend table : String) (r : Except Error Unit) :
    (bootRecord backend table r).bootstraps = 1 := by
  simp [bootRecord, Record.bootstraps]

@[simp] theorem bootRecord_disconnects (backend table : String) (r : Except Error Unit) :
    (bootRecord backend table r).disconnects = 0 := by
  cases r <;> rfl

theorem gateRecord_bootstraps (x : World × Store) :
    (gateRecord x).bootstraps = if !isClosed x.1 x.2 && x.2.bootstrapped.isNone then 1 else 0 := by
  unfold gateRecord readyRecord
  cases isClosed x.1 x.2 <;> cases x.2.bootstrapped <;> simp

theorem readyRecord_disconnects (x : World × Store) : (readyRecord x).disconnects = 0 := by
  unfold readyRecord
  split <;> simp

theorem gateRecord_disconnects (x : World × Store) : (gateRecord x).disconnects = 0 := by
  unfold gateRecord
  split
  · rfl
  · exact readyRecord_disconnects x

theorem runRecord_bootstraps {operation : String} (hop : operation ≠ "bootstrap") (x : World × Store)
    (status : String) : (runRecord operation x status).bootstraps = (gateRecord x).bootstraps := by
  unfold runRecord
  split <;> simp [Record.bootstraps, hop]

theorem runRecord_disconnects (operation : String) (x : World × Store) (status : String) :
    (runRecord operation x status).disconnects = 0 := by
  unfold runRecord
  split
  · simp only [Record.disconnects_append, gateRecord_disconnects, Nat.zero_add]
    rfl
  · simp only [Record.append_empty, gateRecord_disconnects]

theorem reapRecord_disconnects (backend : String) (r : Except Error Nat) : (reapRecord backend r).disconnects = 0 := by
  cases r with
  | error => rfl
  | ok n => by_cases h : 0 < n <;> simp [reapRecord, h, Record.disconnects]

theorem Request.operation_ne_bootstrap (o : Request) : o.operation ≠ "bootstrap" := by
  cases o <;> simp only [Request.operation] <;> decide

theorem reapRecord_bootstraps (backend : String) (r : Except Error Nat) : (reapRecord backend r).bootstraps = 0 := by
  cases r <;> rfl

theorem Request.record_bootstraps (o : Request) (x : World × Store) :
    (o.record x).bootstraps = if o.gated then (gateRecord x).bootstraps else 0 := by
  have hrun : ∀ s, (runRecord o.operation x s).bootstraps = (gateRecord x).bootstraps :=
    runRecord_bootstraps o.operation_ne_bootstrap x
  cases o
  case clearExpired =>
    simp only [Request.record, clearExpiredRecord, Record.bootstraps_append, reapRecord_bootstraps, Nat.add_zero,
      Request.gated, if_true]
    exact hrun _
  all_goals
    simp only [Request.record]
    split <;> simp_all

theorem Request.record_disconnects (o : Request) (x : World × Store) : (o.record x).disconnects = 0 := by
  cases o
  case clearExpired =>
    simp only [Request.record, clearExpiredRecord, Record.disconnects_append, runRecord_disconnects,
      reapRecord_disconnects]
  all_goals
    simp only [Request.record]
    split <;> simp [runRecord_disconnects]

theorem sweepError_bootstraps (backend : String) (r : Except Error Nat) : (sweepError backend r).bootstraps = 0 := by
  rcases r with (_ | _ | _ | _ | _) | _ <;> rfl

theorem sweepError_disconnects (backend : String) (r : Except Error Nat) : (sweepError backend r).disconnects = 0 := by
  rcases r with (_ | _ | _ | _ | _) | _ <;> rfl

theorem sweepRecord_bootstraps (x : World × Store) :
    (sweepRecord x).bootstraps = if isClosed x.1 x.2 then 0 else (gateRecord x).bootstraps := by
  unfold sweepRecord
  split
  · rfl
  · simp only [clearExpiredRecord, Record.bootstraps_append, runRecord_bootstraps (by decide : "clear_expired" ≠ _),
      reapRecord_bootstraps, sweepError_bootstraps, Nat.add_zero]

theorem sweepRecord_disconnects (x : World × Store) : (sweepRecord x).disconnects = 0 := by
  unfold sweepRecord
  split
  · rfl
  · simp only [clearExpiredRecord, Record.disconnects_append, runRecord_disconnects, reapRecord_disconnects,
      sweepError_disconnects]

def Boots {α : Type} (a : StoreAct α) (x : World × Store) : Prop := ((a.run x).2.2.bootstrapped).isSome = true

section Boots

variable {α β : Type} {a : StoreAct α}

theorem Boots.bind {f : α → StoreAct β} (ha : Boots a x) (hf : ∀ v x₁, (f v).Advances x₁) : Boots (a >>= f) x := by
  unfold Boots at *
  rw [run_bind]
  rcases hrun : a.run x with ⟨_ | v, x₁⟩
  · rw [hrun] at ha
    exact ha
  · rw [hrun] at ha
    obtain ⟨r, hr⟩ := Option.isSome_iff_exists.mp ha
    rw [(hf v x₁).cached r hr]
    rfl

theorem boots_bind_same {f : α → StoreAct β} {v : α} (ha : a.run x = (.ok v, x)) (hf : Boots (f v) x) :
    Boots (a >>= f) x := by
  unfold Boots at *
  rw [run_bind, ha]
  exact hf

theorem Boots.discard (ha : Boots a x) : Boots (Functor.discard a) x := by
  unfold Boots at *
  rw [run_discard]
  rcases hrun : a.run x with ⟨_ | _, x₁⟩ <;> rw [hrun] at ha <;> exact ha

theorem Boots.attempt (ha : Boots a x) : Boots a.attempt x := by
  unfold Boots at *
  rw [run_attempt]
  exact ha

theorem ready_boots (x : World × Store) : Boots ready x := by
  unfold Boots
  cases h : x.2.bootstrapped with
  | some r => rw [ready_of_cached h, h]; rfl
  | none =>
    obtain ⟨r, x₁, hb, -⟩ := runBootstrap_succeeds x
    rw [ready_of_empty h hb]
    rfl

variable (hopen : isClosed x.1 x.2 = false)
include hopen

theorem gate_boots : Boots gate x :=
  boots_bind_same (ensureOpen_of_open hopen) ((ready_boots x).bind fun _ _ => ensureOpen_advances _)

theorem run_boots (operation : String) (call : Backend → Act α) : Boots (run operation call) x :=
  (gate_boots hopen).bind fun _ _ => invoke_advances _ _ _

theorem clearExpired_boots : Boots clearExpired x := by
  refine boots_bind_same (run_world x) ((run_boots hopen _ _).bind fun _ _ => advances_store_bind ?_)
  refine (advances_lift _ _).bind fun _ _ _ => ?_
  split
  · exact (advances_lift _ _).bind fun _ _ _ => (publish_succeeds _ _).advances.bind fun _ _ _ => advances_pure _ _
  · exact advances_pure _ _

theorem sweep_boots : Boots sweep x := by
  refine boots_bind_same (run_store x) (boots_bind_same (run_world x) ?_)
  simp only [hopen, Bool.false_eq_true, if_false]
  refine (clearExpired_boots hopen).attempt.bind fun _ _ => ?_
  split
  · exact advances_pure _ _
  · exact advances_pure _ _
  · exact (publish_succeeds _ _).advances.bind fun _ _ _ => advances_pure _ _

theorem perform_boots (o : Request) (hg : o.gated = true) : Boots o.perform x := by
  cases o with
  | get | has | fetchPage =>
    exact (boots_bind_same (run_store x) ((run_boots hopen _ _).bind fun _ _ => advances_pure _ _)).bind fun _ _ =>
      advances_pure _ _
  | set | delete => exact (boots_bind_same (run_store x) (run_boots hopen _ _)).bind fun _ _ => advances_pure _ _
  | getMany keys | deleteMany keys | hasMany keys =>
    have hne : keys.isEmpty = false := by simpa [Request.gated] using hg
    refine Boots.bind (boots_bind_same (ensureOpen_of_open hopen) ?_) fun _ _ => advances_pure _ _
    rw [hne]
    exact boots_bind_same (run_store x) ((run_boots hopen _ _).bind fun _ _ => advances_pure _ _)
  | setMany entries =>
    have hne : entries.isEmpty = false := by simpa [Request.gated] using hg
    refine Boots.bind (boots_bind_same (ensureOpen_of_open hopen) ?_) fun _ _ => advances_pure _ _
    rw [hne]
    exact boots_bind_same (run_store x) (run_boots hopen _ _)
  | clear =>
    exact (boots_bind_same (run_store x) ((run_boots hopen _ _).discard.bind fun _ _ => advances_lift _ _)).bind fun _ _ =>
      advances_pure _ _
  | clearExpired => exact (clearExpired_boots hopen).bind fun _ _ => advances_pure _ _
  | clearUnusedFor => exact (run_boots hopen _ _).bind fun _ _ => advances_pure _ _

end Boots

namespace Step

/-- Whether the call waits for the bootstrap: a call that reaches the gate of an open store,
waiting itself, or a sweep of an open store. -/
def waits : Step → World × Store → Bool
  | .call o, x => o.gated && !isClosed x.1 x.2
  | .ready, _ => true
  | .sweep, x => !isClosed x.1 x.2
  | _, _ => false

theorem record_bootstraps (st : Step) (x : World × Store) :
    (st.record x).bootstraps = if st.waits x && x.2.bootstrapped.isNone then 1 else 0 := by
  cases st with
  | call o =>
    rw [record, Request.record_bootstraps, gateRecord_bootstraps]
    cases hg : o.gated <;> cases hc : isClosed x.1 x.2 <;> simp [waits, hg, hc]
  | ready =>
    simp only [record, readyRecord, waits, Bool.true_and]
    split <;> simp_all
  | sweep =>
    rw [record, sweepRecord_bootstraps, gateRecord_bootstraps]
    cases hc : isClosed x.1 x.2 <;> simp [waits, hc]
  | disconnect =>
    simp only [record, disconnectRecord]
    split <;> rfl
  | setReaper => rfl

theorem boots (st : Step) (x : World × Store) (h : st.waits x = true) :
    ((st.next x).2.bootstrapped).isSome = true := by
  cases st with
  | call o =>
    simp only [waits, Bool.and_eq_true, Bool.not_eq_true'] at h
    exact perform_boots h.2 o h.1
  | ready => exact ready_boots x
  | sweep =>
    simp only [waits, Bool.not_eq_true'] at h
    exact sweep_boots h
  | disconnect | setReaper => cases h

theorem bootstraps_le (st : Step) (x : World × Store) :
    (st.record x).bootstraps + (if (st.next x).2.bootstrapped.isNone then 1 else 0) ≤
      if x.2.bootstrapped.isNone then 1 else 0 := by
  rw [st.record_bootstraps]
  cases hw : st.waits x
  · cases h : x.2.bootstrapped with
    | none =>
      simp only [Bool.false_and, Bool.false_eq_true, if_false, Nat.zero_add, Option.isNone_none, if_true]
      split <;> simp
    | some r =>
      rw [(st.later x).cached r h]
      simp
  · obtain ⟨r, hr⟩ := Option.isSome_iff_exists.mp (st.boots x hw)
    rw [hr]
    cases x.2.bootstrapped <;> simp

theorem disconnects_le_of_zero (st : Step) (x : World × Store) (h0 : (st.record x).disconnects = 0) :
    (st.record x).disconnects + (if (st.next x).2.closed then 0 else 1) ≤ if x.2.closed then 0 else 1 := by
  rw [h0, Nat.zero_add]
  cases hc : x.2.closed
  · split <;> simp
  · simp [(st.later x).closed hc]

theorem disconnects_le (st : Step) (x : World × Store) :
    (st.record x).disconnects + (if (st.next x).2.closed then 0 else 1) ≤ if x.2.closed then 0 else 1 := by
  cases st with
  | call o => exact disconnects_le_of_zero _ x (Request.record_disconnects o x)
  | ready => exact disconnects_le_of_zero _ x (readyRecord_disconnects x)
  | sweep => exact disconnects_le_of_zero _ x (sweepRecord_disconnects x)
  | setReaper => exact disconnects_le_of_zero _ x rfl
  | disconnect =>
    cases hc : x.2.closed
    · obtain ⟨w', s', hrun, -, -, hcl, -⟩ := disconnect_of_open hc
      simp [record, next, disconnectRecord, hc, hrun, hcl, Record.disconnects]
    · have h := disconnects_le_of_zero .disconnect x (by simp only [record, disconnectRecord, hc, if_true]; rfl)
      rwa [hc] at h

end Step

theorem recordAll_bootstraps_le (steps : List Step) (x : World × Store) :
    (recordAll steps x).bootstraps ≤ if x.2.bootstrapped.isNone then 1 else 0 := by
  induction steps generalizing x with
  | nil => exact Nat.zero_le _
  | cons st steps ih =>
    have hstep := st.bootstraps_le x
    have hrest := ih (st.next x)
    simp only [recordAll, Record.bootstraps_append]
    omega

theorem recordAll_disconnects_le (steps : List Step) (x : World × Store) :
    (recordAll steps x).disconnects ≤ if x.2.closed then 0 else 1 := by
  induction steps generalizing x with
  | nil => exact Nat.zero_le _
  | cons st steps ih =>
    have hstep := st.disconnects_le x
    have hrest := ih (st.next x)
    simp only [recordAll, Record.disconnects_append]
    omega

end Once

section Counters

namespace Record

def QuoteFree (R : Record) : Prop := ∀ p ∈ R.operations, '"' ∉ p.1.toList

theorem QuoteFree.append {R₁ R₂ : Record} (h₁ : R₁.QuoteFree) (h₂ : R₂.QuoteFree) : (R₁ ++ R₂).QuoteFree := by
  intro p hp
  rcases List.mem_append.mp hp with hp | hp
  · exact h₁ p hp
  · exact h₂ p hp

theorem quoteFree_empty : ({} : Record).QuoteFree := fun _ hp => nomatch hp

theorem quoteFree_of_operations {R : Record} (h : R.operations = []) : R.QuoteFree := fun _ hp => by
  rw [h] at hp
  cases hp

theorem adds_operationSeries {R : Record} (hR : R.QuoteFree) {o : String} (ho : '"' ∉ o.toList)
    (backend s : String) : R.adds backend (operationSeries backend o s) = R.operations.count (o, s) := by
  unfold adds
  rw [if_neg (operationSeries_ne_reapedSeries backend o s), Nat.add_zero, List.count]
  apply List.countP_congr
  intro p hp
  simp only [beq_iff_eq]
  constructor
  · intro h
    obtain ⟨h₁, h₂⟩ := operationSeries_inj (hR p hp) ho h
    exact Prod.ext h₁ h₂
  · rintro rfl
    rfl

theorem adds_reapedSeries (R : Record) (backend : String) : R.adds backend (reapedSeries backend) = R.reaped.sum := by
  unfold adds
  rw [if_pos rfl, List.countP_eq_zero.mpr, Nat.zero_add]
  intro p _
  simp only [beq_iff_eq]
  exact operationSeries_ne_reapedSeries backend p.1 p.2

end Record

theorem bootRecord_quoteFree (backend table : String) (r : Except Error Unit) :
    (bootRecord backend table r).QuoteFree := by
  intro p hp
  rw [List.mem_singleton.mp hp]
  show '"' ∉ "bootstrap".toList
  decide

theorem gateRecord_quoteFree (x : World × Store) : (gateRecord x).QuoteFree := by
  unfold gateRecord readyRecord
  split
  · exact Record.quoteFree_empty
  · split
    · exact bootRecord_quoteFree _ _ _
    · exact Record.quoteFree_empty

theorem runRecord_quoteFree {operation : String} (hop : '"' ∉ operation.toList) (x : World × Store)
    (status : String) : (runRecord operation x status).QuoteFree := by
  refine (gateRecord_quoteFree x).append ?_
  split
  · intro p hp
    rw [List.mem_singleton.mp hp]
    exact hop
  · exact Record.quoteFree_empty

theorem clearExpiredRecord_quoteFree (x : World × Store) : (clearExpiredRecord x).QuoteFree := by
  refine (runRecord_quoteFree (by decide) x _).append (Record.quoteFree_of_operations ?_)
  cases (clearExpired.run x).1 <;> rfl

theorem Step.record_quoteFree (st : Step) (x : World × Store) : (st.record x).QuoteFree := by
  cases st with
  | call o =>
    have hop : '"' ∉ o.operation.toList := by
      cases o <;> simp only [Request.operation] <;> decide
    cases o
    case clearExpired => exact clearExpiredRecord_quoteFree x
    all_goals
      simp only [record, Request.record]
      split
      · exact runRecord_quoteFree hop x _
      · exact Record.quoteFree_empty
  | ready =>
    simp only [record, readyRecord]
    split
    · exact bootRecord_quoteFree _ _ _
    · exact Record.quoteFree_empty
  | sweep =>
    simp only [record, sweepRecord]
    split
    · exact Record.quoteFree_empty
    · refine (clearExpiredRecord_quoteFree x).append (Record.quoteFree_of_operations ?_)
      rcases (clearExpired.run x).1 with (_ | _ | _ | _ | _) | _ <;> rfl
  | disconnect =>
    refine Record.quoteFree_of_operations ?_
    simp only [record, disconnectRecord]
    split <;> rfl
  | setReaper => exact Record.quoteFree_empty

theorem recordAll_quoteFree (steps : List Step) (x : World × Store) : (recordAll steps x).QuoteFree := by
  induction steps generalizing x with
  | nil => exact Record.quoteFree_empty
  | cons st steps ih => exact (st.record_quoteFree x).append (ih (st.next x))

end Counters

/-- Over every run of calls on a store with metrics on, its counters and its bus hold what
the calls record: each operation's counter grew by the calls counted with that operation
and status, the reaped counter by the sum of what `clear_expired` removed, and the bus took
the recorded events in order; the bootstrap is counted at most once, and at most one
disconnect is published. -/
theorem counters_and_events_match_calls (steps : List Step) (x : World × Store) (hm : x.1.metrics.enabled = true) :
    (∀ o s, '"' ∉ o.toList →
      (runAll steps x).1.metrics.value (operationSeries x.2.backend.name o s) =
        x.1.metrics.value (operationSeries x.2.backend.name o s) + (recordAll steps x).operations.count (o, s)) ∧
    (runAll steps x).1.metrics.value (reapedSeries x.2.backend.name) =
      x.1.metrics.value (reapedSeries x.2.backend.name) + (recordAll steps x).reaped.sum ∧
    (runAll steps x).2.bus = publishAll x.2.bus (recordAll steps x).events ∧
    (recordAll steps x).bootstraps ≤ 1 ∧ (recordAll steps x).disconnects ≤ 1 := by
  have h := replay_accounted steps x
  refine ⟨fun o s ho => ?_, ?_, h.bus, ?_, ?_⟩
  · rw [h.tally hm _ (.inl ⟨o, s, rfl⟩), Record.adds_operationSeries (recordAll_quoteFree steps x) ho]
  · rw [h.tally hm _ (.inr rfl), Record.adds_reapedSeries]
  · have hle := recordAll_bootstraps_le steps x
    split at hle <;> omega
  · have hle := recordAll_disconnects_le steps x
    split at hle <;> omega

theorem metered_store_counts_bootstrap_once :
    ({ (default : World) with metrics := { enabled := true } } : World).metrics.enabled = true ∧
      (recordAll [.call .clear, .sweep, .disconnect, .call .clear, .disconnect]
        ({ (default : World) with metrics := { enabled := true } }, default)).bootstraps ≤ 1 :=
  ⟨rfl, (counters_and_events_match_calls _ _ rfl).2.2.2.1⟩

end Store

end KvStore
