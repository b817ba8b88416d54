import KvStore.Store.Basic

/-!
Runs of store actions, which act on the world and on one store's own state.

`run_bind` opens the run of a sequence, and the `@[simp]` run lemmas compute the primitive
steps. `a.Advances x` says that run from `x`, whatever its outcome, the action moves the
store's own state on only as `Store.Later` allows: the backend stays, a cached bootstrap
outcome stays, and a closed store stays closed. `a.Succeeds x` says as well that the
action returns. Both are built along the code by their `bind` lemmas.
-/

namespace KvStore

/-- How a store's own state may move on: its backend stays, a cached bootstrap outcome
stays, and a closed store stays closed. -/
structure Store.Later (s s' : Store) : Prop where
  backend : s'.backend = s.backend
  cached : ∀ r, s.bootstrapped = some r → s'.bootstrapped = some r
  closed : s.closed = true → s'.closed = true

namespace Store.Later

variable {s s₁ s₂ : Store}

@[refl] theorem refl (s : Store) : s.Later s := ⟨rfl, fun _ h => h, id⟩

theorem trans (h₁ : s.Later s₁) (h₂ : s₁.Later s₂) : s.Later s₂ :=
  ⟨h₂.backend.trans h₁.backend, fun r h => h₂.cached r (h₁.cached r h), fun h => h₂.closed (h₁.closed h)⟩

/-- A change of anything but the backend, the cached outcome and the closed flag (the bus,
the reaper) moves the store on. -/
theorem of_gate (hb : s₁.backend = s.backend) (hc : s₁.bootstrapped = s.bootstrapped) (hcl : s₁.closed = s.closed) :
    s.Later s₁ :=
  ⟨hb, fun _ h => hc ▸ h, fun h => hcl ▸ h⟩

end Store.Later

namespace StoreAct

variable {α β : Type} {a : StoreAct α} {x : World × Store}

theorem run_bind (a : StoreAct α) (f : α → StoreAct β) (x : World × Store) :
    (a >>= f).run x = match a.run x with
      | (.ok v, x₁) => (f v).run x₁
      | (.error e, x₁) => (.error e, x₁) := by
  rw [ExceptT.run_bind]
  show StateT.bind (ExceptT.run a) _ x = _
  unfold StateT.bind
  rcases a.run x with ⟨_ | v, x₁⟩ <;> rfl

theorem run_discard (a : StoreAct α) (x : World × Store) :
    (discard a).run x = match a.run x with
      | (.ok _, x₁) => (.ok (), x₁)
      | (.error e, x₁) => (.error e, x₁) := by
  show (ExceptT.map _ a).run x = _
  simp only [ExceptT.map, ExceptT.mk, ExceptT.run, bind, StateT.bind]
  rcases a x with ⟨_ | v, x₁⟩ <;> rfl

@[simp] theorem run_pure (v : α) (x : World × Store) : (pure v : StoreAct α).run x = (.ok v, x) := rfl

@[simp] theorem run_get (x : World × Store) : (get : StoreAct (World × Store)).run x = (.ok x, x) := rfl

@[simp] theorem run_modify (f : World × Store → World × Store) (x : World × Store) :
    (modify f : StoreAct PUnit).run x = (.ok (), f x) := rfl

@[simp] theorem run_lift (a : Act α) (x : World × Store) :
    (lift a).run x = ((a.run x.1).1, ((a.run x.1).2, x.2)) := rfl

@[simp] theorem run_store (x : World × Store) : store.run x = (.ok x.2, x) := rfl

@[simp] theorem run_world (x : World × Store) : world.run x = (.ok x.1, x) := rfl

@[simp] theorem run_attempt (a : StoreAct α) (x : World × Store) :
    (attempt a).run x = (.ok (a.run x).1, (a.run x).2) := rfl

@[simp] theorem run_modifyStore (f : Store → Store) (x : World × Store) :
    (modifyStore f).run x = (.ok (), (x.1, f x.2)) := rfl

section Advances

/-- Run from `x`, the action moves the store's own state on only as `Store.Later` allows,
whatever its outcome. -/
def Advances (a : StoreAct α) (x : World × Store) : Prop := x.2.Later (a.run x).2.2

theorem advances_pure (v : α) (x : World × Store) : (pure v : StoreAct α).Advances x := .refl _

theorem advances_throw (e : Error) (x : World × Store) : (throw e : StoreAct α).Advances x := .refl _

theorem advances_lift (a : Act α) (x : World × Store) : (lift a).Advances x := .refl _

theorem advances_modifyStore {f : Store → Store} (h : x.2.Later (f x.2)) : (modifyStore f).Advances x := h

theorem Advances.bind {f : α → StoreAct β} (ha : a.Advances x)
    (hf : ∀ v x₁, a.run x = (.ok v, x₁) → (f v).Advances x₁) : (a >>= f).Advances x := by
  unfold Advances at *
  rw [run_bind]
  rcases hrun : a.run x with ⟨_ | v, x₁⟩
  · rw [hrun] at ha
    exact ha
  · rw [hrun] at ha
    exact ha.trans (hf v x₁ hrun)

theorem Advances.bind_pure {f : α → β} (ha : a.Advances x) : (a >>= fun v => pure (f v)).Advances x :=
  ha.bind fun _ _ _ => advances_pure _ _

theorem Advances.discard (ha : a.Advances x) : (discard a).Advances x := by
  unfold Advances at *
  rw [run_discard]
  rcases h : a.run x with ⟨_ | _, x₁⟩ <;> rw [h] at ha <;> exact ha

theorem advances_bind_of_ok {f : α → StoreAct β} {v : α} (ha : a.run x = (.ok v, x)) (hf : (f v).Advances x) :
    (a >>= f).Advances x :=
  Advances.bind (by rw [Advances, ha]) fun _ _ h => by rw [ha] at h; cases h; exact hf

theorem advances_store_bind {f : Store → StoreAct β} (hf : (f x.2).Advances x) : (store >>= f).Advances x :=
  advances_bind_of_ok rfl hf

theorem advances_world_bind {f : World → StoreAct β} (hf : (f x.1).Advances x) : (world >>= f).Advances x :=
  advances_bind_of_ok rfl hf

theorem advances_get_bind {f : World × Store → StoreAct β} (hf : (f x).Advances x) : (get >>= f).Advances x :=
  advances_bind_of_ok rfl hf

theorem advances_throw_bind (e : Error) (f : α → StoreAct β) (x : World × Store) : (throw e >>= f).Advances x :=
  .refl _

end Advances

section Succeeds

/-- Run from `x`, the action returns, and moves the store's own state on only as
`Store.Later` allows. -/
def Succeeds (a : StoreAct α) (x : World × Store) : Prop := ∃ v x₁, a.run x = (.ok v, x₁) ∧ x.2.Later x₁.2

theorem Succeeds.advances (ha : a.Succeeds x) : a.Advances x := by
  obtain ⟨v, x₁, hrun, hl⟩ := ha
  rw [Advances, hrun]
  exact hl

theorem succeeds_pure (v : α) (x : World × Store) : (pure v : StoreAct α).Succeeds x := ⟨v, x, rfl, .refl _⟩

theorem succeeds_lift {a : Act α} {v : α} {w : World} (h : a.run x.1 = (.ok v, w)) : (lift a).Succeeds x :=
  ⟨v, (w, x.2), by rw [run_lift, h], .refl _⟩

theorem Advances.attempt_succeeds (ha : a.Advances x) : a.attempt.Succeeds x :=
  ⟨_, _, run_attempt a x, ha⟩

theorem Succeeds.bind {f : α → StoreAct β} (ha : a.Succeeds x)
    (hf : ∀ v x₁, a.run x = (.ok v, x₁) → (f v).Succeeds x₁) : (a >>= f).Succeeds x := by
  obtain ⟨v, x₁, hrun, hl⟩ := ha
  obtain ⟨u, x₂, hrun', hl'⟩ := hf v x₁ hrun
  exact ⟨u, x₂, by rw [run_bind, hrun]; exact hrun', hl.trans hl'⟩

theorem succeeds_store_bind {f : Store → StoreAct β} (hf : (f x.2).Succeeds x) : (store >>= f).Succeeds x :=
  Succeeds.bind (succeeds_pure x.2 x) fun _ _ h => by cases h; exact hf

end Succeeds

end StoreAct

end KvStore
