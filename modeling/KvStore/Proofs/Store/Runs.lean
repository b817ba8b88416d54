import KvStore.Store.World

/-!
Runs of world actions that return: `a.Returns w x w'` says that run from `w`, the action
returns `x` and leaves `w'`. A run of a sequence is built from runs of its parts
(`Returns.bind`), and a run of a loop over a list from a step that keeps an invariant over
the part of the list done (`returns_foldlM`, `returns_forIn`). The loop body is left to be
unified with the code's own lambda, and the step is then proved for it.

A run that may fail is opened by `run_bind`; `a.Preserves v w` says that the run from `w`,
whatever its outcome, leaves the view `v` of the world as it was, and is built along the
code by `Preserves.bind`.
-/

namespace KvStore

namespace Act

variable {α β : Type} {a : Act α} {w w₁ w₂ : World} {x : α} {y : β}

def Returns (a : Act α) (w : World) (x : α) (w' : World) : Prop := a.run w = (.ok x, w')

theorem returns_pure (x : α) (w : World) : (pure x : Act α).Returns w x w := rfl

theorem returns_pure_of_eq {y : α} (h : x = y) : (pure x : Act α).Returns w y w := h ▸ rfl

theorem Returns.bind {f : α → Act β} (ha : a.Returns w x w₁) (hf : (f x).Returns w₁ y w₂) :
    (a >>= f).Returns w y w₂ := by
  unfold Returns at *
  rw [ExceptT.run_bind]
  show StateT.bind (ExceptT.run a) _ w = _
  unfold StateT.bind
  rw [ha]
  exact hf

theorem Returns.bind_exists {f : α → Act β} {P : β → World → Prop} (ha : a.Returns w x w₁)
    (hf : ∃ y w₂, (f x).Returns w₁ y w₂ ∧ P y w₂) : ∃ y w₂, (a >>= f).Returns w y w₂ ∧ P y w₂ := by
  obtain ⟨y, w₂, hf, hp⟩ := hf
  exact ⟨y, w₂, ha.bind hf, hp⟩

theorem exists_bind {f : α → Act β} {Q : α → World → Prop} {P : β → World → Prop}
    (ha : ∃ x w₁, a.Returns w x w₁ ∧ Q x w₁)
    (hf : ∀ x w₁, Q x w₁ → ∃ y w₂, (f x).Returns w₁ y w₂ ∧ P y w₂) :
    ∃ y w₂, (a >>= f).Returns w y w₂ ∧ P y w₂ := by
  obtain ⟨x, w₁, ha, hq⟩ := ha
  exact ha.bind_exists (hf x w₁ hq)

theorem Returns.map {f : α → β} (ha : a.Returns w x w₁) : (f <$> a).Returns w (f x) w₁ := by
  unfold Returns at *
  rw [ExceptT.run_map]
  show StateT.map _ (ExceptT.run a) w = _
  unfold StateT.map
  rw [ha]
  rfl

theorem Returns.of_map {f : α → β} (hf : Function.Injective f) (h : (f <$> a).Returns w (f x) w₁) :
    a.Returns w x w₁ := by
  unfold Returns at *
  rw [ExceptT.run_map] at h
  change StateT.map _ (ExceptT.run a) w = _ at h
  unfold StateT.map at h
  change (Except.map f (a.run w).1, (a.run w).2) = _ at h
  rcases ha : a.run w with ⟨e | v, w₂⟩ <;> rw [ha] at h
  · cases h
  · simp only [Except.map, Prod.mk.injEq, Except.ok.injEq] at h
    rw [hf h.1, h.2]

theorem Returns.of_bind_pure {a : Act Unit} (h : (a >>= fun _ => pure y).Returns w y w₁) :
    a.Returns w () w₁ := by
  unfold Returns at *
  rw [ExceptT.run_bind] at h
  change StateT.bind (ExceptT.run a) _ w = _ at h
  unfold StateT.bind at h
  rcases ha : a.run w with ⟨e | v, w₂⟩ <;> rw [ha] at h
  · cases h
  · cases h
    rfl

theorem returns_get (w : World) : (get : Act World).Returns w w w := rfl

theorem returns_set (w w' : World) : (set w' : Act PUnit).Returns w PUnit.unit w' := rfl

theorem returns_modify (f : World → World) (w : World) :
    (modify f : Act PUnit).Returns w PUnit.unit (f w) := rfl

theorem returns_fresh (w : World) : Act.fresh.Returns w w.unique { w with unique := w.unique + 1 } := rfl

/-- A loop over a list returns when each step does, carrying an invariant over the part of
the list done; what the invariant gives at the end holds of the result. -/
theorem returns_foldlM {γ : Type} {f : β → γ → Act β} {P : β → World → Prop} (xs : List γ)
    (inv : List γ → β → World → Prop)
    (step : ∀ done x rest b w, done ++ x :: rest = xs → inv done b w →
      ∃ b' w', (f b x).Returns w b' w' ∧ inv (done ++ [x]) b' w')
    (b : β) (w : World) (start : inv [] b w) (finish : ∀ b' w', inv xs b' w' → P b' w') :
    ∃ b' w', (xs.foldlM f b).Returns w b' w' ∧ P b' w' := by
  -- the loop from any point of the list, with what is done before it
  have suffix : ∀ rest done b w, done ++ rest = xs → inv done b w →
      ∃ b' w', (rest.foldlM f b).Returns w b' w' ∧ inv xs b' w' := by
    intro rest
    induction rest with
    | nil => intro done b w hsplit hinv; exact ⟨b, w, rfl, by simpa [← hsplit] using hinv⟩
    | cons x rest ih =>
      intro done b w hsplit hinv
      obtain ⟨b₁, w₁, hstep, hinv₁⟩ := step done x rest b w hsplit hinv
      obtain ⟨b', w', hrest, hinv'⟩ := ih (done ++ [x]) b₁ w₁ (by simpa using hsplit) hinv₁
      exact ⟨b', w', by rw [List.foldlM_cons]; exact hstep.bind hrest, hinv'⟩
  obtain ⟨b', w', hrun, hinv⟩ := suffix xs [] b w rfl start
  exact ⟨b', w', hrun, finish b' w' hinv⟩

theorem returns_foldlM_of {γ : Type} {f : β → γ → Act β} (xs : List γ) (inv : List γ → β → World → Prop)
    (step : ∀ done x rest b w, done ++ x :: rest = xs → inv done b w →
      ∃ b' w', (f b x).Returns w b' w' ∧ inv (done ++ [x]) b' w')
    (b : β) (w : World) (start : inv [] b w) (r : β) (w' : World)
    (finish : ∀ b' w'', inv xs b' w'' → b' = r ∧ w'' = w') : (xs.foldlM f b).Returns w r w' := by
  obtain ⟨b', w'', hrun, rfl, rfl⟩ := returns_foldlM xs inv step b w start finish
  exact hrun

/-- A `for` loop over a list returns when each step returns and goes on, carrying an
invariant over the part of the list done. -/
theorem returns_forIn {γ : Type} {f : γ → β → Act (ForInStep β)} {P : β → World → Prop} (xs : List γ)
    (inv : List γ → β → World → Prop)
    (step : ∀ done x rest b w, done ++ x :: rest = xs → inv done b w →
      ∃ b' w', (f x b).Returns w (.yield b') w' ∧ inv (done ++ [x]) b' w')
    (b : β) (w : World) (start : inv [] b w) (finish : ∀ b' w', inv xs b' w' → P b' w') :
    ∃ b' w', (forIn xs b f).Returns w b' w' ∧ P b' w' := by
  have suffix : ∀ rest done b w, done ++ rest = xs → inv done b w →
      ∃ b' w', (forIn rest b f).Returns w b' w' ∧ inv xs b' w' := by
    intro rest
    induction rest with
    | nil => intro done b w hsplit hinv; exact ⟨b, w, rfl, by simpa [← hsplit] using hinv⟩
    | cons x rest ih =>
      intro done b w hsplit hinv
      obtain ⟨b₁, w₁, hstep, hinv₁⟩ := step done x rest b w hsplit hinv
      obtain ⟨b', w', hrest, hinv'⟩ := ih (done ++ [x]) b₁ w₁ (by simpa using hsplit) hinv₁
      exact ⟨b', w', by rw [List.forIn_cons]; exact hstep.bind hrest, hinv'⟩
  obtain ⟨b', w', hrun, hinv⟩ := suffix xs [] b w rfl start
  exact ⟨b', w', hrun, finish b' w' hinv⟩

theorem returns_attempt (h : a.Returns w x w₁) : (Act.attempt a).Returns w (.ok x) w₁ := by
  unfold Returns at *
  show StateT.bind (ExceptT.run a) (fun r => pure (Except.ok r)) w = _
  unfold StateT.bind
  rw [h]
  rfl

/-! Runs that may fail: the run of a sequence, and what a run leaves unchanged. -/

theorem run_bind (a : Act α) (f : α → Act β) (w : World) :
    (a >>= f).run w = match a.run w with
      | (.ok x, w₁) => (f x).run w₁
      | (.error e, w₁) => (.error e, w₁) := by
  rw [ExceptT.run_bind]
  show StateT.bind (ExceptT.run a) _ w = _
  unfold StateT.bind
  rcases a.run w with ⟨_ | x, w₁⟩ <;> rfl

theorem run_get (w : World) : (get : Act World).run w = (.ok w, w) := rfl

theorem run_get_bind (f : World → Act α) (w : World) : (get >>= f).run w = (f w).run w := rfl

theorem run_modify_bind (f : World → World) (g : PUnit → Act α) (w : World) :
    (modify f >>= g).run w = (g PUnit.unit).run (f w) := rfl

@[simp] theorem run_count (name : String) (labels : List (String × String)) (n : Nat) (w : World) :
    (count name labels n).run w = (.ok (), { w with metrics := w.metrics.add name labels n }) := rfl

@[simp] theorem run_countOperation (backend operation status : String) (w : World) :
    (countOperation backend operation status).run w =
      (.ok (), { w with metrics := w.metrics.operation backend operation status }) := rfl

@[simp] theorem run_log (level : LogLevel) (target message : String) (fields : List String)
    (span : Option LogSpan) (w : World) :
    (log level target message fields span).run w = (.ok (), w.record { level, target, message, fields, span }) := rfl

section Preserves

variable {γ : Type}

/-- Run from `w`, the action leaves the view `v` of the world as it was. -/
def Preserves (v : World → γ) (a : Act α) (w : World) : Prop := v (a.run w).2 = v w

theorem preserves_pure (v : World → γ) (x : α) (w : World) : (pure x : Act α).Preserves v w := rfl

theorem preserves_throw (v : World → γ) (e : Error) (w : World) : (throw e : Act α).Preserves v w := rfl

theorem preserves_set {v : World → γ} {w' : World} (h : v w' = v w) : (set w' : Act PUnit).Preserves v w := h

theorem Preserves.bind {v : World → γ} {f : α → Act β} (ha : a.Preserves v w)
    (hf : ∀ x w₁, a.run w = (.ok x, w₁) → (f x).Preserves v w₁) : (a >>= f).Preserves v w := by
  unfold Preserves at *
  rw [run_bind]
  rcases hrun : a.run w with ⟨_ | x, w₁⟩
  · rw [hrun] at ha
    exact ha
  · rw [hrun] at ha
    exact (hf x w₁ hrun).trans ha

theorem preserves_get_bind {v : World → γ} {f : World → Act β} (hf : (f w).Preserves v w) :
    (get >>= f).Preserves v w :=
  Preserves.bind rfl fun _ _ h => by cases h; exact hf

end Preserves

end Act

end KvStore
