import GatewaySync.Sync.World
/-!
# Running a pass step by step

One equation for each way of building a pass tells what it answers, what it leaves of the object at
hand, and what it leaves of the world. A frame is a reflexive and transitive relation between what an
action finds and what it leaves; it is kept by an action as soon as it is kept by the parts.
-/
namespace GatewaySync.Pass

variable {σ α β : Type}

theorem isOk_of_bind {s : Except SyncError α} {f : α → Except SyncError β}
    (h : (s.bind f).isOk) : s.isOk := by
  cases s with
  | error e => exact h
  | ok a => rfl

theorem isOk_of_bind_map {γ : Type} {s : Except SyncError α} {r : Except SyncError β} {f : β → γ}
    (h : (s.bind fun _ => r.map f).isOk) : r.isOk := by
  cases s with
  | error e => cases h
  | ok a =>
    cases r with
    | error e => exact h
    | ok b => rfl

@[simp] theorem onObject_pure (a : α) (o : Object) (w : World σ) :
    (pure a : Pass σ α).onObject o w = (.ok a, o, w) := rfl

@[simp] theorem onObject_throw (e : SyncError) (o : Object) (w : World σ) :
    (throw e : Pass σ α).onObject o w = (.error e, o, w) := rfl

theorem onObject_bind (p : Pass σ α) (f : α → Pass σ β) (o : Object) (w : World σ) :
    (p >>= f).onObject o w =
      match p.onObject o w with
      | (.ok a, o, w) => (f a).onObject o w
      | (.error e, o, w) => (.error e, o, w) := by
  change (ExceptT.bindCont f (p o w).1.1 (p o w).1.2 (p o w).2 |> fun r => (r.1.1, r.1.2, r.2)) = _
  rcases h : p o w with ⟨⟨r, o'⟩, w'⟩
  have hp : p.onObject o w = (r, o', w') := by
    change ((p o w).1.1, (p o w).1.2, (p o w).2) = _
    rw [h]
  rw [hp]
  cases r <;> rfl

theorem onObject_bind_ok {p : Pass σ α} {f : α → Pass σ β} {o o' : Object} {w w' : World σ} {a : α}
    (h : p.onObject o w = (.ok a, o', w')) : (p >>= f).onObject o w = (f a).onObject o' w' := by
  rw [onObject_bind, h]

theorem onObject_bind_error {p : Pass σ α} {f : α → Pass σ β} {o o' : Object} {w w' : World σ}
    {e : SyncError} (h : p.onObject o w = (.error e, o', w')) :
    (p >>= f).onObject o w = (.error e, o', w') := by
  rw [onObject_bind, h]

theorem onObject_bind_eq_ok {p : Pass σ α} {f : α → Pass σ β} {o o' : Object} {w w' : World σ} {b : β}
    (h : (p >>= f).onObject o w = (.ok b, o', w')) :
    ∃ a o₁ w₁, p.onObject o w = (.ok a, o₁, w₁) ∧ (f a).onObject o₁ w₁ = (.ok b, o', w') := by
  rcases run : p.onObject o w with ⟨e | a, o₁, w₁⟩
  · rw [onObject_bind_error run] at h
    cases h
  · exact ⟨a, o₁, w₁, rfl, (onObject_bind_ok run).symm.trans h⟩

@[simp] theorem onObject_attempt (p : Pass σ α) (o : Object) (w : World σ) :
    p.attempt.onObject o w = (.ok (p.onObject o w).1, (p.onObject o w).2) := rfl

/-- The continuation of an attempt is told how the action went. -/
theorem onObject_bind_attempt {p : Pass σ α} {f : Except SyncError α → Pass σ β} {o o' : Object}
    {w w' : World σ} {r : Except SyncError α} (h : p.onObject o w = (r, o', w')) :
    (p.attempt >>= f).onObject o w = (f r).onObject o' w' :=
  onObject_bind_ok (by rw [onObject_attempt, h])

@[simp] theorem onObject_object (o : Object) (w : World σ) :
    (object : Pass σ Object).onObject o w = (.ok o, o, w) := rfl

@[simp] theorem onObject_modifyObject (f : Object → Object) (o : Object) (w : World σ) :
    (modifyObject f : Pass σ Unit).onObject o w = (.ok (), f o, w) := rfl

@[simp] theorem onObject_record (v : Verdict) (o : Object) (w : World σ) :
    (record v : Pass σ Unit).onObject o w = (.ok (), o.record v w.now, w) := rfl

@[simp] theorem onObject_ofExcept (r : Except SyncError α) (o : Object) (w : World σ) :
    (ofExcept r : Pass σ α).onObject o w = (r, o, w) := by
  cases r <;> rfl

/-- An action whose answer only matters if it fails. -/
theorem onObject_bind_ofExcept {p : Pass σ α} {s : Except SyncError α} {o o' : Object}
    {w w' : World σ} (h : p.onObject o w = (s, o', w')) (r : Except SyncError β) :
    (p >>= fun _ => ofExcept r).onObject o w = (s.bind fun _ => r, o', w') := by
  cases s with
  | error e => exact onObject_bind_error h
  | ok a => rw [onObject_bind_ok h, onObject_ofExcept]; rfl

@[simp] theorem onObject_onWorld (f : World σ → α × World σ) (o : Object) (w : World σ) :
    (onWorld f).onObject o w = (.ok (f w).1, o, (f w).2) := rfl

@[simp] theorem onObject_tryWorld (f : World σ → Except SyncError α × World σ) (o : Object)
    (w : World σ) : (tryWorld f).onObject o w = ((f w).1, o, (f w).2) := by
  rw [tryWorld, onObject_bind_ok (onObject_onWorld f o w)]
  rcases f w with ⟨r, w'⟩
  cases r <;> rfl

def FailsWith (P : SyncError → Prop) (p : Pass σ α) : Prop :=
  ∀ o w e, (p.onObject o w).1 = .error e → P e

section

variable {P : SyncError → Prop}

theorem failsWith_throw {e : SyncError} (h : P e) : FailsWith P (throw e : Pass σ α) := by
  intro o w e' failed
  cases failed
  exact h

theorem failsWith_object : FailsWith P (object : Pass σ Object) := by
  intro o w e failed
  cases failed

theorem failsWith_modifyObject (f : Object → Object) :
    FailsWith P (modifyObject f : Pass σ Unit) := by
  intro o w e failed
  cases failed

theorem failsWith_record (v : Verdict) : FailsWith P (record v : Pass σ Unit) := by
  intro o w e failed
  cases failed

theorem failsWith_onWorld (f : World σ → α × World σ) : FailsWith P (onWorld f) := by
  intro o w e failed
  cases failed

theorem failsWith_pure (a : α) : FailsWith P (pure a : Pass σ α) := by
  intro o w e failed
  cases failed

theorem failsWith_ofExcept {r : Except SyncError α} (h : ∀ e, r = .error e → P e) :
    FailsWith P (ofExcept r : Pass σ α) := by
  intro o w e failed
  rw [onObject_ofExcept] at failed
  exact h e failed

theorem failsWith_tryWorld {f : World σ → Except SyncError α × World σ}
    (h : ∀ w e, (f w).1 = .error e → P e) : FailsWith P (tryWorld f) := by
  intro o w e failed
  rw [onObject_tryWorld] at failed
  exact h w e failed

theorem FailsWith.bind {p : Pass σ α} {f : α → Pass σ β} (hp : FailsWith P p)
    (hf : ∀ a, FailsWith P (f a)) : FailsWith P (p >>= f) := by
  intro o w e failed
  rcases h : p.onObject o w with ⟨e' | a, o', w'⟩
  · rw [onObject_bind_error h] at failed
    cases failed
    exact hp o w e (by rw [h])
  · rw [onObject_bind_ok h] at failed
    exact hf a o' w' e failed

/-- What goes on after an attempt may fail again with what the attempt failed with. -/
theorem FailsWith.bind_attempt {p : Pass σ α} {f : Except SyncError α → Pass σ β}
    (hp : FailsWith P p) (hf : ∀ r, (∀ e, r = .error e → P e) → FailsWith P (f r)) :
    FailsWith P (p.attempt >>= f) := by
  intro o w e failed
  rcases h : p.onObject o w with ⟨r, o', w'⟩
  rw [onObject_bind_attempt h] at failed
  refine hf r (fun e' same => ?_) o' w' e failed
  exact hp o w e' (by rw [h, same])

end

/-- What an action may do to the object at hand and to the world. -/
structure Frame (σ : Type) where
  rel : Object × World σ → Object × World σ → Prop
  refl : ∀ s, rel s s
  trans : ∀ {s t u}, rel s t → rel t u → rel s u

/-- The action stays within a frame, whatever it answers. -/
def Keeps (F : Frame σ) (p : Pass σ α) : Prop := ∀ o w, F.rel (o, w) (p.onObject o w).2

variable {F : Frame σ}

theorem keeps_pure (a : α) : Keeps F (pure a) := fun o w => F.refl (o, w)

theorem keeps_throw (e : SyncError) : Keeps F (throw e : Pass σ α) := fun o w => F.refl (o, w)

theorem keeps_object : Keeps F (object : Pass σ Object) := fun o w => F.refl (o, w)

theorem Keeps.bind {p : Pass σ α} {f : α → Pass σ β} (hp : Keeps F p) (hf : ∀ a, Keeps F (f a)) :
    Keeps F (p >>= f) := by
  intro o w
  have first := hp o w
  rcases h : p.onObject o w with ⟨r, o', w'⟩
  rw [h] at first
  cases r with
  | ok a =>
    rw [onObject_bind_ok h]
    exact F.trans first (hf a o' w')
  | error e =>
    rw [onObject_bind_error h]
    exact first

theorem Keeps.attempt {p : Pass σ α} (hp : Keeps F p) : Keeps F p.attempt := hp

theorem Keeps.rel {p : Pass σ α} (hp : Keeps F p) {o o' : Object} {w w' : World σ}
    {r : Except SyncError α} (run : p.onObject o w = (r, o', w')) : F.rel (o, w) (o', w') := by
  have kept := hp o w
  rw [run] at kept
  exact kept

theorem keeps_modifyObject {f : Object → Object} (h : ∀ o w, F.rel (o, w) (f o, w)) :
    Keeps F (modifyObject f) := h

theorem keeps_record {v : Verdict} (h : ∀ o w t, F.rel (o, w) (o.record v t, w)) :
    Keeps F (record v) := fun o w => h o w w.now

theorem keeps_tryWorld {f : World σ → Except SyncError α × World σ}
    (h : ∀ o w, F.rel (o, w) (o, (f w).2)) : Keeps F (tryWorld f) := by
  intro o w
  rw [onObject_tryWorld]
  exact h o w

end GatewaySync.Pass
