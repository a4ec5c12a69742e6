import GatewaySync.Proofs.Storage
/-!
# What calls do to the world

A call to the store is silent: it asks nothing of Konnect, and only a patch that takes effect changes
the store. A talk is a sequence of calls to Konnect with their answers; the log of the world grows by
exactly the talk, and the store moves as other writers move it.
-/
namespace GatewaySync

variable {σ : Type}

/-- What store calls alone can make of the state of the environment. -/
def Environment.Drift (env : Environment σ) : σ → σ → Prop :=
  Relation.ReflTransGen fun x y => ∃ call, (env.fault call x).2 = y

/-- Other writers keep to a relation whenever Konnect is called. -/
def Environment.Disturbs (env : Environment σ) (R : Store → Store → Prop) : Prop :=
  ∀ call s x, R s (env.disturb call s x).1

/-- Nobody else writes during a pass. Store calls may still fail, and Konnect may answer anything. -/
structure Environment.Solitary (env : Environment σ) : Prop where
  undisturbed : env.Disturbs fun s t => t = s
  present : ∀ call x, (env.fault call x).1 ≠ some .vanish

theorem Environment.Disturbs.of_undisturbed {env : Environment σ}
    (h : env.Disturbs fun s t => t = s) {R : Store → Store → Prop} (refl : ∀ s, R s s) :
    env.Disturbs R :=
  fun call s x => (h call s x).symm ▸ refl s

theorem Environment.Solitary.disturbs {env : Environment σ} (h : env.Solitary)
    {R : Store → Store → Prop} (refl : ∀ s, R s s) : env.Disturbs R :=
  h.undisturbed.of_undisturbed refl

/-- Nobody else writes during a pass and no write to the store fails. Reads may still fail. -/
structure Environment.Writable (env : Environment σ) : Prop where
  undisturbed : env.Disturbs fun s t => t = s
  status : ∀ key x, (env.fault (.patchStatus key) x).1 = none
  metadata : ∀ key x, (env.fault (.patchMetadata key) x).1 = none

def Environment.Readable (env : Environment σ) : Prop :=
  ∀ key x, (env.fault (.get key) x).1 = none

namespace World

variable (env : Environment σ)

structure Silent (w w' : World σ) : Prop where
  exchanges : w'.exchanges = w.exchanges
  outside : env.Drift w.outside w'.outside

variable {env}

theorem Silent.refl (w : World σ) : Silent env w w := ⟨rfl, .refl⟩

theorem Silent.trans {u v w : World σ} (h : Silent env u v) (h' : Silent env v w) :
    Silent env u w :=
  ⟨h'.exchanges.trans h.exchanges, h.outside.trans h'.outside⟩

variable (env)

theorem attempt_silent (call : StoreCall) (w : World σ) : Silent env w (w.attempt env call).2 :=
  ⟨rfl, .single ⟨call, rfl⟩⟩

@[simp] theorem attempt_store (call : StoreCall) (w : World σ) :
    (w.attempt env call).2.store = w.store := rfl

variable {env} in
theorem attempt_willing {call : StoreCall} {w : World σ}
    (willing : (env.fault call w.outside).1 = none) :
    w.attempt env call = (none, (w.attempt env call).2) := by
  rw [← willing]
  rfl

/-- A read answers what is stored, unless it fails. -/
theorem get_cases (key : Key) (w : World σ) :
    (∃ e, w.get env key = (.error (.api e), (w.attempt env (.get key)).2)) ∨
      w.get env key = (.ok (w.store.find? key), (w.attempt env (.get key)).2) := by
  unfold get
  rcases h : w.attempt env (.get key) with ⟨_ | ⟨e⟩ | _, w'⟩
  · have hs : w'.store = w.store := congrArg (fun r => r.2.store) h.symm
    exact .inr (by simp [hs])
  · exact .inl ⟨e, rfl⟩
  · have hs : w'.store = w.store := congrArg (fun r => r.2.store) h.symm
    exact .inr (by simp [hs])

theorem get_silent (key : Key) (w : World σ) : Silent env w (w.get env key).2 := by
  rcases get_cases env key w with ⟨e, h⟩ | h <;> rw [h] <;> exact attempt_silent env _ w

@[simp] theorem get_store (key : Key) (w : World σ) : (w.get env key).2.store = w.store := by
  rcases get_cases env key w with ⟨e, h⟩ | h <;> rw [h] <;> rfl

def Reading : World σ → World σ → Prop :=
  Relation.ReflTransGen fun w w' => ∃ key, (w.get env key).2 = w'

variable {env} in
theorem Reading.silent {w w' : World σ} (h : Reading env w w') : Silent env w w' := by
  induction h with
  | refl => exact .refl w
  | tail _ read ih =>
    obtain ⟨key, rfl⟩ := read
    exact ih.trans (get_silent env key _)

variable {env} in
theorem Reading.store {w w' : World σ} (h : Reading env w w') : w'.store = w.store := by
  induction h with
  | refl => rfl
  | tail _ read ih =>
    obtain ⟨key, rfl⟩ := read
    exact (get_store env key _).trans ih

theorem get_storeCalls (key : Key) (w : World σ) :
    (w.get env key).2.storeCalls = w.storeCalls ++ [.get key] := by
  rcases get_cases env key w with ⟨e, h⟩ | h <;> rw [h] <;> rfl

variable {env} in
theorem Reading.storeCalls {w w' : World σ} (h : Reading env w w') :
    ∃ keys : List Key, w'.storeCalls = w.storeCalls ++ keys.map .get := by
  induction h with
  | refl => exact ⟨[], (List.append_nil _).symm⟩
  | tail _ read ih =>
    obtain ⟨keys, reads⟩ := ih
    obtain ⟨key, rfl⟩ := read
    exact ⟨keys ++ [key], by rw [get_storeCalls, reads, List.map_append, List.append_assoc]; rfl⟩

/-- A status patch fails and writes nothing, or it takes effect on the revision it was made for. -/
theorem patchStatus_cases (o : Object) (w : World σ) :
    (∃ e w', w.patchStatus env o = (.error (.api e), w') ∧ Silent env w w' ∧ w'.store = w.store) ∨
      ∃ stored w', w.patchStatus env o = (.ok (), w') ∧ Silent env w w' ∧
        w.store.patchTarget o = .ok stored ∧
        w'.store = w.store.put (.managed (Store.statusPatched stored o)) := by
  have silent := attempt_silent env (.patchStatus o.key) w
  have store := attempt_store env (.patchStatus o.key) w
  unfold patchStatus
  rcases h : w.attempt env (.patchStatus o.key) with ⟨_ | ⟨e⟩ | _, v⟩ <;> rw [h] at silent store
  · rcases v.store.patchStatus_cases o with ⟨e, hp⟩ | ⟨stored, ht, hp⟩ <;> simp only [hp]
    · exact .inl ⟨e, v, rfl, silent, store⟩
    · exact .inr ⟨stored, _, rfl, silent.trans ⟨rfl, .refl⟩, store ▸ ht, store ▸ rfl⟩
  · exact .inl ⟨e, v, rfl, silent, store⟩
  · rcases v.store.patchStatus_cases o with ⟨e, hp⟩ | ⟨stored, ht, hp⟩ <;> simp only [hp]
    · exact .inl ⟨e, v, rfl, silent, store⟩
    · exact .inr ⟨stored, _, rfl, silent.trans ⟨rfl, .refl⟩, store ▸ ht, store ▸ rfl⟩

/-- What a metadata patch can come to. -/
theorem patchMetadata_cases (o : Object) (w : World σ) :
    (∃ e w', w.patchMetadata env o = (.error (.api e), w') ∧ Silent env w w' ∧
        w'.store = w.store) ∨
      (∃ w', w.patchMetadata env o = (.ok none, w') ∧ Silent env w w' ∧
        w'.store = w.store.erase o.key ∧
        ((env.fault (.patchMetadata o.key) w.outside).1 = some .vanish ∨
          ∃ stored, w.store.patchTarget o = .ok stored ∧ stored.metadata.isDeleting ∧
            o.metadata.finalizerList = [])) ∨
      ∃ stored w', w.patchMetadata env o = (.ok (w'.store.findObject? o.key), w') ∧
        Silent env w w' ∧ w.store.patchTarget o = .ok stored ∧
        w'.store = w.store.put (.managed (Store.metadataPatched stored o)) := by
  have silent := attempt_silent env (.patchMetadata o.key) w
  have store := attempt_store env (.patchMetadata o.key) w
  unfold patchMetadata
  rcases h : w.attempt env (.patchMetadata o.key) with ⟨_ | ⟨e⟩ | _, v⟩ <;> rw [h] at silent store
  · rcases v.store.patchMetadata_cases o with ⟨e, hp⟩ | ⟨stored, ht, hd, hp⟩ | ⟨stored, ht, hp⟩ <;>
      simp only [hp]
    · exact .inl ⟨e, v, rfl, silent, store⟩
    · exact .inr (.inl ⟨_, rfl, silent.trans ⟨rfl, .refl⟩, store ▸ rfl,
        .inr ⟨stored, store ▸ ht, hd⟩⟩)
    · simp only at store
      rw [store] at ht ⊢
      exact .inr (.inr ⟨stored, { v with store := w.store.put _ }, rfl,
        silent.trans ⟨rfl, .refl⟩, ht, rfl⟩)
  · exact .inl ⟨e, v, rfl, silent, store⟩
  · exact .inr (.inl ⟨_, rfl, silent.trans ⟨rfl, .refl⟩, store ▸ rfl,
      .inl (congrArg (·.1) h)⟩)

theorem patchStatus_silent (o : Object) (w : World σ) : Silent env w (w.patchStatus env o).2 := by
  rcases patchStatus_cases env o w with ⟨e, w', h, silent, -⟩ | ⟨stored, w', h, silent, -⟩ <;>
    rw [h] <;> exact silent

theorem patchMetadata_silent (o : Object) (w : World σ) :
    Silent env w (w.patchMetadata env o).2 := by
  rcases patchMetadata_cases env o w with ⟨e, w', h, silent, -⟩ | ⟨w', h, silent, -⟩ |
    ⟨stored, w', h, silent, -⟩ <;> rw [h] <;> exact silent

theorem patchMetadata_keepsStatus (k : Key) (o : Object) (w : World σ) :
    w.store.KeepsStatus k (w.patchMetadata env o).2.store := by
  rcases patchMetadata_cases env o w with ⟨e, w', h, -, hs⟩ | ⟨w', h, -, hs, -⟩ |
    ⟨stored, w', h, -, ht, hs⟩ <;> rw [h, hs]
  · exact Store.keepsStatus_refl k w.store
  · exact Store.keepsStatus_erase o.key
  · exact Store.keepsStatus_metadataPatched ht

theorem patchStatus_keepsStatus {k : Key} {o : Object} (hk : o.key ≠ k) (w : World σ) :
    w.store.KeepsStatus k (w.patchStatus env o).2.store := by
  rcases patchStatus_cases env o w with ⟨e, w', h, -, hs⟩ | ⟨stored, w', h, -, ht, hs⟩ <;>
    rw [h, hs]
  · exact Store.keepsStatus_refl k w.store
  · refine Store.keepsStatus_put_other ?_
    rw [Store.statusPatched_key, Store.key_of_patchTarget ht]
    exact hk

theorem patchStatus_elsewhere {o : Object} {key : Key} (other : o.key ≠ key) (w : World σ) :
    (w.patchStatus env o).2.store.find? key = w.store.find? key := by
  rcases patchStatus_cases env o w with ⟨e, w', h, -, hs⟩ | ⟨stored, w', h, -, ht, hs⟩ <;> rw [h, hs]
  have elsewhere : (Resource.managed (Store.statusPatched stored o)).key ≠ key := by
    change (Store.statusPatched stored o).key ≠ key
    rwa [Store.statusPatched_key, Store.key_of_patchTarget ht]
  rw [Store.find?_put, if_neg elsewhere]

theorem patchMetadata_elsewhere {o : Object} {key : Key} (other : o.key ≠ key) (w : World σ) :
    (w.patchMetadata env o).2.store.find? key = w.store.find? key := by
  rcases patchMetadata_cases env o w with ⟨e, w', h, -, hs⟩ | ⟨w', h, -, hs, -⟩ |
    ⟨stored, w', h, -, ht, hs⟩ <;> rw [h, hs]
  · rw [Store.find?_erase, if_neg other]
  · have elsewhere : (Resource.managed (Store.metadataPatched stored o)).key ≠ key := by
      change (Store.metadataPatched stored o).key ≠ key
      rwa [Store.metadataPatched_key, Store.key_of_patchTarget ht]
    rw [Store.find?_put, if_neg elsewhere]

theorem patchStatus_storeCalls (o : Object) (w : World σ) :
    (w.patchStatus env o).2.storeCalls = w.storeCalls ++ [.patchStatus o.key] := by
  have calls : (w.attempt env (.patchStatus o.key)).2.storeCalls =
    w.storeCalls ++ [.patchStatus o.key] := rfl
  unfold patchStatus
  rcases h : w.attempt env (.patchStatus o.key) with ⟨_ | _ | _, v⟩ <;> rw [h] at calls <;> exact calls

theorem patchMetadata_storeCalls (o : Object) (w : World σ) :
    (w.patchMetadata env o).2.storeCalls = w.storeCalls ++ [.patchMetadata o.key] := by
  have calls : (w.attempt env (.patchMetadata o.key)).2.storeCalls =
    w.storeCalls ++ [.patchMetadata o.key] := rfl
  unfold patchMetadata
  rcases h : w.attempt env (.patchMetadata o.key) with ⟨_ | _ | _, v⟩ <;> rw [h] at calls <;> exact calls

theorem ask_exchanges (call : RemoteCall) (w : World σ) :
    (w.ask env call).2.exchanges = w.exchanges ++ [⟨w.store, call, (w.ask env call).1⟩] := rfl

/-- A sequence of calls to Konnect, each with what the store held, and what was answered. -/
inductive Talks : World σ → List Exchange → World σ → Prop
  | done (w : World σ) : Talks w [] w
  | ask {w w' : World σ} (call : RemoteCall) {talk : List Exchange}
      (rest : Talks (w.ask env call).2 talk w') :
      Talks w (⟨w.store, call, (w.ask env call).1⟩ :: talk) w'

theorem talks_ask (call : RemoteCall) (w : World σ) :
    Talks env w [⟨w.store, call, (w.ask env call).1⟩] (w.ask env call).2 := .ask call (.done _)

variable {env}

theorem Talks.append {u v w : World σ} {first second : List Exchange} (h : Talks env u first v)
    (h' : Talks env v second w) : Talks env u (first ++ second) w := by
  induction h with
  | done => exact h'
  | ask call _ ih => exact .ask call (ih h')

theorem Talks.split {w w' : World σ} {first second : List Exchange}
    (h : Talks env w (first ++ second) w') : ∃ v, Talks env w first v ∧ Talks env v second w' := by
  induction first generalizing w with
  | nil => exact ⟨w, .done w, h⟩
  | cons x rest ih =>
    generalize same : x :: rest ++ second = said at h
    cases h with
    | done => cases same
    | ask call h =>
      cases same
      obtain ⟨v, first, second⟩ := ih h
      exact ⟨v, .ask call first, second⟩

theorem Talks.exchanges {w w' : World σ} {talk : List Exchange} (h : Talks env w talk w') :
    w'.exchanges = w.exchanges ++ talk := by
  induction h with
  | done => simp
  | ask call _ ih => rw [ih, ask_exchanges, List.append_assoc, List.singleton_append]

theorem Talks.storeCalls {v w : World σ} {talk : List Exchange} (h : Talks env v talk w) :
    w.storeCalls = v.storeCalls := by
  induction h with
  | done => rfl
  | ask call _ ih => exact ih

/-- A talk moves the store only as the other writers do. -/
theorem Talks.store {R : Store → Store → Prop} (refl : ∀ s, R s s)
    (trans : ∀ {s t u}, R s t → R t u → R s u) (others : env.Disturbs R) {w w' : World σ}
    {talk : List Exchange} (h : Talks env w talk w') : R w.store w'.store := by
  induction h with
  | done w => exact refl w.store
  | ask call _ ih => exact trans (others call _ _) ih

theorem Talks.store_eq (undisturbed : env.Disturbs fun s t => t = s) {w w' : World σ}
    {talk : List Exchange} (h : Talks env w talk w') : w'.store = w.store :=
  h.store (R := fun s t => t = s) (fun _ => rfl) (fun h h' => h'.trans h) undisturbed

/-- The first call of a talk was answered as the environment answers it. -/
theorem Talks.said {w w' : World σ} {talk : List Exchange} {s : Store} {call : RemoteCall}
    {answer : Except RemoteError call.Answer} (h : Talks env w (⟨s, call, answer⟩ :: talk) w') :
    answer = (w.ask env call).1 ∧ Talks env (w.ask env call).2 talk w' := by
  generalize same : (⟨s, call, answer⟩ :: talk : List Exchange) = said at h
  cases h with
  | done => cases same
  | ask c rest =>
    cases same
    exact ⟨rfl, rest⟩

theorem Talks.eq_of_nil {w w' : World σ} (h : Talks env w [] w') : w' = w := by
  cases h
  rfl

/-- What other writers keep of the store holds at every call of a talk. -/
theorem Talks.store_of_mem {P : Store → Prop} (others : env.Disturbs fun s t => P s → P t)
    {w w' : World σ} {talk : List Exchange} (h : Talks env w talk w') (hw : P w.store) :
    ∀ x ∈ talk, P x.store := by
  induction h with
  | done => simp
  | ask call _ ih => exact List.forall_mem_cons.mpr ⟨hw, ih (others call _ _ hw)⟩

theorem Talks.store_of_head {w w' : World σ} {talk : List Exchange} (h : Talks env w talk w') :
    ∀ x ∈ talk.head?, x.store = w.store := by
  cases h with
  | done => simp
  | ask => simp

end World

end GatewaySync
