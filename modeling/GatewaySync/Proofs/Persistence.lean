import GatewaySync.Proofs.Course
/-!
# What a pass leaves behind

A pass adds exactly its dialogue to the log, and of all objects it can change the status of one, the
object that it is about. The status that is stored afterwards is the fetched one or the one that the
pass came to, and the latter if the pass went well.
-/
namespace GatewaySync.Reconcile

open Pass World Entity

variable {σ : Type} {env : Environment σ}

variable {o o' : Object} {w w' : World σ} {talk : List Exchange} {k : Key}

theorem persistStatus_silent {fetched : Option Status} {s : Except SyncError Unit}
    (h : (persistStatus env fetched).onObject o w = (s, o', w')) : Silent env w w' := by
  rw [onObject_persistStatus] at h
  split_ifs at h <;> cases h
  · exact patchStatus_silent env o w
  · exact .refl w

theorem persistStatus_keepsStatus {fetched : Option Status} {s : Except SyncError Unit}
    (h : (persistStatus env fetched).onObject o w = (s, o', w')) (hk : o.key ≠ k) :
    w.store.KeepsStatus k w'.store := by
  rw [onObject_persistStatus] at h
  split_ifs at h <;> cases h
  · exact patchStatus_keepsStatus env hk w
  · exact Store.keepsStatus_refl k w.store

/-- The stored status afterwards is the one that was fetched or the one to be stored, and the latter if
storing it went well. -/
theorem persistStatus_settles {fetched : Option Status} {s : Except SyncError Unit}
    (h : (persistStatus env fetched).onObject o w = (s, o', w'))
    (lasting : fetched.isSome → o.status.isSome)
    (before : ∀ x, w.store.findObject? o.key = some x → x.status = fetched) {x : Object}
    (after : w'.store.findObject? o.key = some x) :
    (∃ y, w.store.findObject? o.key = some y ∧ x.metadata.uid = y.metadata.uid) ∧
      (x.status = fetched ∨ x.status = o.status) ∧ (s.isOk → x.status = o.status) := by
  rw [onObject_persistStatus] at h
  split_ifs at h with hc
  · rcases patchStatus_cases env o w with ⟨e, v, hp, -, hv⟩ | ⟨y, v, hp, -, target, hv⟩ <;>
      rw [hp] at h <;> cases h <;> rw [hv] at after
    · exact ⟨⟨x, after, rfl⟩, .inl (before x after), by simp [Except.isOk, Except.toBool]⟩
    · have old := (Store.patchTarget_eq_ok.mp target).1
      have key : y.key = o.key := Store.key_of_patchTarget target
      rw [Store.findObject?_put, Store.statusPatched_key, if_pos key] at after
      cases after
      obtain ⟨status, hs⟩ : ∃ status, o.status = some status := by
        rcases hs : o.status with _ | status
        · cases hf : fetched with
          | none => exact absurd (hs.trans hf.symm) hc
          | some _ => simp [hf, hs] at lasting
        · exact ⟨status, rfl⟩
      have written : (w.store.written (Store.statusPatched y o)).status = o.status := by
        simp [Store.statusPatched, hs]
      exact ⟨⟨y, old, rfl⟩, .inr written, fun _ => written⟩
  · cases h
    have same : o.status = fetched := Decidable.not_not.mp hc
    exact ⟨⟨x, after, rfl⟩, .inl (before x after), fun _ => (before x after).trans same.symm⟩

theorem persistStatus_failed {fetched : Option Status} {e : SyncError}
    (h : (persistStatus env fetched).onObject o w = (.error e, o', w')) :
    w'.store = w.store ∧ ∃ a, e = .api a := by
  rw [onObject_persistStatus] at h
  split_ifs at h
  · rcases patchStatus_cases env o w with ⟨a, v, hp, -, store⟩ | ⟨g, v, hp, -⟩ <;> rw [hp] at h <;>
      cases h
    exact ⟨store, a, rfl⟩
  · cases h

/-- Storing finalizer and owner is at most one patch. -/
theorem persistMetadata_world {fetched : Metadata} {b : Except SyncError Bool}
    (h : (persistMetadata env fetched).onObject o w = (b, o', w')) :
    w' = w ∨ w' = (w.patchMetadata env (guarded o)).2 := by
  rw [onObject_persistMetadata] at h
  split_ifs at h
  · rcases hp : w.patchMetadata env (guarded o) with ⟨_ | _ | _, w''⟩ <;> rw [hp] at h <;> cases h <;>
      exact .inr rfl
  · cases h
    exact .inl rfl

theorem persistMetadata_failed {fetched : Metadata} {e : SyncError}
    (h : (persistMetadata env fetched).onObject o w = (.error e, o', w')) :
    w'.store = w.store ∧ ∃ a, e = .api a := by
  rw [onObject_persistMetadata] at h
  split_ifs at h
  · rcases patchMetadata_cases env (guarded o) w with ⟨a, v, hp, -, store⟩ | ⟨v, hp, -⟩ |
      ⟨g, v, hp, -⟩ <;> rw [hp] at h
    · cases h
      exact ⟨store, a, rfl⟩
    · cases h
    · cases found : v.store.findObject? (guarded o).key <;> rw [found] at h <;> cases h
  · cases h

/-- A pass stops quietly only if the object is not stored any more. -/
theorem persistMetadata_gone {fetched : Metadata}
    (h : (persistMetadata env fetched).onObject o w = (.ok false, o', w')) :
    w'.store.findObject? o.key = none := by
  rw [onObject_persistMetadata] at h
  split_ifs at h
  · rcases patchMetadata_cases env (guarded o) w with ⟨e, v, hp, -⟩ | ⟨v, hp, -, erased, -⟩ |
      ⟨stored, v, hp, -, target, written⟩ <;> rw [hp] at h
    · cases h
    · cases h
      rw [erased, Store.findObject?_erase, if_pos (guarded_key o)]
    · have key : stored.key = (guarded o).key := Store.key_of_patchTarget target
      rw [written, Store.findObject?_put, Store.metadataPatched_key, if_pos key] at h
      cases h
  · cases h

theorem persistMetadata_silent {fetched : Metadata} {b : Except SyncError Bool}
    (h : (persistMetadata env fetched).onObject o w = (b, o', w')) : Silent env w w' := by
  rcases persistMetadata_world h with rfl | rfl
  · exact .refl w'
  · exact patchMetadata_silent env _ w

theorem persistMetadata_keepsStatus {fetched : Metadata} {b : Except SyncError Bool}
    (h : (persistMetadata env fetched).onObject o w = (b, o', w')) (k : Key) :
    w.store.KeepsStatus k w'.store := by
  rcases persistMetadata_world h with rfl | rfl
  · exact Store.keepsStatus_refl k w'.store
  · exact patchMetadata_keepsStatus env k _ w

theorem persistMetadata_memory {fetched : Metadata} {b : Except SyncError Bool}
    (h : (persistMetadata env fetched).onObject o w = (b, o', w')) :
    ∃ version, o' =
      { guarded o with metadata := { (guarded o).metadata with resourceVersion := version } } := by
  rw [onObject_persistMetadata] at h
  split_ifs at h
  · rcases hp : w.patchMetadata env (guarded o) with ⟨_ | _ | _, w''⟩ <;> rw [hp] at h <;> cases h <;>
      exact ⟨_, rfl⟩
  · cases h
    exact ⟨_, rfl⟩

/-- A prepared object has the entity of the one that was read, is searched for by the same mark, and
leads to where its references led. -/
structure Prepared (o resolved prepared : Object) : Prop where
  key : prepared.key = o.key
  konnectId : prepared.konnectId = o.konnectId
  listFilter : prepared.listFilter = o.listFilter
  path : prepared.path .delete = resolved.path .delete

theorem prepared_of_resolved {q : Except SyncError Readiness} {b : Except SyncError Bool}
    {o₁ o₂ : Object} {w₁ w₂ : World σ} {fetched : Metadata}
    (resolved : (Resolve.references env).onObject o w = (q, o₁, w₁))
    (prepared : (persistMetadata env fetched).onObject o₁ w₁ = (b, o₂, w₂)) : Prepared o o₁ o₂ := by
  have leaves := Resolve.leaves_of_references resolved
  obtain ⟨version, rfl⟩ := persistMetadata_memory prepared
  have key : (guarded o₁).key = o.key := (guarded_key o₁).trans leaves.key
  have uid : (guarded o₁).metadata.uid = o.metadata.uid := by
    rw [guarded, Metadata.withCleanup_eq, leaves.metadata]
  exact ⟨key, leaves.konnectId, Object.listFilter_congr key uid,
    Object.path_delete_congr (guarded_key o₁) rfl rfl⟩

theorem silent_of_prepared {q : Except SyncError Readiness} {b : Except SyncError Bool}
    {o₁ o₂ : Object} {w₁ w₂ : World σ} {fetched : Metadata}
    (resolved : (Resolve.references env).onObject o w = (q, o₁, w₁))
    (prepared : (persistMetadata env fetched).onObject o₁ w₁ = (b, o₂, w₂)) : Silent env w w₂ :=
  (Resolve.leaves_of_references resolved).silent.trans (persistMetadata_silent prepared)

def Guards (k : Key) (s : Store) : Prop :=
  ∃ o, s.findObject? k = some o ∧ o.metadata.hasCleanup ∧ o.metadata.isDeleting = false

/-- A pass goes on to Konnect only with the finalizer in the store, at the revision it knows. -/
theorem persistMetadata_stored {fetched : Metadata} {f : Object}
    (h : (persistMetadata env fetched).onObject o w = (.ok true, o', w'))
    (stored : w.store.findObject? o.key = some f)
    (version : f.metadata.resourceVersion = o.metadata.resourceVersion)
    (finalizers : f.metadata.finalizers = o.metadata.finalizers) :
    ∃ s, w'.store.findObject? o.key = some s ∧ s.metadata.hasCleanup ∧
      s.metadata.isDeleting = f.metadata.isDeleting ∧
      s.metadata.resourceVersion = o'.metadata.resourceVersion := by
  rw [onObject_persistMetadata] at h
  split_ifs at h with hc
  · rcases patchMetadata_cases env (guarded o) w with ⟨e, v, hp, -⟩ | ⟨v, hp, -⟩ |
      ⟨g, v, hp, -, target, hv⟩ <;> rw [hp] at h
    · cases h
    · cases h
    · have key : g.key = (guarded o).key := Store.key_of_patchTarget target
      have found : v.store.findObject? (guarded o).key =
          some (w.store.written (Store.metadataPatched g (guarded o))) := by
        rw [hv, Store.findObject?_put, Store.metadataPatched_key, if_pos key]
      have old := (Store.patchTarget_eq_ok.mp target).1
      rw [guarded_key, stored] at old
      cases old
      rw [found] at h
      cases h
      rw [guarded_key] at found
      refine ⟨_, found, ?_, Store.written_isDeleting _ _, rfl⟩
      exact o.metadata.withCleanup_hasCleanup
  · cases h
    have kept : o.metadata.hasCleanup = true := by
      simp only [Bool.or_eq_true, not_or, Bool.not_eq_true, Bool.not_eq_false'] at hc
      exact hc.1
    refine ⟨f, stored, ?_, rfl, ?_⟩
    · simpa [Metadata.hasCleanup, Metadata.finalizerList, finalizers] using kept
    · simp [guarded, Metadata.withCleanup, kept, version]

theorem Cleaning.exchanges {r : Except SyncError Unit} (h : Cleaning env o w talk r w') :
    w'.exchanges = w.exchanges ++ talk := by
  cases h with
  | pathless => simp
  | refused _ _ _ talks => exact talks.exchanges
  | released _ talks => rw [(patchMetadata_silent env _ _).exchanges, talks.exchanges]

theorem Syncing.exchanges {r : Except SyncError Outcome} {m : Object}
    (h : Syncing env o w talk r m w') :
    w'.exchanges = w.exchanges ++ talk := by
  cases h with
  | unready resolved _ _ kept =>
    have silent := (Resolve.leaves_of_references resolved).silent.trans (persistStatus_silent kept)
    rw [silent.exchanges, List.append_nil]
  | unprepared resolved prepared =>
    rw [(silent_of_prepared resolved prepared).exchanges, List.append_nil]
  | gone resolved prepared =>
    rw [(silent_of_prepared resolved prepared).exchanges, List.append_nil]
  | spoken resolved prepared _ talks _ _ kept =>
    rw [(persistStatus_silent kept).exchanges, talks.exchanges,
      (silent_of_prepared resolved prepared).exchanges]

theorem Syncing.learns {r : Except SyncError Outcome} {m : Object}
    (h : Syncing env o w talk r m w') :
    (talk = [] ∧ m.konnectId = o.konnectId) ∨
      ∃ o₂ ok id, Spoken o₂ talk ok id ∧ o₂.konnectId = o.konnectId ∧ m.konnectId = id := by
  cases h with
  | unready resolved _ noted =>
    exact .inl ⟨rfl, noted.id.trans (Resolve.leaves_of_references resolved).konnectId⟩
  | unprepared | gone => exact .inl ⟨rfl, rfl⟩
  | spoken resolved prepared spoken _ learns =>
    exact .inr ⟨_, _, _, spoken, (prepared_of_resolved resolved prepared).konnectId, learns.id⟩

theorem get_eq {r : Except SyncError (Option Resource)} (h : w.get env k = (r, w')) :
    Silent env w w' ∧ w'.store = w.store := by
  have silent := get_silent env k w
  have store := get_store env k w
  rw [h] at silent store
  exact ⟨silent, store⟩

theorem found_of_get {found : Option Resource} (read : w.get env k = (.ok found, w')) :
    found.bind Resource.object? = w.store.findObject? k := by
  rw [Store.findObject?_eq]
  rcases get_cases env k w with ⟨e, got⟩ | got <;> rw [got] at read <;> cases read
  rfl

theorem Reads.stored (h : Reads env k w o w') :
    w.store.findObject? k = some o ∧ w'.store = w.store := by
  obtain ⟨found, read, fetched⟩ := h
  exact ⟨(found_of_get read).symm.trans fetched, (get_eq read).2⟩

/-- Where reads do not fail, what is stored is read. -/
theorem reads_of_readable (readable : env.Readable) (stored : w.store.findObject? k = some o) :
    Reads env k w o (w.get env k).2 := by
  rw [Store.findObject?_eq] at stored
  refine ⟨w.store.find? k, ?_, stored⟩
  rw [World.get, attempt_willing (readable k w.outside)]
  rfl

theorem Reads.key (h : Reads env k w o w') : o.key = k := Store.key_of_findObject? h.stored.1

theorem Reads.own_stored (h : Reads env k w o w') : w'.store.findObject? o.key = some o := by
  rw [h.stored.2, h.key]
  exact h.stored.1

theorem Reads.silent (h : Reads env k w o w') : Silent env w w' := by
  obtain ⟨found, read, -⟩ := h
  exact (get_eq read).1

/-- With the references ready, the finalizer is stored at the revision that the pass knows. -/
theorem Reads.stored_of_prepared {o₁ o₂ : Object} {w₀ w₁ w₂ : World σ}
    {r : Except SyncError Readiness} {fetched : Metadata} (reads : Reads env k w o w₀)
    (resolved : (Resolve.references env).onObject o w₀ = (r, o₁, w₁))
    (prepared : (persistMetadata env fetched).onObject o₁ w₁ = (.ok true, o₂, w₂)) :
    ∃ s, w₂.store.findObject? k = some s ∧ s.metadata.hasCleanup ∧
      s.metadata.isDeleting = o.metadata.isDeleting ∧
      s.metadata.resourceVersion = o₂.metadata.resourceVersion := by
  have leaves := Resolve.leaves_of_references resolved
  have key : o₁.key = k := leaves.key.trans reads.key
  have stored : w₁.store.findObject? o₁.key = some o := by
    rw [leaves.key, leaves.store]
    exact reads.own_stored
  rw [← key]
  exact persistMetadata_stored prepared stored (by rw [leaves.metadata]) (by rw [leaves.metadata])

theorem Cleaning.keepsStatus (others : env.Disturbs (Store.KeepsStatus k))
    {r : Except SyncError Unit} (h : Cleaning env o w talk r w') :
    w.store.KeepsStatus k w'.store := by
  cases h with
  | pathless => exact Store.keepsStatus_refl k w.store
  | refused _ _ _ talks => exact talks.store (Store.keepsStatus_refl k) Store.KeepsStatus.trans others
  | released _ talks =>
    exact (talks.store (Store.keepsStatus_refl k) Store.KeepsStatus.trans others).trans
      (patchMetadata_keepsStatus env k _ _)

theorem Syncing.key {r : Except SyncError Outcome} {m : Object} (h : Syncing env o w talk r m w') :
    m.key = o.key := by
  cases h with
  | unready resolved _ noted =>
    exact noted.key.trans (Resolve.leaves_of_references resolved).key
  | unprepared | gone => rfl
  | spoken resolved prepared _ _ learns =>
    exact learns.key.trans (prepared_of_resolved resolved prepared).key

theorem Syncing.keepsStatus_other (others : env.Disturbs (Store.KeepsStatus k))
    {r : Except SyncError Outcome} {m : Object} (h : Syncing env o w talk r m w') (hk : o.key ≠ k) :
    w.store.KeepsStatus k w'.store := by
  have other : m.key ≠ k := h.key ▸ hk
  cases h with
  | unready resolved _ _ kept =>
    rw [← (Resolve.leaves_of_references resolved).store]
    exact persistStatus_keepsStatus kept other
  | unprepared resolved prepared =>
    rw [← (Resolve.leaves_of_references resolved).store]
    exact persistMetadata_keepsStatus prepared k
  | gone resolved prepared =>
    rw [← (Resolve.leaves_of_references resolved).store]
    exact persistMetadata_keepsStatus prepared k
  | spoken resolved prepared _ talks _ _ kept =>
    rw [← (Resolve.leaves_of_references resolved).store]
    exact (persistMetadata_keepsStatus prepared k).trans
      ((talks.store (Store.keepsStatus_refl k) Store.KeepsStatus.trans others).trans
        (persistStatus_keepsStatus kept other))

/-- The status that is stored after a sync is the one that was read or the one that the sync came to,
and the latter if it went well. -/
theorem Syncing.settles (others : env.Disturbs (Store.KeepsStatus k)) {r : Except SyncError Outcome}
    {m : Object} (h : Syncing env o w talk r m w') (stored : w.store.findObject? k = some o)
    {x : Object} (after : w'.store.findObject? k = some x) :
    x.metadata.uid = o.metadata.uid ∧ (x.status = o.status ∨ x.status = m.status) ∧
      (r.isOk → x.status = m.status) := by
  have kept {v : World σ} {s : Except SyncError Unit} (prior : w.store.KeepsStatus k v.store)
      (kept : (persistStatus env o.status).onObject m v = (s, m, w'))
      (lasting : o.status.isSome → m.status.isSome) :
      x.metadata.uid = o.metadata.uid ∧ (x.status = o.status ∨ x.status = m.status) ∧
        (s.isOk → x.status = m.status) := by
    have same (y : Object) (hy : v.store.findObject? k = some y) :
        y.metadata.uid = o.metadata.uid ∧ y.status = o.status := by
      obtain ⟨o₀, read, uid, status⟩ := prior y hy
      rw [stored] at read
      cases read
      exact ⟨uid, status⟩
    have key : m.key = k := h.key.trans (Store.key_of_findObject? stored)
    rw [← key] at after same
    obtain ⟨⟨y, hy, uid⟩, status, ok⟩ :=
      persistStatus_settles kept lasting (fun y hy => (same y hy).2) after
    exact ⟨uid.trans (same y hy).1, status, ok⟩
  have unsettled (keeps : w.store.KeepsStatus k w'.store) :
      x.metadata.uid = o.metadata.uid ∧ x.status = o.status := by
    obtain ⟨o₀, read, uid, status⟩ := keeps x after
    rw [stored] at read
    cases read
    exact ⟨uid, status⟩
  cases h with
  | unready resolved _ noted kept' =>
    have leaves := Resolve.leaves_of_references resolved
    have settled := kept (leaves.store ▸ Store.keepsStatus_refl k _) kept' fun hs =>
      noted.status (leaves.status hs)
    exact ⟨settled.1, settled.2.1, fun ok => settled.2.2 (isOk_of_bind ok)⟩
  | unprepared resolved prepared =>
    have same := unsettled ((Resolve.leaves_of_references resolved).store ▸
      persistMetadata_keepsStatus prepared k)
    exact ⟨same.1, .inl same.2, fun _ => same.2⟩
  | gone resolved prepared =>
    have same := unsettled ((Resolve.leaves_of_references resolved).store ▸
      persistMetadata_keepsStatus prepared k)
    exact ⟨same.1, .inl same.2, fun _ => same.2⟩
  | spoken resolved prepared _ talks _ status kept' =>
    have leaves := Resolve.leaves_of_references resolved
    have prior := (persistMetadata_keepsStatus prepared k).trans
      (talks.store (Store.keepsStatus_refl k) Store.KeepsStatus.trans others)
    have settled := kept (leaves.store ▸ prior) kept' fun _ => status
    exact ⟨settled.1, settled.2.1, fun ok => settled.2.2 (isOk_of_bind ok)⟩

theorem Reads.unique {v v' : World σ} (h : Reads env k w o v) (h' : Reads env k w o' v') :
    o = o' ∧ v = v' := by
  obtain ⟨found, read, fetched⟩ := h
  obtain ⟨found', read', fetched'⟩ := h'
  rw [read] at read'
  cases read'
  rw [fetched] at fetched'
  cases fetched'
  exact ⟨rfl, rfl⟩

variable {settings : OperatorSettings} {r : Except SyncError Action}

theorem Course.of_unread (h : Course env settings k w talk r w')
    (unread : ∀ o w₁, ¬ Reads env k w o w₁) :
    talk = [] ∧ Silent env w w' ∧ w'.store = w.store := by
  cases h with
  | unread read => exact ⟨rfl, get_eq read⟩
  | idle _ read =>
    obtain ⟨silent, store⟩ := get_eq read
    exact ⟨rfl, ⟨silent.exchanges, silent.outside⟩, store⟩
  | cleaned _ reads => exact absurd reads (unread _ _)
  | synced _ reads => exact absurd reads (unread _ _)

/-- The need of the object that is read decides what kind of course the pass takes. -/
theorem Course.of_reads {w₁ : World σ} (h : Course env settings k w talk r w')
    (reads : Reads env k w o w₁) :
    (o.need = .nothing ∧ talk = [] ∧ Silent env w w' ∧ w'.store = w.store) ∨
      (o.need = .cleanup ∧ ∃ s v b, Cleaning env o w₁ talk s v ∧ w' = { v with backoff := b } ∧
        r = s.map fun _ => .awaitChange) ∨
      (o.need = .sync ∧ ∃ s m v b, Syncing env o w₁ talk s m v ∧ w' = { v with backoff := b } ∧
        r = s.map (nextLook settings)) := by
  cases h with
  | unread read =>
    obtain ⟨found, read', -⟩ := reads
    rw [read] at read'
    cases read'
  | idle _ read idle =>
    obtain ⟨silent, store⟩ := get_eq read
    obtain ⟨found, read', fetched⟩ := reads
    rw [read] at read'
    cases read'
    exact .inl ⟨idle o fetched, rfl, ⟨silent.exchanges, silent.outside⟩, store⟩
  | cleaned b reads' need course =>
    obtain ⟨rfl, rfl⟩ := reads.unique reads'
    exact .inr (.inl ⟨need, _, _, b, course, rfl, rfl⟩)
  | synced b reads' need course =>
    obtain ⟨rfl, rfl⟩ := reads.unique reads'
    exact .inr (.inr ⟨need, _, _, _, b, course, rfl, rfl⟩)

theorem Course.exchanges (h : Course env settings k w talk r w') :
    w'.exchanges = w.exchanges ++ talk := by
  cases h with
  | unread read => rw [(get_eq read).1.exchanges, List.append_nil]
  | idle _ read => exact (get_eq read).1.exchanges.trans (List.append_nil _).symm
  | cleaned _ reads _ course =>
    exact course.exchanges.trans (congrArg (· ++ talk) reads.silent.exchanges)
  | synced _ reads _ course =>
    exact course.exchanges.trans (congrArg (· ++ talk) reads.silent.exchanges)

/-- A pass over one object keeps the status of every other one. -/
theorem Course.keepsStatus_other {k' : Key} (others : env.Disturbs (Store.KeepsStatus k'))
    (h : Course env settings k w talk r w') (hk : k ≠ k') : w.store.KeepsStatus k' w'.store := by
  cases h with
  | unread read => exact (get_eq read).2 ▸ Store.keepsStatus_refl k' w.store
  | idle _ read => exact Store.keepsStatus_of_eq (congrArg (·.findObject? k') (get_eq read).2)
  | cleaned _ reads _ course =>
    have kept := course.keepsStatus others
    rw [reads.stored.2] at kept
    exact kept
  | synced _ reads _ course =>
    have kept := course.keepsStatus_other others (reads.key ▸ hk)
    rw [reads.stored.2] at kept
    exact kept

/-- Only the pass over an object that nobody deletes stores a status. -/
theorem Course.keepsStatus (others : env.Disturbs (Store.KeepsStatus k))
    (h : Course env settings k w talk r w')
    (idle : ∀ o w₁, Reads env k w o w₁ → o.need ≠ .sync) : w.store.KeepsStatus k w'.store := by
  cases h with
  | unread read => exact (get_eq read).2 ▸ Store.keepsStatus_refl k w.store
  | idle _ read => exact Store.keepsStatus_of_eq (congrArg (·.findObject? k) (get_eq read).2)
  | cleaned _ reads _ course =>
    have kept := course.keepsStatus others
    rw [reads.stored.2] at kept
    exact kept
  | synced _ reads need => exact absurd need (idle _ _ reads)

/-- Either the pass syncs what is stored, or it keeps every status. -/
theorem Course.sync_or_keepsStatus (others : env.Disturbs (Store.KeepsStatus k))
    (h : Course env settings k w talk r w') :
    (∃ o w₁ s m v b, Reads env k w o w₁ ∧ o.need = .sync ∧ Syncing env o w₁ talk s m v ∧
        w' = { v with backoff := b } ∧ r = s.map (nextLook settings)) ∨
      w.store.KeepsStatus k w'.store := by
  by_cases syncs : ∃ o w₁, Reads env k w o w₁ ∧ o.need = .sync
  · obtain ⟨o, w₁, reads, need⟩ := syncs
    rcases h.of_reads reads with ⟨other, -⟩ | ⟨other, -⟩ | ⟨-, s, m, v, b, course, after, result⟩
    · cases need.symm.trans other
    · cases need.symm.trans other
    · exact .inl ⟨o, w₁, s, m, v, b, reads, need, course, after, result⟩
  · exact .inr (h.keepsStatus others fun o w₁ reads need => syncs ⟨o, w₁, reads, need⟩)

end GatewaySync.Reconcile
