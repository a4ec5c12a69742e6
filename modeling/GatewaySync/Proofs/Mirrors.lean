import GatewaySync.Proofs.Endings
/-!
# What is stored of the object at hand

A pass works on a copy. Once what it writes was taken, the stored object says what the copy says, as far as
a later pass reads it.
-/
namespace GatewaySync

/-- The second object is the first one, but for status, finalizers, owners and revision. -/
structure Object.Kin (o x : Object) : Prop where
  spec : x.spec.stored = o.spec.stored
  ns : x.metadata.namespaceText = o.metadata.namespaceText
  name : x.metadata.nameText = o.metadata.nameText
  generation : x.metadata.generationValue = o.metadata.generationValue
  deleting : x.metadata.isDeleting = o.metadata.isDeleting

/-- The second object is the first one as it was stored, status apart: its desired state, and of its
metadata what a pass reads. -/
structure Object.Mirrors (o x : Object) : Prop extends Object.Kin o x where
  finalizers : x.metadata.finalizers = o.metadata.finalizers
  owners : x.metadata.ownerList = o.metadata.ownerList

namespace Object

variable {o m x : Object}

theorem Kin.trans (h : o.Kin m) (h' : m.Kin x) : o.Kin x where
  spec := h'.spec.trans h.spec
  ns := h'.ns.trans h.ns
  name := h'.name.trans h.name
  generation := h'.generation.trans h.generation
  deleting := h'.deleting.trans h.deleting

theorem kin_of_eq {finalizers : Option (List String)} {owners : Option (List OwnerReference)}
    {version : Option String} (spec : x.spec.stored = o.spec.stored)
    (metadata : x.metadata = { o.metadata with
      finalizers := finalizers, ownerReferences := owners, resourceVersion := version }) : o.Kin x := by
  refine ⟨spec, ?_, ?_, ?_, ?_⟩ <;> rw [metadata] <;> rfl

theorem Kin.kind (h : o.Kin x) : x.kind = o.kind := by
  rw [Object.kind, ← Spec.stored_kind, h.spec, Spec.stored_kind, Object.kind]

theorem Kin.key (h : o.Kin x) : x.key = o.key := by
  simp only [Object.key, h.kind, h.ns, h.name]

theorem Kin.need (h : o.Kin x) (need : o.need = .sync) : x.need = .sync :=
  need_eq_sync.mpr (h.deleting.trans (need_eq_sync.mp need))

theorem Kin.resembles {σ : Type} {env env' : Environment σ} {T : Tandem env env' o.kind} (h : o.Kin x)
    (known : (x.konnectId = "" ↔ o.konnectId = "") ∨
      ∀ op kind key, T.fails (.missingControlPlaneId op kind key)) : T.Resembles o x :=
  ⟨rfl, h.spec, h.ns, h.name, known⟩

theorem mirrors_of_eq (version : Option String) (spec : x.spec.stored = o.spec.stored)
    (metadata : x.metadata = { o.metadata with resourceVersion := version }) : o.Mirrors x := by
  refine ⟨kin_of_eq spec metadata, ?_, ?_⟩ <;> simp only [metadata, Metadata.ownerList]

theorem Mirrors.trans (h : o.Mirrors m) (h' : m.Mirrors x) : o.Mirrors x where
  toKin := h.toKin.trans h'.toKin
  finalizers := h'.finalizers.trans h.finalizers
  owners := h'.owners.trans h.owners

theorem mirrors_written (s : Store) (o : Object) : o.Mirrors (s.written o) where
  spec := o.spec.withResolved_withResolved none none
  ns := rfl
  name := rfl
  generation := rfl
  deleting := Store.written_isDeleting s o
  finalizers := rfl
  owners := rfl

/-- What a script edits is no part of what is mirrored. -/
theorem edited_mirrors {t : Instant} {es : List Edit} : (o.edited t es).Mirrors x ↔ o.Mirrors x :=
  ⟨.trans (mirrors_of_eq _ (o.edited_spec_stored t es) (o.edited_metadata t es)),
    .trans (mirrors_of_eq _ (o.edited_spec_stored t es).symm (o.edited_metadata t es).symm)⟩

theorem Mirrors.hasCleanup (h : o.Mirrors x) : x.metadata.hasCleanup = o.metadata.hasCleanup := by
  simp only [Metadata.hasCleanup, Metadata.finalizerList, h.finalizers]

end Object

namespace Reconcile

open Pass World

variable {σ : Type} {env : Environment σ} {f o o' o₁ m : Object} {w w' v : World σ}

theorem guarded_of_hasCleanup (kept : o.metadata.hasCleanup = true) : guarded o = o := by
  rw [guarded, Metadata.withCleanup, if_pos kept]

/-- Preparing an object changes nothing of it but finalizers and revision. -/
theorem persistMetadata_keeps {fetched : Metadata} {b : Except SyncError Bool}
    (h : (persistMetadata env fetched).onObject o w = (b, o', w')) :
    o'.spec = o.spec ∧ o'.status = o.status ∧ ∃ finalizers version,
      o'.metadata = { o.metadata with finalizers := finalizers, resourceVersion := version } := by
  obtain ⟨version, rfl⟩ := persistMetadata_memory h
  refine ⟨rfl, rfl, o.metadata.withCleanup.finalizers, version, ?_⟩
  exact congrArg (fun m : Metadata => { m with resourceVersion := version }) o.metadata.withCleanup_eq

/-- Once finalizer and owner are stored, the stored object mirrors the one at hand. -/
theorem persistMetadata_mirrors (h : (persistMetadata env f.metadata).onObject o w = (.ok true, o', w'))
    (stored : w.store.findObject? o.key = some f) (spec : o.spec.stored = f.spec.stored)
    (metadata : o.metadata = { f.metadata with ownerReferences := o.metadata.ownerReferences }) :
    ∃ s, w'.store.findObject? o.key = some s ∧ o'.Mirrors s ∧ s.status = f.status := by
  rw [onObject_persistMetadata] at h
  split_ifs at h with patches
  · rcases patchMetadata_cases env (guarded o) w with ⟨e, v, hp, -⟩ | ⟨v, hp, -⟩ |
      ⟨g, v, hp, -, target, store⟩ <;> rw [hp] at h
    · cases h
    · cases h
    · have key : g.key = (guarded o).key := Store.key_of_patchTarget target
      have old := (Store.patchTarget_eq_ok.mp target).1
      rw [guarded_key, stored] at old
      cases old
      have found : v.store.findObject? (guarded o).key =
          some (w.store.written (Store.metadataPatched f (guarded o))) := by
        rw [store, Store.findObject?_put, Store.metadataPatched_key, if_pos key]
      rw [found] at h
      cases h
      rw [guarded_key] at found
      refine ⟨_, found, .trans ?_ (Object.mirrors_written _ _), rfl⟩
      have guards : (guarded o).metadata = { o.metadata with finalizers := (guarded o).metadata.finalizers } :=
        o.metadata.withCleanup_eq
      rw [metadata] at guards
      refine Object.mirrors_of_eq f.metadata.resourceVersion spec.symm ?_
      simp only [atRevision, Store.metadataPatched]
      rw [guards]
  · cases h
    simp only [Bool.or_eq_true, Bool.not_eq_true', decide_eq_true_eq, not_or, Bool.not_eq_false,
      Decidable.not_not] at patches
    rw [guarded_of_hasCleanup patches.1]
    refine ⟨f, stored, ⟨⟨spec.symm, ?_, ?_, ?_, ?_⟩, ?_, patches.2.symm⟩, rfl⟩ <;> rw [metadata] <;> rfl

theorem persistStatus_of_eq (same : m.status = o.status) (w : World σ) :
    (persistStatus env o.status).onObject m w = (.ok (), m, w) := by
  rw [onObject_persistStatus, if_neg (not_not.mpr same)]

/-- Whatever comes of storing the status, the stored object mirrors the one at hand, and it has its status
once that was stored. -/
theorem persistStatus_mirrors {fetched : Option Status} {s : Except SyncError Unit}
    (h : (persistStatus env fetched).onObject m w = (s, m, w'))
    (stored : w.store.findObject? m.key = some f) (mirrors : m.Mirrors f) (same : f.status = fetched)
    (lasting : fetched.isSome → m.status.isSome) :
    ∃ x, w'.store.findObject? m.key = some x ∧ m.Mirrors x ∧
      x.status = if s.isOk then m.status else fetched := by
  cases s with
  | error e => exact ⟨f, (persistStatus_failed h).1 ▸ stored, mirrors, same⟩
  | ok _ =>
    rw [onObject_persistStatus] at h
    split_ifs at h with changed
    · rcases patchStatus_cases env m w with ⟨e, v, hp, -⟩ | ⟨g, v, hp, -, target, store⟩ <;>
        rw [hp] at h <;> cases h
      have old := (Store.patchTarget_eq_ok.mp target).1
      rw [stored] at old
      cases old
      have found : v.store.findObject? m.key = some (w.store.written (Store.statusPatched f m)) := by
        rw [store, Store.findObject?_put, Store.statusPatched_key, if_pos mirrors.key]
      refine ⟨_, found, mirrors.trans ((?_ : f.Mirrors _).trans (Object.mirrors_written _ _)), ?_⟩
      · exact Object.mirrors_of_eq f.metadata.resourceVersion rfl rfl
      · change m.status.or f.status = m.status
        rcases hs : m.status with _ | status
        · rw [hs] at lasting changed
          cases hf : fetched with
          | none => exact absurd hf.symm changed
          | some _ => simp [hf] at lasting
        · rfl
    · cases h
      exact ⟨f, stored, mirrors, same.trans (Decidable.not_not.mp changed).symm⟩

theorem persistMetadata_key {fetched : Metadata} {b : Except SyncError Bool}
    (h : (persistMetadata env fetched).onObject o w = (b, o', w')) : o'.key = o.key := by
  obtain ⟨version, rfl⟩ := persistMetadata_memory h
  exact guarded_key o

theorem Reads.now {k : Key} (h : Reads env k w o w') : w'.now = w.now := by
  obtain ⟨found, read, -⟩ := h
  exact (congrArg (fun r => r.2.now) read).symm.trans (get_now env k w)

theorem persistMetadata_elsewhere {fetched : Metadata} {b : Except SyncError Bool} {key : Key}
    (h : (persistMetadata env fetched).onObject o w = (b, o', w')) (other : o.key ≠ key) :
    w'.store.find? key = w.store.find? key := by
  rcases persistMetadata_world h with rfl | rfl
  · rfl
  · exact patchMetadata_elsewhere env ((guarded_key o).trans_ne other) w

theorem persistStatus_elsewhere {fetched : Option Status} {r : Except SyncError Unit} {key : Key}
    (h : (persistStatus env fetched).onObject o w = (r, o', w')) (other : o.key ≠ key) :
    w'.store.find? key = w.store.find? key := by
  rw [onObject_persistStatus] at h
  split_ifs at h <;> cases h
  · exact patchStatus_elsewhere env other w
  · rfl

/-- The references of an object came to an object that was prepared. What is stored of it in the end mirrors
that one, among whatever else was stored before. -/
structure Readied (env : Environment σ) (o o₁ o₂ x : Object) (w v v₂ : World σ) (s : Store) : Prop where
  resolved : (Resolve.references env).onObject o w = (.ok .ready, o₁, v)
  prepared : (persistMetadata env o.metadata).onObject o₁ v = (.ok true, o₂, v₂)
  stored : s.findObject? o.key = some x
  mirrors : o₂.Mirrors x
  elsewhere : ∀ key, o.key ≠ key → s.find? key = w.store.find? key

/-- The entity was written after that, well or not, and the status that came of it is stored. -/
structure Written (env : Environment σ) (o o₁ o₂ x : Object) (w v v₂ : World σ) (s : Store)
    (r : Except SyncError Unit) (ds : List Edit) : Prop extends Readied env o o₁ o₂ x w v v₂ s where
  concludes : Concludes env o₂ r ds
  status : x.status = (o₂.edited v.now ds).status

section

variable {o₂ x : Object} {v₂ v₃ : World σ} {s : Store} {r : Except SyncError Unit} {ds : List Edit}

/-- Whether or not its status could be stored, an object whose entity was written is stored as it was
prepared. -/
theorem readied_of_spoken (undisturbed : env.Disturbs fun s t => t = s) {talk : List Exchange}
    {kept : Except SyncError Unit} (stored : w.store.findObject? o.key = some o)
    (resolved : (Resolve.references env).onObject o w = (.ok .ready, o₁, v))
    (prepared : (persistMetadata env o.metadata).onObject o₁ v = (.ok true, o₂, v₂))
    (talks : Talks env v₂ talk v₃) (concludes : Concludes env o₂ r ds)
    (persisted : (persistStatus env o.status).onObject (o₂.edited v.now ds) v₃ =
      (kept, o₂.edited v.now ds, w')) :
    ∃ x, Readied env o o₁ o₂ x w v v₂ w'.store ∧
      x.status = if kept.isOk then (o₂.edited v.now ds).status else o.status := by
  have leaves := Resolve.leaves_of_references resolved
  have there : v.store.findObject? o₁.key = some o := by
    rw [leaves.key]
    exact (congrArg (Store.findObject? · o.key) leaves.store).trans stored
  obtain ⟨f, found, mirrors, same⟩ := persistMetadata_mirrors prepared there leaves.spec leaves.metadata
  have key₂ : o₂.key = o.key := (persistMetadata_key prepared).trans leaves.key
  have key : (o₂.edited v.now ds).key = o.key := (o₂.edited_key _ _).trans key₂
  have silent : v₃.store = v₂.store := talks.store_eq undisturbed
  rw [leaves.key, ← key, ← silent] at found
  obtain ⟨x, after, mirrored, status⟩ := persistStatus_mirrors persisted found
    (Object.edited_mirrors.mpr mirrors) same fun _ => concludes.status v.now
  rw [key] at after
  refine ⟨x, ⟨resolved, prepared, after, Object.edited_mirrors.mp mirrored, fun key' other => ?_⟩, status⟩
  rw [persistStatus_elsewhere persisted (key.trans_ne other), silent,
    persistMetadata_elsewhere prepared (leaves.key.trans_ne other)]
  exact congrArg (Store.find? · key') leaves.store

namespace Readied

variable (h : Readied env o o₁ o₂ x w v v₂ s)

include h

theorem leaves : Resolve.Leaves env (o, w) (o₁, v) := Resolve.leaves_of_references h.resolved

theorem kin : o.Kin x := by
  obtain ⟨spec, -, finalizers, version, prepared⟩ := persistMetadata_keeps h.prepared
  rw [h.leaves.metadata] at prepared
  exact .trans (Object.kin_of_eq ((congrArg Spec.stored spec).trans h.leaves.spec) prepared)
    h.mirrors.toKin

theorem hasCleanup : x.metadata.hasCleanup = true := by
  obtain ⟨version, rfl⟩ := persistMetadata_memory h.prepared
  rw [h.mirrors.hasCleanup]
  exact o₁.metadata.withCleanup_hasCleanup

theorem ownerList : x.metadata.ownerList = o₁.metadata.ownerList := by
  obtain ⟨-, -, finalizers, version, metadata⟩ := persistMetadata_keeps h.prepared
  rw [h.mirrors.owners, metadata]
  rfl

theorem owned {t u : Instant} {es : List Edit} {desired : Option OwnerReference}
    (run : o₁ = (o.edited t es).ownedBy desired) (family : ∀ d ∈ desired, d.inFamily = true) :
    (x.edited u es).ownedBy desired = x.edited u es := by
  refine Object.ownedBy_of_owned o.metadata.ownerList family ?_
  rw [Object.edited_metadata, h.ownerList, run, Object.ownedBy_ownerList, Object.edited_metadata]

theorem prepared_again (env' : Environment σ) {x₁ : Object} (metadata : x₁.metadata = x.metadata)
    (u : World σ) : (persistMetadata env' x.metadata).onObject x₁ u = (.ok true, x₁, u) := by
  have kept : x₁.metadata.hasCleanup = true := metadata ▸ h.hasCleanup
  rw [onObject_persistMetadata, metadata, h.hasCleanup, if_neg (by simp), guarded_of_hasCleanup kept]

end Readied

theorem Written.settled (h : Written env o o₁ o₂ x w v v₂ s r ds) {es : List Edit}
    {desired : Option OwnerReference} (run : o₁ = (o.edited w.now es).ownedBy desired)
    (within : Tandem.Within (Tandem.referenceSlots o.kind) es) : ∀ e ∈ es, e.Settled x := by
  intro e he
  obtain ⟨-, status, finalizers, version, metadata⟩ := persistMetadata_keeps h.prepared
  have said : e.Settled (o.edited w.now es) := Edit.settled_edited o w.now
    (fun s _ => within.once (Tandem.referenceSlots_nodup _) s) he
  have resolved : e.Settled o₂ := by
    refine said.congr ?_ ?_
    · rw [status, run, Object.ownedBy_status]
    · rw [metadata, run, Object.ownedBy_metadata]
      rfl
  have wrote : e.Settled (o₂.edited v.now ds) := by
    have edits (s : Slot) (hs : s ∈ e.slot?) : s ∈ Tandem.referenceSlots o.kind :=
      within.subset (List.mem_filterMap.mpr ⟨e, he, hs⟩)
    exact h.concludes.keeps v.now edits resolved
  refine wrote.congr h.status.symm ?_
  rw [Object.edited_metadata, h.mirrors.generation]

end

end Reconcile

end GatewaySync
