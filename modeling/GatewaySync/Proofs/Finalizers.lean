import GatewaySync.Proofs.Cloud
import GatewaySync.Proofs.History
/-!
# When the finalizer is released

A pass adds the cleanup finalizer to an object that nobody deletes before it calls Konnect, and takes it
away only from one that is being deleted, after the entity was dismissed. Whoever else writes may come in
between: then the patch is refused, and the store is left as they made it. An object that was let go is
passed over without a word.
-/
namespace GatewaySync

variable {σ : Type}

/-- What others can make of the store during a pass over the object under a key: they write when Konnect
is called, and may remove the object as its metadata are written. -/
def Environment.Meddles (env : Environment σ) (k : Key) : Store → Store → Prop :=
  Relation.ReflTransGen fun s t => (∃ call x, (env.disturb call s x).1 = t) ∨
    (∃ call x, (env.fault call x).1 = some .vanish) ∧ t = s.erase k

theorem Environment.disturbs_meddles (env : Environment σ) (k : Key) : env.Disturbs (env.Meddles k) :=
  fun call _ x => .single (.inl ⟨call, x, rfl⟩)

namespace Store

/-- Whoever writes the object under a key changes its resource version. -/
def Versioned (k : Key) (s t : Store) : Prop :=
  ∀ o x, s.findObject? k = some o → t.findObject? k = some x →
    x.metadata.resourceVersion = o.metadata.resourceVersion → x = o

/-- The object of a given uid, if it is stored under the key, is being deleted and no finalizer asks for
a cleanup. -/
def LetGo (k : Key) (uid : Option String) (s : Store) : Prop :=
  ∀ o, s.findObject? k = some o → o.metadata.uid = uid →
    o.metadata.isDeleting = true ∧ o.metadata.hasCleanup = false

variable {k : Key} {uid : Option String} {s t : Store}

theorem LetGo.of_eq (same : t.findObject? k = s.findObject? k) (h : s.LetGo k uid) : t.LetGo k uid :=
  fun o stored => h o (same ▸ stored)

theorem LetGo.erase (k' : Key) (h : s.LetGo k uid) : (s.erase k').LetGo k uid := by
  intro o stored
  rw [findObject?_erase] at stored
  split_ifs at stored
  exact h o stored

/-- A patch keeps an object let go, unless it brings the finalizer back to it. -/
theorem LetGo.put {given old new : Object} (target : s.patchTarget given = .ok old)
    (same : new.key = old.key ∧ new.metadata.uid = old.metadata.uid ∧
      new.metadata.isDeleting = old.metadata.isDeleting)
    (without : s.findObject? k = some old → old.metadata.uid = uid →
      old.metadata.hasCleanup = false → new.metadata.hasCleanup = false)
    (h : s.LetGo k uid) : (s.put (.managed new)).LetGo k uid := by
  obtain ⟨key, uids, deleting⟩ := same
  intro o stored own
  have found := (patchTarget_eq_ok.mp target).1
  rw [findObject?_put, key, key_of_patchTarget target] at stored
  split_ifs at stored with hk
  · cases stored
    have own : old.metadata.uid = uid := uids.symm.trans own
    rw [hk] at found
    obtain ⟨gone, free⟩ := h old found own
    refine ⟨?_, without found own free⟩
    rw [written_isDeleting, deleting, gone]
  · exact h o stored own

end Store

namespace Metadata

@[simp] theorem withoutCleanup_hasCleanup (m : Metadata) : m.withoutCleanup.hasCleanup = false := by
  simp [withoutCleanup, hasCleanup, finalizerList]

end Metadata

namespace Reconcile

open Pass World Entity

variable {env : Environment σ} {settings : OperatorSettings} {k : Key} {uid : Option String}
  {o : Object} {w w' : World σ} {talk : List Exchange}

inductive Cleaned (env : Environment σ) (k : Key) (o : Object) (talk : List Exchange) (before : Store) :
    Except SyncError Action → Store → Prop
  | kept {e : SyncError} {after : Store} (others : env.Meddles k before after) :
      Cleaned env k o talk before (.error e) after
  /-- Somebody else removed the object as it was to be let go. -/
  | removed {after : Store} (dismissed : Dismissed o talk) (others : env.Meddles k before after)
      (absent : after.findObject? k = none) : Cleaned env k o talk before (.ok .awaitChange) after
  /-- All other finalizers are left in their order; without one the object goes away. -/
  | freed {s after : Store} (dismissed : Dismissed o talk) (others : env.Meddles k before s)
      (stored : s.findObject? k = some o)
      (patched : after = if o.metadata.finalizerList.filter (· != cleanupFinalizer) = [] then s.erase k
        else s.put (.managed (released o))) :
      Cleaned env k o talk before (.ok .awaitChange) after

/-- What is written of an object does not go away with it. -/
theorem not_last_of_written {given stored : Object} {answer : Option Object}
    (h : w.patchMetadata env given = (.ok answer, w'))
    (target : w.store.patchTarget given = .ok stored)
    (written : w'.store = w.store.put (.managed (Store.metadataPatched stored given))) :
    ¬ (stored.metadata.isDeleting ∧ given.metadata.finalizerList = []) := by
  intro last
  have revision : w'.store.revision = w.store.revision := by
    have erased : w.store.patchMetadata given = (.ok none, w.store.erase given.key) := by
      rw [Store.patchMetadata, target]
      exact if_pos last
    unfold World.patchMetadata at h
    rcases attempted : w.attempt env (.patchMetadata given.key) with ⟨_ | ⟨e⟩ | _, v⟩
    all_goals
      have store : v.store = w.store := congrArg (fun r => r.2.store) attempted.symm
      rw [attempted] at h
      simp only [store, erased] at h
      cases h
    · rfl
    · rfl
  rw [written] at revision
  exact absurd revision (Nat.succ_ne_self _)

/-- An entity is dismissed by one call at most, so whoever changes the object changes its version. -/
theorem stored_of_dismissed (versioned : env.Disturbs (Store.Versioned k)) (dismissed : Dismissed o talk)
    (talks : Talks env w talk w') (stored : w.store.findObject? k = some o) {x : Object}
    (found : w'.store.findObject? k = some x)
    (version : x.metadata.resourceVersion = o.metadata.resourceVersion) : x = o := by
  rcases dismissed with ⟨-, rfl⟩ | ⟨-, p, -, spoken⟩
  · rw [talks.eq_of_nil] at found
    exact Option.some.inj (found.symm.trans stored)
  · have once {s : Store} {answer : Except RemoteError Unit}
        (talks : Talks env w [⟨s, .delete p o.konnectId, answer⟩] w') : x = o := by
      rw [talks.said.2.eq_of_nil] at found
      exact versioned _ _ _ o x stored found version
    cases spoken with
    | deleted => exact once talks
    | gone => exact once talks

theorem Cleaning.cleaned (versioned : env.Disturbs (Store.Versioned k)) {r : Except SyncError Unit}
    (h : Cleaning env o w talk r w') (stored : w.store.findObject? k = some o)
    (deleting : o.metadata.isDeleting) :
    Cleaned env k o talk w.store (r.map fun _ => .awaitChange) w'.store := by
  have meddled {v : World σ} (talks : Talks env w talk v) : env.Meddles k w.store v.store :=
    talks.store (fun _ => .refl) .trans (env.disturbs_meddles k)
  have own : o.key = k := Store.key_of_findObject? stored
  have key : (Reconcile.released o).key = k := own
  cases h with
  | pathless => exact .kept .refl
  | refused _ _ _ talks => exact .kept (meddled talks)
  | @released _ v dismissed talks =>
    rcases patchMetadata_cases env (Reconcile.released o) v with ⟨e, u, hp, -, store⟩ |
      ⟨u, hp, -, store, why⟩ | ⟨old, u, hp, -, target, store⟩ <;> rw [hp]
    · exact .kept (store ▸ meddled talks)
    · rcases why with vanished | ⟨old, target, -, none⟩
      · refine .removed dismissed ((meddled talks).tail (.inr ⟨⟨_, _, vanished⟩, by rw [store, key]⟩)) ?_
        rw [store, Store.findObject?_erase, if_pos key]
      · obtain ⟨found, version⟩ := Store.patchTarget_eq_ok.mp target
        rw [key] at found
        obtain rfl := stored_of_dismissed versioned dismissed talks stored found version
        refine .freed dismissed (meddled talks) found ?_
        rw [store, key]
        exact (if_pos none).symm
    · obtain ⟨found, version⟩ := Store.patchTarget_eq_ok.mp target
      rw [key] at found
      obtain rfl := stored_of_dismissed versioned dismissed talks stored found version
      have last := not_last_of_written hp target store
      refine .freed dismissed (meddled talks) found ?_
      rw [store]
      exact (if_neg fun none => last ⟨deleting, none⟩).symm

/-- What is stored is read, unless the store can not be read. -/
theorem Course.unread_or_reads {r : Except SyncError Action} (h : Course env settings k w talk r w')
    (stored : w.store.findObject? k = some o) :
    (talk = [] ∧ w'.store = w.store ∧ ∃ e, r = .error e) ∨ ∃ w₁, Reads env k w o w₁ := by
  have same {x : Object} {w₁ : World σ} (reads : Reads env k w x w₁) : Reads env k w o w₁ := by
    obtain rfl := Option.some.inj (reads.stored.1.symm.trans stored)
    exact reads
  cases h with
  | unread read => exact .inl ⟨rfl, (get_eq read).2, _, rfl⟩
  | idle _ read =>
    refine .inr ⟨_, _, read, ?_⟩
    rcases get_cases env k w with ⟨e, got⟩ | got <;> rw [got] at read <;> cases read
    exact (Store.findObject?_eq w.store k).symm.trans stored
  | cleaned _ reads => exact .inr ⟨_, same reads⟩
  | synced _ reads => exact .inr ⟨_, same reads⟩

theorem Course.lets_go (versioned : env.Disturbs (Store.Versioned k)) {r : Except SyncError Action}
    (h : Course env settings k w talk r w') (stored : w.store.findObject? k = some o)
    (deleting : o.metadata.isDeleting = true) (held : o.metadata.hasCleanup = true) :
    Cleaned env k o talk w.store r w'.store := by
  have cleanup := Object.need_eq_cleanup.mpr ⟨deleting, held⟩
  rcases h.unread_or_reads stored with ⟨rfl, store, e, rfl⟩ | ⟨w₁, reads⟩
  · exact .kept (store ▸ .refl)
  · rcases h.of_reads reads with ⟨need, -⟩ | ⟨-, s, v, b, course, rfl, rfl⟩ | ⟨need, -⟩
    · rw [cleanup] at need
      cases need
    · exact reads.stored.2 ▸ course.cleaned versioned (reads.stored.2 ▸ stored) deleting
    · rw [cleanup] at need
      cases need

/-- Once the finalizer is gone from an object that is being deleted, no pass puts it back. -/
theorem Cleaned.letGo {r : Except SyncError Action} {s t : Store} (h : Cleaned env k o talk s r t)
    (ok : r.isOk) (stored : s.findObject? k = some o) (deleting : o.metadata.isDeleting = true) :
    t.LetGo k o.metadata.uid := by
  have key : o.key = k := Store.key_of_findObject? stored
  intro x after own
  cases h with
  | kept => cases ok
  | removed _ _ absent =>
    rw [absent] at after
    cases after
  | freed _ _ _ patched =>
    rw [patched] at after
    split_ifs at after
    · rw [Store.findObject?_erase, if_pos rfl] at after
      cases after
    · rw [Store.findObject?_put, if_pos (show (released o).key = k from key)] at after
      cases after
      exact ⟨(Store.written_isDeleting _ _).trans deleting, o.metadata.withoutCleanup_hasCleanup⟩

theorem patchStatus_letGo (m : Object) (letGo : w.store.LetGo k uid) :
    (w.patchStatus env m).2.store.LetGo k uid := by
  rcases patchStatus_cases env m w with ⟨e, v, h, -, store⟩ | ⟨old, v, h, -, target, store⟩ <;>
    rw [h, store]
  · exact letGo
  · exact letGo.put target ⟨rfl, rfl, rfl⟩ fun _ _ free => free

theorem persistStatus_letGo {fetched : Option Status} {m m' : Object} {s : Except SyncError Unit}
    (h : (persistStatus env fetched).onObject m w = (s, m', w')) (letGo : w.store.LetGo k uid) :
    w'.store.LetGo k uid := by
  rw [onObject_persistStatus] at h
  split_ifs at h <;> cases h
  · exact patchStatus_letGo m letGo
  · exact letGo

theorem patchMetadata_letGo {given : Object}
    (without : ∀ old, w.store.findObject? k = some old → old.key = given.key →
      old.metadata.uid = uid → given.metadata.hasCleanup = false)
    (letGo : w.store.LetGo k uid) : (w.patchMetadata env given).2.store.LetGo k uid := by
  rcases patchMetadata_cases env given w with ⟨e, v, h, -, store⟩ | ⟨v, h, -, store, -⟩ |
    ⟨old, v, h, -, target, store⟩ <;> rw [h, store]
  · exact letGo
  · exact letGo.erase _
  · exact letGo.put target ⟨rfl, rfl, rfl⟩ fun stored own _ =>
      without old stored (Store.key_of_patchTarget target) own

section

variable (meanwhile : env.Disturbs fun s t => s.LetGo k uid → t.LetGo k uid)

include meanwhile

theorem Talks.letGo (h : Talks env w talk w') (letGo : w.store.LetGo k uid) : w'.store.LetGo k uid :=
  h.store (R := fun s t => s.LetGo k uid → t.LetGo k uid) (fun _ => id) (fun h h' => h' ∘ h) meanwhile
    letGo

theorem Cleaning.letGo {r : Except SyncError Unit} (h : Cleaning env o w talk r w')
    (letGo : w.store.LetGo k uid) : w'.store.LetGo k uid := by
  cases h with
  | pathless => exact letGo
  | refused _ _ _ talks => exact Talks.letGo meanwhile talks letGo
  | released _ talks =>
    exact patchMetadata_letGo (fun _ _ _ _ => o.metadata.withoutCleanup_hasCleanup)
      (Talks.letGo meanwhile talks letGo)

theorem Syncing.letGo {r : Except SyncError Outcome} {m : Object} (h : Syncing env o w talk r m w')
    (stored : w.store.findObject? o.key = some o) (live : o.metadata.isDeleting = false)
    (letGo : w.store.LetGo k uid) : w'.store.LetGo k uid := by
  have prepared {q : Except SyncError Readiness} {b : Except SyncError Bool} {o₁ o₂ : Object}
      {w₁ w₂ : World σ} (resolved : (Resolve.references env).onObject o w = (q, o₁, w₁))
      (prepared : (persistMetadata env o.metadata).onObject o₁ w₁ = (b, o₂, w₂)) :
      w₂.store.LetGo k uid := by
    have leaves := Resolve.leaves_of_references resolved
    have store : w₁.store = w.store := leaves.store
    rcases persistMetadata_world prepared with rfl | rfl
    · exact store ▸ letGo
    · refine patchMetadata_letGo (fun old found key own => ?_) (store ▸ letGo)
      rw [store] at found
      have same : o.key = k := by
        rw [← Store.key_of_findObject? found, key, guarded_key, leaves.key]
      rw [same] at stored
      obtain rfl := Option.some.inj (found.symm.trans stored)
      rw [(letGo old found own).1] at live
      cases live
  cases h with
  | unready resolved _ _ kept =>
    have store := (Resolve.leaves_of_references resolved).store
    exact persistStatus_letGo kept (store ▸ letGo)
  | unprepared resolved prepared' => exact prepared resolved prepared'
  | gone resolved prepared' => exact prepared resolved prepared'
  | spoken resolved prepared' _ talks _ _ kept =>
    exact persistStatus_letGo kept (Talks.letGo meanwhile talks (prepared resolved prepared'))

theorem Course.letGo {k' : Key} {r : Except SyncError Action}
    (h : Course env settings k' w talk r w') (letGo : w.store.LetGo k uid) : w'.store.LetGo k uid := by
  cases h with
  | unread read => exact (get_eq read).2 ▸ letGo
  | idle _ read => exact letGo.of_eq (congrArg (Store.findObject? · k) (get_eq read).2)
  | cleaned _ reads _ course =>
    rw [← reads.stored.2] at letGo
    have kept := course.letGo meanwhile letGo
    exact kept
  | synced _ reads need course =>
    obtain ⟨stored, store⟩ := reads.stored
    rw [← store] at stored letGo
    rw [← reads.key] at stored
    have kept := course.letGo meanwhile stored (Object.need_eq_sync.mp need) letGo
    exact kept

end

section

variable (meanwhile : env.Disturbs fun s t => t.findObject? k = s.findObject? k)

theorem patchMetadata_other {given : Object} (other : given.key ≠ k) (w : World σ) :
    (w.patchMetadata env given).2.store.findObject? k = w.store.findObject? k := by
  rw [Store.findObject?_eq, patchMetadata_elsewhere env other w, Store.findObject?_eq]

theorem persistStatus_other {fetched : Option Status} {m m' : Object} {s : Except SyncError Unit}
    (h : (persistStatus env fetched).onObject m w = (s, m', w')) (other : m.key ≠ k) :
    w'.store.findObject? k = w.store.findObject? k := by
  rw [onObject_persistStatus] at h
  split_ifs at h <;> cases h
  · rw [Store.findObject?_eq, patchStatus_elsewhere env other w, Store.findObject?_eq]
  · rfl

include meanwhile

theorem Talks.leaves (h : Talks env w talk w') : w'.store.findObject? k = w.store.findObject? k :=
  h.store (R := fun s t => t.findObject? k = s.findObject? k) (fun _ => rfl) (fun h h' => h'.trans h)
    meanwhile

theorem Cleaning.leaves {r : Except SyncError Unit} (h : Cleaning env o w talk r w')
    (other : o.key ≠ k) : w'.store.findObject? k = w.store.findObject? k := by
  cases h with
  | pathless => rfl
  | refused _ _ _ talks => exact Talks.leaves meanwhile talks
  | released _ talks =>
    have patched : (Reconcile.released o).key ≠ k := other
    exact (patchMetadata_other patched _).trans (Talks.leaves meanwhile talks)

theorem Syncing.leaves {r : Except SyncError Outcome} {m : Object} (h : Syncing env o w talk r m w')
    (other : o.key ≠ k) : w'.store.findObject? k = w.store.findObject? k := by
  have prepared {q : Except SyncError Readiness} {b : Except SyncError Bool} {o₁ o₂ : Object}
      {w₁ w₂ : World σ} (resolved : (Resolve.references env).onObject o w = (q, o₁, w₁))
      (prepared : (persistMetadata env o.metadata).onObject o₁ w₁ = (b, o₂, w₂)) :
      w₂.store.findObject? k = w.store.findObject? k := by
    have leaves := Resolve.leaves_of_references resolved
    have store : w₁.store = w.store := leaves.store
    rcases persistMetadata_world prepared with rfl | rfl
    · rw [store]
    · rw [← store]
      exact patchMetadata_other (((guarded_key o₁).trans leaves.key).trans_ne other) _
  have final : m.key ≠ k := h.key.trans_ne other
  cases h with
  | unready resolved _ _ kept =>
    have store := (Resolve.leaves_of_references resolved).store
    exact (persistStatus_other kept final).trans (congrArg (Store.findObject? · k) store)
  | unprepared resolved prepared' => exact prepared resolved prepared'
  | gone resolved prepared' => exact prepared resolved prepared'
  | spoken resolved prepared' _ talks _ _ kept =>
    exact (persistStatus_other kept final).trans
      ((Talks.leaves meanwhile talks).trans (prepared resolved prepared'))

theorem Course.leaves {k' : Key} {r : Except SyncError Action}
    (h : Course env settings k' w talk r w') (other : k' ≠ k) :
    w'.store.findObject? k = w.store.findObject? k := by
  cases h with
  | unread read => rw [(get_eq read).2]
  | idle _ read => exact congrArg (Store.findObject? · k) (get_eq read).2
  | cleaned _ reads _ course =>
    have kept := course.leaves meanwhile (reads.key.trans_ne other)
    rwa [reads.stored.2] at kept
  | synced _ reads _ course =>
    have kept := course.leaves meanwhile (reads.key.trans_ne other)
    rwa [reads.stored.2] at kept

end

def Visit.LetsGo (k : Key) (uid : Option String) (v : Visit σ) : Prop :=
  v.key = k ∧ v.result.isOk ∧ ∃ o, v.before.store.findObject? k = some o ∧ o.metadata.uid = uid ∧
    o.metadata.isDeleting = true ∧ o.metadata.hasCleanup = true

variable {others : World σ → World σ → Prop} {start : World σ} {visits : List (Visit σ)}

theorem Visit.LetsGo.brings (versioned : env.Disturbs (Store.Versioned k)) {v : Visit σ}
    (course : Course env settings v.key v.before v.talk v.result v.after) (h : v.LetsGo k uid) :
    v.after.store.LetGo k uid := by
  obtain ⟨rfl, ok, o, stored, rfl, deleting, held⟩ := h
  exact (course.lets_go versioned stored deleting held).letGo ok stored deleting

end Reconcile

namespace Scene

open Reconcile

/-- The service, held back by somebody else too. -/
def held : Object := { web with metadata := { web.metadata with finalizers := some ["example.org/backup"] } }

end Scene

end GatewaySync
