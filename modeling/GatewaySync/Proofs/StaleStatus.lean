import GatewaySync.Proofs.Destination
import GatewaySync.Proofs.Mirrors
/-!
# A stale status does not reach Konnect

Of the status that it finds, a pass only makes use of the id of the entity. The coordinates that paths and
bodies name are resolved before anything is said, each for the kinds that need it. So passes over stores that
differ in the rest of that status say the same and come to the same.
-/
namespace GatewaySync

open Object (slots)

variable {σ : Type}

/-- What happens outside does not depend on what is stored. -/
def Environment.Aloof (env : Environment σ) : Prop :=
  ∀ call s t y, (env.disturb call t y).2 = (env.disturb call s y).2

namespace Entity

/-- A path and a body name the control plane if the kind lives in one, and the parent if the kind has one. -/
theorem alike_of_resolved {a b : Object} (version : Option String) (spec : b.spec = a.spec)
    (metadata : b.metadata = { a.metadata with resourceVersion := version })
    (id : b.konnectId = a.konnectId)
    (home : a.kind.controlPlaneScoped = true → b.controlPlaneId = a.controlPlaneId)
    (child : a.kind.parentKind?.isSome = true → b.parentId = a.parentId) : Alike a b := by
  have kind : b.kind = a.kind := congrArg Spec.kind spec
  have keyText : b.keyText = a.keyText := by rw [Object.keyText, metadata]; rfl
  have uidTag : b.metadata.uidTag = a.metadata.uidTag := by rw [metadata]; rfl
  have tags : b.tags = a.tags := by rw [Object.tags, metadata, kind, spec]; rfl
  have labels : b.metadata.identityLabels b.kind = a.metadata.identityLabels a.kind := by
    rw [metadata, kind]
    rfl
  refine
    { kind, keyText, id, uidTag
      path := fun op => ?_
      body := ?_
      listFilter := by rw [Object.listFilter, Object.listFilter, kind, uidTag] }
  · have plugin : b.lacksPlugin op = a.lacksPlugin op := by rw [Object.lacksPlugin, kind, spec]; rfl
    have direct (inside : a.kind.controlPlaneScoped = true) :
        b.controlPlanePath op = a.controlPlanePath op := by
      rw [Object.controlPlanePath, home inside, kind, keyText]
      rfl
    have nested (parent : ManagedKind) (inside : a.kind.controlPlaneScoped = true)
        (under : a.kind.parentKind?.isSome = true) : b.nestedPath op parent = a.nestedPath op parent := by
      rw [Object.nestedPath, home inside, child under, kind, keyText]
      rfl
    unfold Object.path
    rw [plugin, kind, keyText]
    split
    · rfl
    · rename_i same
      exact nested _ (by rw [same]; rfl) (by rw [same]; rfl)
    · rename_i same
      exact nested _ (by rw [same]; rfl) (by rw [same]; rfl)
    · rename_i same
      rw [direct (by rw [same]; rfl)]
    · rename_i outside _ _ _
      exact direct (by cases h : a.kind <;> first | rfl | exact absurd h outside)
  · unfold Object.body Object.bodyWith
    rw [spec, tags, labels]
    split <;> rename_i same
    all_goals first | rfl | rw [child (by rw [Object.kind, same]; rfl)]

end Entity

namespace Reconcile

open Pass World Entity Tandem

variable {env : Environment σ} {settings : OperatorSettings} {kind : ManagedKind} {ns name : String}
  {k : Key} {o o' o₁ o₁' o₂ o₂' m : Object} {w w' v v' v₂ v₂' v₃ : World σ}
  {q : Except SyncError Readiness} {r : Except SyncError Unit} {es : List Edit}

/-- Runs in worlds that are the same outside, and in which the same was said since given times. -/
def aligned (env : Environment σ) (readable : env.Readable) (kind : ManagedKind)
    (said said' : List RemoteCall) (t t' : Instant) : Tandem env env kind where
  now := t
  now' := t'
  near w w' := w'.outside = w.outside ∧
    ∃ calls, w.remoteCalls = said ++ calls ∧ w'.remoteCalls = said' ++ calls
  fails _ := False
  fails' _ := False
  drift call w w' near := by
    refine ⟨?_, near.2⟩
    change (env.fault call w'.outside).2 = (env.fault call w.outside).2
    rw [near.1]
  reads key w w' _ := .inr (.inr (by rw [readable.refusal, readable.refusal]))

theorem remoteCalls_ask (call : RemoteCall) (w : World σ) :
    (w.ask env call).2.remoteCalls = w.remoteCalls ++ [call] := by
  rw [remoteCalls, ask_exchanges, List.map_append]
  rfl

theorem aligned_asks (undisturbed : env.Disturbs fun s t => t = s) (aloof : env.Aloof)
    (readable : env.Readable) (said said' : List RemoteCall) (t t' : Instant) :
    (aligned env readable kind said said' t t').Asks where
  sure _ := id
  sure' _ := id
  answers call w w' beside := by
    obtain ⟨outside, calls, here, there⟩ := beside.near
    have disturbed : (env.disturb call w'.store w'.outside).2 = (env.disturb call w.store w.outside).2 := by
      rw [outside]
      exact aloof call _ _ _
    have store (y : World σ) : (y.ask env call).2.store = y.store := undisturbed call y.store y.outside
    refine ⟨?_, fun key other => ?_, ⟨?_, calls ++ [call], ?_, ?_⟩, beside.now, beside.now'⟩
    · change (env.answer call (env.disturb call w'.store w'.outside).2).1 = _
      rw [disturbed]
      rfl
    · rw [store, store]
      exact beside.store key other
    · change (env.answer call (env.disturb call w'.store w'.outside).2).2 = _
      rw [disturbed]
      rfl
    · rw [remoteCalls_ask, here, List.append_assoc]
    · rw [remoteCalls_ask, there, List.append_assoc]

theorem persistMetadata_outside {fetched : Metadata} {b : Except SyncError Bool}
    (h : (persistMetadata env fetched).onObject o w = (b, o', w')) :
    w'.outside =
      if !o.metadata.hasCleanup || o.metadata.ownerList ≠ fetched.ownerList then
        (env.fault (.patchMetadata o.key) w.outside).2
      else w.outside := by
  have patched : (w.patchMetadata env (guarded o)).2.outside =
      (env.fault (.patchMetadata (guarded o).key) w.outside).2 := by
    have attempted : (w.attempt env (.patchMetadata (guarded o).key)).2.outside =
        (env.fault (.patchMetadata (guarded o).key) w.outside).2 := rfl
    unfold patchMetadata
    rcases ha : w.attempt env (.patchMetadata (guarded o).key) with ⟨_ | _ | _, u⟩ <;>
      rw [ha] at attempted <;> exact attempted
  rw [guarded_key] at patched
  rw [onObject_persistMetadata] at h
  split at h
  · rename_i needed
    rw [if_pos needed, ← patched]
    rcases hp : w.patchMetadata env (guarded o) with ⟨_ | _ | _, u⟩ <;> rw [hp] at h <;> cases h <;> rfl
  · rename_i settled
    rw [if_neg settled]
    cases h
    rfl

theorem persistMetadata_aligned {readable : env.Readable} {said said' : List RemoteCall} {t t' : Instant}
    (beside : (aligned env readable kind said said' t t').Beside v v') {b b' : Except SyncError Bool}
    (mine : o₁.key.kind = .managed kind) (key : o₁'.key = o₁.key) (metadata : o₁'.metadata = o₁.metadata)
    (fetched : o'.metadata = o.metadata)
    (h : (persistMetadata env o.metadata).onObject o₁ v = (b, o₂, v₂))
    (h' : (persistMetadata env o'.metadata).onObject o₁' v' = (b', o₂', v₂')) :
    (aligned env readable kind said said' t t').Beside v₂ v₂' := by
  obtain ⟨outside, calls, here, there⟩ := beside.near
  refine ⟨fun key' other => ?_, ⟨?_, calls, ?_, ?_⟩, ?_, ?_⟩
  · have apart : o₁.key ≠ key' := fun same => other (same ▸ mine)
    rw [persistMetadata_elsewhere h apart, persistMetadata_elsewhere h' (key.trans_ne apart)]
    exact beside.store key' other
  · rw [persistMetadata_outside h, persistMetadata_outside h', metadata, fetched, key, outside]
  · rw [← here, remoteCalls, (persistMetadata_silent h).exchanges, remoteCalls]
  · rw [← there, remoteCalls, (persistMetadata_silent h').exchanges, remoteCalls]
  · rw [persistMetadata_now h, beside.now]
  · rw [persistMetadata_now h', beside.now']

/-- A status is stored on the object that it is for, unless the cluster refuses it. -/
theorem persistStatus_of_target {fetched : Option Status} {s : Except SyncError Unit}
    (h : (persistStatus env fetched).onObject o w = (s, m, w')) (target : w.store.patchTarget o = .ok f) :
    s = .ok () ∨ ∃ a, env.refusal (.patchStatus o.key) w.outside = some a ∧ s = .error (.api a) := by
  rw [onObject_persistStatus] at h
  split_ifs at h
  · have patched := congrArg Prod.fst (patchStatus_of_target env target)
    obtain rfl : (w.patchStatus env o).1 = s := congrArg Prod.fst h
    cases refusal : env.refusal (.patchStatus o.key) w.outside with
    | none =>
      rw [refusal] at patched
      exact .inl patched
    | some a =>
      rw [refusal] at patched
      exact .inr ⟨a, rfl, patched⟩
  · cases h
    exact .inl rfl

/-- A visit whose references are not ready says nothing, and comes to what they came to, unless the cluster
refuses to store that. -/
theorem visit_unready (settings : OperatorSettings) {w₁ : World σ}
    (reads : Reads env ⟨kind, ns, name⟩ w o w₁) (need : o.need = .sync)
    (resolved : (Resolve.references env).onObject o w₁ = (q, o₁, v)) (unready : q ≠ .ok .ready) :
    (visit env settings kind ns name w).talk = [] ∧
      ((visit env settings kind ns name w).result = (q.map fun _ => nextLook settings .waiting) ∨
        ∃ x a, env.refusal (.patchStatus ⟨kind, ns, name⟩) x = some a ∧
          (visit env settings kind ns name w).result = .error (.api a)) := by
  have leaves := Resolve.leaves_of_references resolved
  obtain ⟨r, w', b, ends, result, after⟩ := visit_ends settings reads need resolved
  cases ends with
  | unprepared ready => exact absurd ready unready
  | gone ready => exact absurd ready unready
  | spoken ready => exact absurd ready unready
  | @unready s _ _ kept =>
    have key : (o₁.edited v.now (notice q)).key = ⟨kind, ns, name⟩ :=
      (o₁.edited_key _ _).trans (leaves.key.trans reads.key)
    have silent := (reads.silent.trans leaves.silent).trans (persistStatus_silent kept)
    refine ⟨Visit.talk_of_append ?_, ?_⟩
    · rw [after]
      exact silent.exchanges.trans (List.append_nil _).symm
    · rw [result]
      rcases persistStatus_of_target kept ((v.store.patchTarget_edited o₁ _ _).trans (reads.target resolved)) with
        rfl | ⟨a, refusal, rfl⟩
      · exact .inl (by cases q <;> rfl)
      · exact .inr ⟨_, a, key ▸ refusal, rfl⟩

theorem visit_of_unready (settings : OperatorSettings) (writable : env.Writable) {w₁ : World σ}
    (reads : Reads env ⟨kind, ns, name⟩ w o w₁) (need : o.need = .sync)
    (resolved : (Resolve.references env).onObject o w₁ = (q, o₁, v)) (unready : q ≠ .ok .ready) :
    (visit env settings kind ns name w).talk = [] ∧
      (visit env settings kind ns name w).result = q.map fun _ => nextLook settings .waiting := by
  obtain ⟨silent, result | ⟨x, a, refusal, -⟩⟩ := visit_unready settings reads need resolved unready
  · exact ⟨silent, result⟩
  · rw [Environment.refusal, writable.status] at refusal
    cases refusal

/-- Whatever was noted on an object since it was prepared, the store takes its status. -/
theorem Reads.stores_status (writable : env.Writable) (reads : Reads env k w o w')
    (resolved : (Resolve.references env).onObject o w' = (q, o₁, v))
    (prepared : (persistMetadata env o.metadata).onObject o₁ v = (.ok true, o₂, v₂)) (key : m.key = o₂.key)
    (metadata : m.metadata = o₂.metadata) (store : v₃.store = v₂.store) :
    ∃ z, (persistStatus env o.status).onObject m v₃ = (.ok (), m, z) ∧ z.remoteCalls = v₃.remoteCalls := by
  obtain ⟨f, -, target⟩ := reads.prepared_target resolved prepared
  obtain ⟨s, z, kept⟩ := persistStatus_keeps_object env o.status m v₃
  have own : o₂.key = k :=
    (persistMetadata_key prepared).trans ((Resolve.leaves_of_references resolved).key.trans reads.key)
  have target := target m (key.trans own) metadata
  rw [← store] at target
  obtain rfl := persistStatus_willing writable kept target
  exact ⟨z, kept, by rw [remoteCalls, (persistStatus_silent kept).exchanges, remoteCalls]⟩

/-- A visit that writes an entity comes to what the write came to; if that went well, it asks for the
organization after it. -/
theorem visit_of_written (settings : OperatorSettings) (writable : env.Writable) {w₁ : World σ}
    (reads : Reads env ⟨kind, ns, name⟩ w o w₁) (need : o.need = .sync)
    (resolved : (Resolve.references env).onObject o w₁ = (.ok .ready, o₁, v))
    (prepared : (persistMetadata env o.metadata).onObject o₁ v = (.ok true, o₂, v₂))
    (run : (write env o₂.konnectId).onObject o₂ v₂ = (r, m, v₃)) :
    (visit env settings kind ns name w).result = r.map (fun _ => nextLook settings .synced) ∧
      (visit env settings kind ns name w).after.remoteCalls =
        v₃.remoteCalls ++ if r.isOk then [.organizationId] else [] := by
  obtain ⟨r', ids, u, run', -, -⟩ := write_scripted env o₂ v₂
  obtain ⟨rfl, same⟩ := Prod.mk.inj (run.symm.trans run')
  obtain ⟨rfl, rfl⟩ := Prod.mk.inj same
  obtain ⟨talk, talks, -⟩ := write_talks run
  have silent : v₃.store = v₂.store := talks.store_eq writable.undisturbed
  have ends := onObject_writeEntity env run o.status
  cases r with
  | error e =>
    obtain ⟨z, kept, calls⟩ := reads.stores_status writable resolved prepared
      (m := (o₂.edited v₂.now ids).record (unprogrammed o₂ e) v₃.now) (o₂.edited_key _ _)
      (o₂.edited_metadata _ _) silent
    obtain ⟨result, b, after⟩ := visit_of_sync settings reads need
      (sync_of_prepared resolved prepared (ends.trans (onObject_bind_ok kept)))
    refine ⟨result, ?_⟩
    rw [after]
    exact calls.trans (List.append_nil _).symm
  | ok _ =>
    have still : (v₃.ask env .organizationId).2.store = v₂.store :=
      (writable.undisturbed .organizationId v₃.store v₃.outside).trans silent
    obtain ⟨z, kept, calls⟩ := reads.stores_status writable resolved prepared
      (m := (located env (o₂.edited v₂.now ids) (v₃.ask env .organizationId).1).recordProgrammed v₃.now)
      (o₂.edited_key _ _) (o₂.edited_metadata _ _) still
    obtain ⟨result, b, after⟩ := visit_of_sync settings reads need
      (sync_of_prepared resolved prepared (ends.trans (onObject_bind_ok kept)))
    refine ⟨result, ?_⟩
    rw [after]
    exact calls.trans (remoteCalls_ask .organizationId v₃)

section

variable {said said' : List RemoteCall} {t t' : Instant} {readable : env.Readable}
  {desired : Option OwnerReference} {b b' : Except SyncError Bool}

/-- Objects that the same script resolved have entities that are written alike. -/
theorem prepared_alike {fetched fetched' : Metadata} (spec : o'.spec = o.spec)
    (metadata : o'.metadata = o.metadata) (known : o'.konnectId = o.konnectId)
    (within : Within (referenceSlots o.kind) es)
    (brings : ∀ s ∈ parentIdOf o.kind ++ homeOf o.kind, s ∈ slots es)
    (h : (persistMetadata env fetched).onObject ((o.edited t es).ownedBy desired) v = (b, o₂, v₂))
    (h' : (persistMetadata env fetched').onObject ((o'.edited t' es).ownedBy desired) v' =
      (b', o₂', v₂')) : Alike o₂ o₂' := by
  obtain ⟨version, rfl⟩ := persistMetadata_memory h
  obtain ⟨version', rfl⟩ := persistMetadata_memory h'
  have resolved : ((o'.edited t' es).ownedBy desired).spec = ((o.edited t es).ownedBy desired).spec := by
    rw [Object.ownedBy_spec, Object.ownedBy_spec]
    exact Object.edited_spec_congr spec t' t es
  have kind : ((o.edited t es).ownedBy desired).kind = o.kind := by
    rw [Object.kind, Object.ownedBy_spec]
    exact o.edited_kind t es
  have konnect (x : Object) (u : Instant) : ((x.edited u es).ownedBy desired).konnect = (x.edited u es).konnect :=
    Object.konnect_congr (Object.ownedBy_status _ _)
  have brought {f : Field} (set : .coordinate f ∈ slots es) :
      ((o'.edited t' es).ownedBy desired).konnect.get f =
        ((o.edited t es).ownedBy desired).konnect.get f := by
    rw [konnect, konnect]
    exact Object.edited_get_congr set o' o t' t
  refine alike_of_resolved version' resolved ?_ ?_ (fun inside => ?_) (fun child => ?_)
  · exact congrArg (fun m : Metadata => { m.withCleanup with resourceVersion := version' })
      (Object.ownedBy_metadata_congr desired metadata t' t es es)
  · have other : .coordinate .id ∉ slots es := within.not_mem (not_mem_referenceSlots o.kind).2.1
    have kept (x : Object) (u : Instant) : ((x.edited u es).ownedBy desired).konnectId = x.konnectId :=
      (congrArg Coordinates.id (konnect x u)).trans (Object.edited_get other x u)
    exact (kept o' t').trans (known.trans (kept o t).symm)
  · refine brought (f := .controlPlaneId) (brings _ (List.mem_append_right _ ?_))
    change ((o.edited t es).ownedBy desired).kind.controlPlaneScoped = true at inside
    rw [kind] at inside
    rw [homeOf, if_pos inside]
    exact List.mem_singleton_self _
  · refine brought (f := .parentId) (brings _ (List.mem_append_left _ ?_))
    change ((o.edited t es).ownedBy desired).kind.parentKind?.isSome = true at child
    rw [kind] at child
    rw [parentIdOf, if_pos child]
    exact List.mem_singleton_self _

theorem write_aligned (undisturbed : env.Disturbs fun s t => t = s) (aloof : env.Aloof)
    (beside : (aligned env readable kind said said' t t').Beside v v') (own : o.key = ⟨kind, ns, name⟩)
    (own' : o'.key = ⟨kind, ns, name⟩) (spec : o'.spec = o.spec) (metadata : o'.metadata = o.metadata)
    (known : o'.konnectId = o.konnectId) (within : Within (referenceSlots kind) es)
    (brings : ∀ s ∈ parentIdOf kind ++ homeOf kind, s ∈ slots es)
    (prepared : (persistMetadata env o.metadata).onObject ((o.edited t es).ownedBy desired) v =
      (b, o₂, v₂))
    (prepared' : (persistMetadata env o'.metadata).onObject ((o'.edited t' es).ownedBy desired) v' =
      (b', o₂', v₂')) :
    (aligned env readable kind said said' t t').Agree (Writes o₂) (write env o₂.konnectId)
      (write env o₂'.konnectId) o₂ o₂' v₂ v₂' := by
  have key (x : Object) (u : Instant) : ((x.edited u es).ownedBy desired).key = x.key := by
    rw [Object.ownedBy_key, Object.edited_key]
  have beside := persistMetadata_aligned beside (congrArg Key.kind ((key o t).trans own))
    ((key o' t').trans (own'.trans ((key o t).trans own).symm))
    (Object.ownedBy_metadata_congr desired metadata t' t es es) metadata prepared prepared'
  obtain rfl : o.kind = kind := Object.kind_of_key own
  exact write_agree (aligned_asks undisturbed aloof readable _ _ _ _) beside
    (prepared_alike spec metadata known within brings prepared prepared')

end

/-- While nothing fails and nobody else writes, two stores that differ at most in the status of an object that
nobody deletes, but not in the id of its entity, are the same to Konnect: a visit makes the same calls in the
same order, with the same paths, ids and bodies, and comes to the same, provided that Konnect does not look
at the stores. -/
theorem stale_status_unseen (settings : OperatorSettings) (writable : env.Writable)
    (readable : env.Readable) (aloof : env.Aloof) (outside : w'.outside = w.outside)
    (elsewhere : ∀ key, key ≠ ⟨kind, ns, name⟩ → w'.store.find? key = w.store.find? key)
    (stored : w.store.findObject? ⟨kind, ns, name⟩ = some o)
    (stored' : w'.store.findObject? ⟨kind, ns, name⟩ = some o') (spec : o'.spec = o.spec)
    (metadata : o'.metadata = o.metadata) (live : o.metadata.isDeleting = false)
    (known : o'.konnectId = o.konnectId) :
    (visit env settings kind ns name w').talk.map (·.call) =
        (visit env settings kind ns name w).talk.map (·.call) ∧
      (visit env settings kind ns name w').result = (visit env settings kind ns name w).result := by
  have reads := reads_of_readable readable stored
  have reads' := reads_of_readable readable stored'
  have need : o.need = .sync := Object.need_eq_sync.mpr live
  have need' : o'.need = .sync := Object.need_eq_sync.mpr (metadata ▸ live)
  have own : o.kind = kind := Kind.managed.inj (congrArg Key.kind reads.key)
  let T := aligned env readable kind w.remoteCalls w'.remoteCalls w.now w'.now
  have start : T.near w w' := ⟨outside, [], (List.append_nil _).symm, (List.append_nil _).symm⟩
  have beside : T.Beside (w.get env ⟨kind, ns, name⟩).2 (w'.get env ⟨kind, ns, name⟩).2 := by
    refine ⟨fun key other => ?_, ?_, reads.now, reads'.now⟩
    · rw [get_store, get_store]
      exact elsewhere key fun same => other (same ▸ rfl)
    · rw [get_eq_fetched, get_eq_fetched]
      exact T.drift _ _ _ start
  have resembles : T.Resembles o o' :=
    ⟨own, congrArg Spec.stored spec, congrArg Metadata.namespaceText metadata,
      congrArg Metadata.nameText metadata, .inl (by rw [known])⟩
  cases references_resolved resembles beside with
  | left _ excused => exact excused.elim
  | right _ excused => exact excused.elim
  | unready unready run run' =>
    obtain ⟨talk, result⟩ := visit_of_unready settings writable reads need run unready
    obtain ⟨talk', result'⟩ := visit_of_unready settings writable reads' need' run' unready
    exact ⟨by rw [talk, talk'], result'.trans result.symm⟩
  | @ready es desired v v' run run' beside within brings =>
    rcases prepared : (persistMetadata env o.metadata).onObject ((o.edited T.now es).ownedBy desired) v with
      ⟨b, o₂, v₂⟩
    rcases prepared' : (persistMetadata env o'.metadata).onObject ((o'.edited T.now' es).ownedBy desired) v' with
      ⟨b', o₂', v₂'⟩
    obtain rfl := reads.prepares writable run prepared
    obtain rfl := reads'.prepares writable run' prepared'
    cases write_aligned writable.undisturbed aloof beside reads.key reads'.key spec metadata known within
      brings prepared prepared' with
    | left _ excused => exact excused.elim
    | right _ excused => exact excused.elim
    | both wrote wrote' beside =>
      obtain ⟨-, calls, here, there⟩ := beside.near
      obtain ⟨result, after⟩ := visit_of_written settings writable reads need run prepared wrote
      obtain ⟨result', after'⟩ :=
        visit_of_written settings writable reads' need' run' prepared' wrote'
      rw [here, List.append_assoc] at after
      rw [there, List.append_assoc] at after'
      exact ⟨(Visit.talk_calls after').trans (Visit.talk_calls after).symm, result'.trans result.symm⟩

section

open Scene

/-- The service whose control plane is known, once somebody wrote this status over its own. -/
def rewritten (status : Status) : World Cloud :=
  { joining.after with
    store := edit webKey (fun o => { o with status := some status }) joining.after.store }

/-- The status of a service that is known to Konnect, and nothing else; and that of one elsewhere. -/
def knownOnly : Status := ⟨⟨"ee", "", "", "", ""⟩, []⟩

def misplaced : Status := ⟨⟨"ee", "https://elsewhere", "o", "old", "older"⟩, []⟩

/-- The service that is said to be in another control plane is updated in its own one. -/
theorem misplaced_unseen :
    (webVisit calm (rewritten misplaced)).talk.map (·.call) =
        (webVisit calm (rewritten knownOnly)).talk.map (·.call) ∧
      (webVisit calm (rewritten misplaced)).result = (webVisit calm (rewritten knownOnly)).result ∧
      ((rewritten misplaced).store.findObject? webKey).map (·.controlPlaneId) = some "old" ∧
      (webVisit calm (rewritten knownOnly)).talk.map (·.call) ≠ [] := by
  obtain ⟨o, stored, live⟩ : ∃ o, joining.after.store.findObject? webKey = some o ∧
      !o.metadata.isDeleting := (Option.any_eq_true _ _).mp (by decide +kernel)
  have own : o.key = webKey := Store.key_of_findObject? stored
  have mine (status : Status) : ({ o with status := some status } : Object).key = webKey := own
  have store (status : Status) : (rewritten status).store =
      joining.after.store.put (.managed { o with status := some status }) := by
    simp only [rewritten, edit, stored]
  have found (status : Status) : (rewritten status).store.findObject? webKey =
      some (joining.after.store.written { o with status := some status }) := by
    rw [store, Store.findObject?_put, if_pos (mine status)]
  have alone (status : Status) {key : Key} (other : key ≠ webKey) :
      (rewritten status).store.find? key = joining.after.store.find? key := by
    rw [store, Store.find?_put]
    exact if_neg fun same => other (same.symm.trans (mine status))
  have outside : (rewritten misplaced).outside = (rewritten knownOnly).outside := rfl
  obtain ⟨calls, result⟩ := stale_status_unseen OperatorSettings.default calm_writable
    (fun _ _ => rfl) (fun _ _ _ _ => rfl) outside
    (fun key other => (alone misplaced other).trans (alone knownOnly other).symm)
    (found knownOnly) (found misplaced) rfl rfl
    ((Store.written_isDeleting _ _).trans (by simpa using live)) rfl
  refine ⟨calls, result, by rw [found]; rfl, fun silent => ?_⟩
  have said : ((webVisit calm (rewritten knownOnly)).talk.map (·.call)).length ≠ 0 := by decide +kernel
  exact said (congrArg List.length silent)

end

end Reconcile

end GatewaySync
