import GatewaySync.Proofs.CallDiscipline
import GatewaySync.Proofs.Destination
import GatewaySync.Proofs.Mirrors
/-!
# A synced object is at rest

Every stage of a sync is settled once it went well: the references, the owner, the finalizer, the origin of
the entity and the verdict on it. So another visit finds nothing to write: it updates the entity, asks for
the organization, and leaves the store as it is.
-/
namespace GatewaySync.Reconcile

open Pass World Entity
open Object (slots)

variable {σ : Type} {env env' : Environment σ} {settings : OperatorSettings} {k : Key}
  {o o₁ o₂ x : Object} {w w' v v₂ : World σ} {ds : List Edit} {s : Store}

structure Synced (env : Environment σ) (o o₁ o₂ x : Object) (w v v₂ : World σ) (ds : List Edit)
    (s : Store) : Prop extends Written env o o₁ o₂ x w v v₂ s (.ok ()) ds where
  path : ∃ p, o₂.path .create = .ok p
  known : x.konnectId ≠ ""

theorem Ends.synced (undisturbed : env.Disturbs fun s t => t = s) {q : Except SyncError Readiness}
    {r : Except SyncError Outcome} (h : Ends env o q o₁ v r w') (done : r = .ok .synced)
    (resolved : (Resolve.references env).onObject o w = (q, o₁, v))
    (stored : w.store.findObject? o.key = some o) :
    ∃ o₂ x v₂ ds, Synced env o o₁ o₂ x w v v₂ ds w'.store := by
  cases h with
  | @unready s _ =>
    cases s with
    | error => cases done
    | ok => cases q <;> cases done
  | unprepared | gone => cases done
  | @spoken o₂ v₂ v₃ _ talk r s ds ready prepared spoken talks concludes _ kept =>
    cases s with
    | error => cases done
    | ok _ =>
      cases r with
      | error => cases done
      | ok _ =>
        subst ready
        obtain ⟨named, path⟩ := spoken.ne_empty
        obtain ⟨x, readied, status⟩ :=
          readied_of_spoken undisturbed stored resolved prepared talks concludes kept
        exact ⟨o₂, x, v₂, ds, ⟨readied, concludes, status⟩, path, Object.konnectId_congr status ▸ named⟩

/-- Side by side with a run that goes well, one whose reads do not fail goes as well. -/
def trusting (env : Environment σ) (readable : env'.Readable) (kind : ManagedKind) (t t' : Instant) :
    Tandem env env' kind where
  now := t
  now' := t'
  near _ _ := True
  fails _ := True
  fails' _ := False
  drift _ _ _ _ := trivial
  reads key w w' _ := by
    cases refused : env.refusal (.get key) w.outside with
    | some e => exact .inl ⟨e, rfl, trivial⟩
    | none => exact .inr (.inr (readable.refusal key w'.outside))

namespace Synced

variable (h : Synced env o o₁ o₂ x w v v₂ ds s)

include h

/-- The references of what is stored are resolved again, and nothing of it changes. -/
theorem resolves (readable : env'.Readable) {u : World σ} (store : u.store = s) :
    ∃ x₁ u', (Resolve.references env').onObject x u = (.ok .ready, x₁, u') ∧
      x₁.metadata = x.metadata ∧ x₁.status = x.status ∧ x₁.path .create = o₂.path .create := by
  let T := trusting env readable o.kind w.now u.now
  have resembles : T.Resembles o x := h.kin.resembles (.inr fun _ _ _ => trivial)
  have beside : T.Beside w u := by
    refine ⟨fun key other => ?_, trivial, rfl, rfl⟩
    rw [store]
    exact h.elsewhere key fun same => other (congrArg Key.kind same.symm)
  have resolved := h.resolved
  cases Tandem.references_resolved resembles beside with
  | left run =>
    rw [resolved] at run
    cases run
  | right _ excused => exact excused.elim
  | unready unready run =>
    rw [resolved] at run
    cases run
    exact absurd rfl unready
  | @ready es desired _ u' run run' _ within _ binds family =>
    rw [resolved] at run
    have same : o₁ = (o.edited w.now es).ownedBy desired := congrArg (fun r => r.2.1) run
    have status : (x.edited u.now es).status = x.status :=
      Object.edited_of_settled (h.settled same within) u.now
    have owned : (x.edited u.now es).ownedBy desired = x.edited u.now es := h.owned same family
    have konnect : (x.edited u.now es).konnect = (o₂.edited v.now ds).konnect :=
      Object.konnect_congr (status.trans h.status)
    have coordinate (f : Field) (there : .coordinate f ∈ Tandem.referenceSlots .route) :
        (x.edited u.now es).konnect.get f = o₂.konnect.get f := by
      rw [konnect]
      exact Object.edited_get (h.concludes.apart there) o₂ v.now
    obtain ⟨spec, -, finalizers, version, metadata⟩ := persistMetadata_keeps h.prepared
    have desire : (x.edited u.now es).spec = o₂.spec := by
      rw [spec, same, Object.ownedBy_spec]
      exact resembles.edited_spec binds
    have text : (x.edited u.now es).keyText = o₂.keyText := by
      rw [Object.keyText, Object.keyText, Object.edited_metadata, metadata, h.leaves.metadata]
      exact resembles.keyText
    have kind : (x.edited u.now es).kind = o₂.kind := congrArg Spec.kind desire
    refine ⟨x.edited u.now es, u', run'.trans (by rw [show T.now' = u.now from rfl, owned]),
      Object.edited_metadata _ _ _, status, ?_⟩
    exact Object.path_congr .create kind text (by simp [Object.lacksPlugin, kind, desire])
      (coordinate .controlPlaneId (by decide)) (coordinate .parentId (by decide))

end Synced

theorem Concludes.told (h : Concludes env o (.ok ()) ds) :
    .coordinate .serverUrl env.serverUrl ∈ ds ∧ .note upToDate ∈ ds := by
  cases h with
  | written => simp [origin]

end GatewaySync.Reconcile

namespace GatewaySync

/-- Konnect takes an update, and tells no other organization than the one that is known. -/
def Exchange.Welcomes (o : Object) : Exchange → Prop
  | ⟨_, .upsert _ _ _, answer⟩ => answer.isOk
  | ⟨_, .organizationId, .ok org⟩ => org = o.konnect.orgId
  | _ => True

instance (o : Object) : (e : Exchange) → Decidable (e.Welcomes o)
  | ⟨_, .upsert _ _ _, answer⟩ => inferInstanceAs (Decidable (answer.isOk = true))
  | ⟨_, .organizationId, .ok org⟩ => inferInstanceAs (Decidable (org = o.konnect.orgId))
  | ⟨_, .organizationId, .error _⟩ => isTrue trivial
  | ⟨_, .create _ _, _⟩ => isTrue trivial
  | ⟨_, .delete _ _, _⟩ => isTrue trivial
  | ⟨_, .list _ _, _⟩ => isTrue trivial

theorem Writing.of_welcomes {p : EntityPath} {body : Json} {filter : ListFilter} {known id : String}
    {talk : List Exchange} {ok : Bool} {o : Object} (h : Writing p body filter known talk ok id)
    (hk : known ≠ "") (welcomes : ∀ e ∈ talk, e.Welcomes o) :
    ok = true ∧ ∃ s a, talk = [⟨s, .upsert p known body, .ok a⟩] := by
  cases h with
  | created => exact absurd rfl hk
  | updated => exact ⟨rfl, _, _, rfl⟩
  | refused | recreated => cases welcomes _ List.mem_cons_self

namespace Reconcile

open Pass World Entity
open Object (slots)

variable {σ : Type} {env env' : Environment σ} {settings : OperatorSettings} {kind : ManagedKind}
  {ns name : String} {o o₁ o₂ x : Object} {w v v₂ u : World σ} {ds : List Edit} {s : Store}
  {talk : List Exchange}

/-- Where an update is welcome, nothing more is asked than the organization. -/
theorem Spoken.of_welcomes {ok : Bool} {id : String} (h : Spoken o talk ok id) (known : o.konnectId ≠ "")
    {p : EntityPath} (path : o.path .create = .ok p) (welcomes : ∀ e ∈ talk, e.Welcomes x) :
    ∃ s a t answer, talk = [⟨s, .upsert p o.konnectId o.body, .ok a⟩, ⟨t, .organizationId, answer⟩] := by
  have same {q : EntityPath} (path' : o.path .create = .ok q) : q = p :=
    Except.ok.inj (path'.symm.trans path)
  cases h with
  | pathless pathless =>
    rw [path] at pathless
    cases pathless
  | written path' spoken =>
    obtain rfl := same path'
    obtain ⟨-, s, a, rfl⟩ := spoken.of_welcomes known fun e he => welcomes e (List.mem_append_left _ he)
    exact ⟨s, a, _, _, rfl⟩
  | unwritten _ spoken => cases (spoken.of_welcomes known welcomes).1

/-- A write that is welcome and tells nothing new leaves the status as it is, so nothing is stored. -/
theorem onObject_writeEntity_settled {p : EntityPath} {a : RemoteEntity} (known : x.konnectId ≠ "")
    (path : x.path .create = .ok p) (taken : (u.ask env (.upsert p x.konnectId x.body)).1 = .ok a)
    (settled : ∀ e ∈ origin env.serverUrl
      ((u.ask env (.upsert p x.konnectId x.body)).2.ask env .organizationId).1 ++ [.note upToDate],
      e.Settled x) :
    ∃ m, (writeEntity env x.status).onObject x u =
      (.ok (), m, ((u.ask env (.upsert p x.konnectId x.body)).2.ask env .organizationId).2) := by
  generalize asked : u.ask env (.upsert p x.konnectId x.body) = answered at taken settled ⊢
  obtain ⟨_, u₁⟩ := answered
  cases taken
  have update := onObject_update env (Object.path_update.mpr path) known u
  rw [asked] at update
  have run : (write env x.konnectId).onObject x u = (.ok (), x, u₁) := by
    rw [write, if_neg known]
    exact onObject_updateOrRecreate env update
  have ends := onObject_writeEntity env run x.status
  have status := Object.edited_of_settled settled u₁.now
  rw [edited_note, ← located_eq] at status
  exact ⟨_, ends.trans (onObject_bind_ok (persistStatus_of_eq status _))⟩

namespace Synced

variable (h : Synced env o o₁ o₂ x w v v₂ ds s)

include h

/-- What the write noted and learned is so of the stored object, and of what has its status. -/
theorem settled_again (server : env'.serverUrl = env.serverUrl) {x₁ : Object} (status : x₁.status = x.status)
    (metadata : x₁.metadata = x.metadata) {answer : Except RemoteError String}
    (same : ∀ org, answer = .ok org → org = x.konnect.orgId) :
    ∀ e ∈ origin env'.serverUrl answer ++ [.note upToDate], e.Settled x₁ := by
  have settled {e : Edit} (he : e ∈ ds) (other : e.slot? ≠ some (.coordinate .id)) : e.Settled x₁ := by
    refine (h.concludes.settled v.now he other).congr (h.status.symm.trans status.symm) ?_
    rw [metadata, Object.edited_metadata, h.mirrors.generation]
  obtain ⟨serverUrl, programmed⟩ := h.concludes.told
  have located := settled serverUrl (by simp [Edit.slot?])
  rw [← server] at located
  have noted := settled programmed (by simp [Edit.slot?])
  cases answer with
  | error => simpa [origin] using ⟨located, noted⟩
  | ok org =>
    have known : Edit.Settled x₁ (.coordinate .orgId org) := by
      refine ⟨located.1, ?_⟩
      rw [same org rfl, Object.konnect_congr status]
      rfl
    simpa [origin] using ⟨located, known, noted⟩

/-- The visit reads what a synced object was stored as, updates its entity, and writes nothing. -/
theorem rests (writable : env'.Writable) (readable : env'.Readable)
    (server : env'.serverUrl = env.serverUrl) (key : o.key = ⟨kind, ns, name⟩) (need : o.need = .sync)
    (store : u.store = s)
    (welcomes : ∀ e ∈ (visit env' settings kind ns name u).talk, e.Welcomes x) :
    ∃ p body, (visit env' settings kind ns name u).talk.map (·.call) =
        [.upsert p x.konnectId body, .organizationId] ∧ x.path .delete = .ok p ∧
      (∃ keys : List Key,
        (visit env' settings kind ns name u).after.storeCalls = u.storeCalls ++ keys.map .get) ∧
      (visit env' settings kind ns name u).after.store = u.store ∧
      (visit env' settings kind ns name u).result = .ok (.requeue settings.syncPeriod) := by
  have found : u.store.findObject? ⟨kind, ns, name⟩ = some x := by
    rw [store, ← key]
    exact h.stored
  have reads := reads_of_readable readable found
  have again : x.need = .sync := h.kin.need need
  obtain ⟨x₁, u₂, resolved, metadata, status, path⟩ := h.resolves readable (reads.stored.2.trans store)
  have prepared := h.prepared_again env' metadata u₂
  have course := visit_course env' settings kind ns name u
  obtain ⟨ok, id, u₃, spoken, talks⟩ := course.spoken ⟨_, _, _, reads, again, resolved, prepared⟩
  obtain ⟨p, placed⟩ := h.path
  have same : x₁.konnectId = x.konnectId := Object.konnectId_congr status
  have known : x₁.konnectId ≠ "" := same ▸ h.known
  obtain ⟨s₁, a, s₂, answer, said⟩ := spoken.of_welcomes known (path.trans placed) welcomes
  rw [said] at talks welcomes
  obtain ⟨taken, rest⟩ := talks.said
  obtain ⟨told, -⟩ := rest.said
  have settled := h.settled_again server status metadata fun org (tells : answer = .ok org) => by
    have welcome := welcomes ⟨s₂, .organizationId, answer⟩ (by simp)
    rwa [tells] at welcome
  rw [told] at settled
  obtain ⟨m, written⟩ := onObject_writeEntity_settled known (path.trans placed) taken.symm settled
  rw [status] at written
  obtain ⟨result, b, after⟩ := visit_of_sync settings reads again
    (sync_of_prepared resolved prepared written)
  have leaves := Resolve.leaves_of_references resolved
  refine ⟨p, x₁.body, ?_, ?_, ?_, ?_, result⟩
  · rw [said, ← same]
    rfl
  · have konnect : x.konnect = x₁.konnect := Object.konnect_congr status.symm
    rw [Object.path_delete_congr leaves.key.symm (congrArg Coordinates.controlPlaneId konnect)
      (congrArg Coordinates.parentId konnect)]
    exact Object.path_delete (path.trans placed)
  · obtain ⟨keys, calls⟩ := leaves.reads.storeCalls
    refine ⟨⟨kind, ns, name⟩ :: keys, ?_⟩
    rw [after]
    refine calls.trans ?_
    rw [get_storeCalls, List.append_assoc]
    rfl
  · rw [after]
    have quiet (call : RemoteCall) (y : World σ) : (y.ask env' call).2.store = y.store :=
      writable.undisturbed call y.store y.outside
    exact (quiet _ _).trans ((quiet _ _).trans (leaves.store.trans reads.stored.2))

end Synced

/-- Only a sync asks for another look after a while. -/
theorem Course.requeued {k : Key} {r : Except SyncError Action} (h : Course env settings k w talk r v)
    {delay : UInt64} (requeued : r = .ok (.requeue delay)) :
    ∃ o w₁, Reads env k w o w₁ ∧ o.need = .sync := by
  cases h with
  | unread | idle => cases requeued
  | @cleaned _ _ _ _ r => cases r <;> cases requeued
  | synced _ reads need => exact ⟨_, _, reads, need⟩

theorem Ends.silent {q : Except SyncError Readiness} {r : Except SyncError Outcome}
    (h : Ends env o q o₁ v r w) (waits : r = .ok .waiting) : Silent env v w := by
  cases h with
  | unready _ kept => exact persistStatus_silent kept
  | unprepared | gone => cases waits
  | @spoken _ _ _ _ _ r s => cases s <;> cases r <;> cases waits

/-- A visit synced its object if it asks for the next look after the period of syncs. If references that
are not ready are looked at again after the same time, that it said something tells it apart. -/
theorem synced_of_requeued (undisturbed : env.Disturbs fun s t => t = s)
    (requeued : (visit env settings kind ns name w).result = .ok (.requeue settings.syncPeriod))
    (told : settings.syncPeriod = settings.notReadyRequeue → (visit env settings kind ns name w).talk ≠ []) :
    ∃ o o₁ o₂ x w₁ v v₂ ds, Synced env o o₁ o₂ x w₁ v v₂ ds (visit env settings kind ns name w).after.store ∧
      o.key = ⟨kind, ns, name⟩ ∧ o.need = .sync := by
  obtain ⟨o, w₁, reads, need⟩ : ∃ o w₁, Reads env ⟨kind, ns, name⟩ w o w₁ ∧ o.need = .sync :=
    (visit_course env settings kind ns name w).requeued requeued
  rcases resolved : (Resolve.references env).onObject o w₁ with ⟨q, o₁, v⟩
  obtain ⟨r, w', b, ends, result, after⟩ := visit_ends settings reads need resolved
  have done : r = .ok .synced := by
    rw [result] at requeued
    rcases r with e | _ | _ | _
    · cases requeued
    · rfl
    · have waits : Action.requeue settings.notReadyRequeue = .requeue settings.syncPeriod :=
        Except.ok.inj requeued
      refine absurd ?_ (told (Action.requeue.inj waits).symm)
      have silent := (reads.silent.trans (Resolve.leaves_of_references resolved).silent).trans
        (ends.silent rfl)
      refine Visit.talk_of_append ?_
      rw [after]
      exact silent.exchanges.trans (List.append_nil _).symm
    · cases requeued
  obtain ⟨o₂, x, v₂, ds, synced⟩ := ends.synced undisturbed done resolved reads.own_stored
  refine ⟨o, o₁, o₂, x, w₁, v, v₂, ds, ?_, reads.key, need⟩
  rw [after]
  exact synced

/-- Once a visit synced an object while nobody else wrote, another one, made at any later time and while
nothing fails, leaves the whole store as it is, if Konnect takes the update and tells of no other
organization: the visit only reads, updates the entity where it is, asks for the organization, and asks for
the next look after the same period. -/
theorem synced_object_rests (undisturbed : env.Disturbs fun s t => t = s) (writable : env'.Writable)
    (readable : env'.Readable) (server : env'.serverUrl = env.serverUrl)
    (requeued : (visit env settings kind ns name w).result = .ok (.requeue settings.syncPeriod))
    (told : settings.syncPeriod = settings.notReadyRequeue → (visit env settings kind ns name w).talk ≠ [])
    (unchanged : u.store = (visit env settings kind ns name w).after.store) :
    ∃ x, u.store.findObject? ⟨kind, ns, name⟩ = some x ∧
      ((∀ e ∈ (visit env' settings kind ns name u).talk, e.Welcomes x) →
        ∃ p body, (visit env' settings kind ns name u).talk.map (·.call) =
            [.upsert p x.konnectId body, .organizationId] ∧ x.path .delete = .ok p ∧
          (∃ keys : List Key,
            (visit env' settings kind ns name u).after.storeCalls = u.storeCalls ++ keys.map .get) ∧
          (visit env' settings kind ns name u).after.store = u.store ∧
          (visit env' settings kind ns name u).result = .ok (.requeue settings.syncPeriod)) := by
  obtain ⟨o, o₁, o₂, x, w₁, v, v₂, ds, synced, key, need⟩ := synced_of_requeued undisturbed requeued told
  refine ⟨x, ?_, synced.rests writable readable server key need unchanged⟩
  rw [unchanged, ← key]
  exact synced.stored

section

open Scene

def later : World Cloud := { joining.after with now := ⟨3600, 0⟩ }

/-- An hour later there is nothing to write on the service. -/
theorem web_rests :
    ∃ x, later.store.findObject? webKey = some x ∧ x.konnectId = "ee" ∧
      ∃ p body, (webVisit calm later).talk.map (·.call) =
          [.upsert p "ee" body, .organizationId] ∧ x.path .delete = .ok p ∧
        (∃ keys : List Key, (webVisit calm later).after.storeCalls = later.storeCalls ++ keys.map .get) ∧
        (webVisit calm later).after.store = later.store := by
  have readable : calm.Readable := fun _ _ => rfl
  have synced : (match joining.result with | .ok a => some a | .error _ => none) =
      some (.requeue OperatorSettings.default.syncPeriod) := by decide +kernel
  have requeued : joining.result = .ok (.requeue OperatorSettings.default.syncPeriod) := by
    rcases h : joining.result with e | a <;> rw [h] at synced <;> cases synced
    rfl
  have welcome : (later.store.findObject? webKey).all fun x => x.konnectId = "ee" &&
      decide (∀ e ∈ (webVisit calm later).talk, e.Welcomes x) := by decide +kernel
  obtain ⟨x, stored, rests⟩ := synced_object_rests (u := later) calm_writable.undisturbed calm_writable
    readable rfl requeued (by decide) rfl
  rw [show later.store.findObject? webKey = some x from stored] at welcome
  simp only [Option.all_some, Bool.and_eq_true, decide_eq_true_eq] at welcome
  obtain ⟨p, body, calls, path, reads, store, -⟩ := rests welcome.2
  rw [welcome.1] at calls
  exact ⟨x, stored, welcome.1, p, body, calls, path, reads, store⟩

end

end Reconcile

end GatewaySync
