import GatewaySync.Proofs.Protocol
import GatewaySync.Proofs.Resolution
import GatewaySync.Sync.Pass
/-!
# The course of a pass

What a pass says to Konnect and what it answers is told by a few stages: the reading of the object,
the resolution of its references, the storing of finalizer and owner, the write or the deletion of the
entity, and the storing of the status. The two relations below list every way through these stages.
-/
namespace GatewaySync.Reconcile

open Pass World Entity

variable {σ : Type} (env : Environment σ)

theorem onObject_persistStatus (fetched : Option Status) (o : Object) (w : World σ) :
    (persistStatus env fetched).onObject o w =
      if o.status ≠ fetched then ((w.patchStatus env o).1, o, (w.patchStatus env o).2)
      else (.ok (), o, w) := by
  rw [persistStatus, onObject_bind_ok (onObject_object o w)]
  split_ifs
  · exact onObject_tryWorld _ o w
  · rfl

def guarded (o : Object) : Object := { o with metadata := o.metadata.withCleanup }

@[simp] theorem guarded_key (o : Object) : (guarded o).key = o.key := by
  unfold guarded
  rw [Metadata.withCleanup_eq]
  rfl

theorem patchTarget_guarded (s : Store) (o : Object) : s.patchTarget (guarded o) = s.patchTarget o :=
  Store.patchTarget_congr s (guarded_key o) (by rw [guarded, Metadata.withCleanup_eq])

def atRevision (o : Object) (written : Object) : Object :=
  { o with metadata := { o.metadata with resourceVersion := written.metadata.resourceVersion } }

theorem onObject_persistMetadata (fetched : Metadata) (o : Object) (w : World σ) :
    (persistMetadata env fetched).onObject o w =
      if !o.metadata.hasCleanup || o.metadata.ownerList ≠ fetched.ownerList then
        match w.patchMetadata env (guarded o) with
        | (.ok (some written), w) => (.ok true, atRevision (guarded o) written, w)
        | (.ok none, w) => (.ok false, guarded o, w)
        | (.error e, w) => (.error e, guarded o, w)
      else (.ok true, guarded o, w) := by
  rw [persistMetadata, onObject_bind_ok (onObject_object o w),
    onObject_bind_ok (onObject_modifyObject _ o w)]
  split_ifs
  · have run := onObject_tryWorld (World.patchMetadata env (guarded o)) (guarded o) w
    rw [onObject_bind_ok (onObject_object _ w)]
    rcases h : w.patchMetadata env (guarded o) with ⟨_ | _ | written, w'⟩ <;> rw [h] at run
    · exact onObject_bind_error run
    · exact onObject_bind_ok run
    · exact onObject_bind_ok run
  · rfl

/-- The object with the server and the organization that its entity lives in. -/
def located (o : Object) (answer : Except RemoteError String) : Object :=
  o.withKonnect fun k =>
    { k with
      serverUrl := env.serverUrl
      orgId := match answer with
        | .ok id => id
        | .error _ => k.orgId }

theorem onObject_recordOrigin (o : Object) (w : World σ) :
    (recordOrigin env).onObject o w =
      (.ok (), located env o (w.ask env .organizationId).1, (w.ask env .organizationId).2) := by
  rw [recordOrigin, onObject_bind_ok (onObject_onWorld _ o w)]
  rfl

def released (o : Object) : Object := { o with metadata := o.metadata.withoutCleanup }

/-- What is said of an entity before its object is let go: nothing if there never was one. -/
def Dismissed (o : Object) (talk : List Exchange) : Prop :=
  o.konnectId = "" ∧ talk = [] ∨
    o.konnectId ≠ "" ∧ ∃ p, o.path .delete = .ok p ∧ Deletion p o.konnectId talk true

inductive Cleaning (o : Object) (w : World σ) :
    List Exchange → Except SyncError Unit → World σ → Prop
  | pathless {e : SyncError} (known : o.konnectId ≠ "") (path : o.path .delete = .error e) :
      Cleaning o w [] (.error e) w
  | refused {p : EntityPath} {talk : List Exchange} {e : SyncError} {w' : World σ}
      (known : o.konnectId ≠ "") (path : o.path .delete = .ok p)
      (spoken : Deletion p o.konnectId talk false) (talks : Talks env w talk w') :
      Cleaning o w talk (.error e) w'
  | released {talk : List Exchange} {w' : World σ} (dismissed : Dismissed o talk)
      (talks : Talks env w talk w') :
      Cleaning o w talk ((w'.patchMetadata env (released o)).1.map fun _ => ())
        (w'.patchMetadata env (released o)).2

inductive Farewell (o : Object) : List Exchange → Prop
  | unknown (unknown : o.konnectId = "") : Farewell o []
  | pathless {e : SyncError} (known : o.konnectId ≠ "") (path : o.path .delete = .error e) :
      Farewell o []
  | said {p : EntityPath} {talk : List Exchange} {ok : Bool} (known : o.konnectId ≠ "")
      (path : o.path .delete = .ok p) (spoken : Deletion p o.konnectId talk ok) : Farewell o talk

variable {env} in
theorem Cleaning.farewell {o : Object} {w w' : World σ} {talk : List Exchange}
    {r : Except SyncError Unit} (h : Cleaning env o w talk r w') : Farewell o talk := by
  cases h with
  | pathless known path => exact .pathless known path
  | refused known path spoken => exact .said known path spoken
  | released dismissed =>
    rcases dismissed with ⟨unknown, rfl⟩ | ⟨known, p, path, spoken⟩
    · exact .unknown unknown
    · exact .said known path spoken

theorem Farewell.of_gone {o : Object} {talk : List Exchange} (h : Farewell o talk) {x : Exchange}
    (hx : x ∈ talk) {p : EntityPath} {id : String} (gone : x.gone? = some (p, id)) :
    id = o.konnectId := by
  cases h with
  | unknown | pathless => cases hx
  | said _ _ spoken => exact spoken.of_gone hx gone

theorem Farewell.names {o : Object} {talk : List Exchange} (h : Farewell o talk) :
    talk.filterMap Exchange.names? = [] := by
  cases h with
  | unknown | pathless => rfl
  | said _ _ spoken => exact spoken.names

theorem Farewell.of_created {o : Object} {talk : List Exchange} (h : Farewell o talk)
    {x : Exchange} (hx : x ∈ talk) : x.created? = none := by
  cases h with
  | unknown | pathless => cases hx
  | said _ _ spoken =>
    obtain ⟨s, answer, rfl⟩ := spoken.talk_eq
    obtain rfl := List.mem_singleton.mp hx
    rfl

theorem onObject_release {o o' : Object} {w w' : World σ}
    (h : (delete env).onObject o w = (.ok (), o', w')) :
    (cleanup env).onObject o w = ((w'.patchMetadata env (released o')).1.map fun _ => (),
      released o', (w'.patchMetadata env (released o')).2) := by
  rw [cleanup, onObject_bind_ok h, onObject_bind_ok (onObject_modifyObject _ o' w'),
    onObject_bind_ok (onObject_object _ w')]
  have patched := onObject_tryWorld (World.patchMetadata env (released o')) (released o') w'
  rcases hp : w'.patchMetadata env (released o') with ⟨e | _, v⟩ <;> rw [hp] at patched
  · exact onObject_bind_error patched
  · exact onObject_bind_ok patched

theorem cleanup_course (o : Object) (w : World σ) :
    ∃ talk r o' w', (cleanup env).onObject o w = (r, o', w') ∧ Cleaning env o w talk r w' := by
  by_cases hk : o.konnectId = ""
  · exact ⟨[], _, _, _, onObject_release env (onObject_delete_unknown env hk w),
      .released (.inl ⟨hk, rfl⟩) (.done w)⟩
  · cases hp : o.path .delete with
    | error e =>
      exact ⟨[], .error e, o, w, onObject_bind_error (onObject_delete_pathless env hk hp w),
        .pathless hk hp⟩
    | ok p =>
      have deleted := onObject_delete env hk hp w
      have asked := talks_ask env (.delete p o.konnectId) w
      rcases h : w.ask env (.delete p o.konnectId) with ⟨e | ⟨⟩, w'⟩ <;> rw [h] at deleted asked
      · by_cases hn : e.isNotFound = true
        · simp only [hn, if_true] at deleted
          exact ⟨_, _, _, _, onObject_release env deleted,
            .released (.inr ⟨hk, p, hp, .gone hn⟩) asked⟩
        · simp only [hn, Bool.false_eq_true, if_false] at deleted
          exact ⟨_, _, _, _, onObject_bind_error deleted,
            .refused hk hp (.refused (Bool.eq_false_iff.mpr hn)) asked⟩
      · exact ⟨_, _, _, _, onObject_release env deleted,
          .released (.inr ⟨hk, p, hp, .deleted⟩) asked⟩

/-- What bringing the entity of an object up to date says, whether it went well, and the id that is
known afterwards. -/
inductive Spoken (o : Object) : List Exchange → Bool → String → Prop
  | pathless {e : SyncError} (path : o.path .create = .error e) : Spoken o [] false o.konnectId
  | written {p : EntityPath} {talk : List Exchange} {id : String} {s : Store}
      {answer : Except RemoteError String} (path : o.path .create = .ok p)
      (spoken : Writing p o.body o.listFilter o.konnectId talk true id) :
      Spoken o (talk ++ [⟨s, .organizationId, answer⟩]) true id
  | unwritten {p : EntityPath} {talk : List Exchange} {id : String}
      (path : o.path .create = .ok p)
      (spoken : Writing p o.body o.listFilter o.konnectId talk false id) : Spoken o talk false id

def unprogrammed (o : Object) (e : SyncError) : Verdict :=
  ⟨ConditionType.programmed, .false, failureReason e (o.konnectId = ""), e.message⟩

theorem onObject_writeEntity {o o' : Object} {w w' : World σ} {r : Except SyncError Unit}
    (h : (write env o.konnectId).onObject o w = (r, o', w')) (fetched : Option Status) :
    (writeEntity env fetched).onObject o w =
      match r with
      | .ok () => (persistStatus env fetched >>= fun _ => pure ()).onObject
          ((located env o' (w'.ask env .organizationId).1).recordProgrammed w'.now)
          (w'.ask env .organizationId).2
      | .error e => (persistStatus env fetched >>= fun _ => throw e).onObject
          (o'.record (unprogrammed o e) w'.now) w' := by
  have chosen : (if decide (o.konnectId = "") = true then createOrAdopt env
      else updateOrRecreate env) = write env o.konnectId := by
    simp [write]
  rw [writeEntity, onObject_bind_ok (onObject_object o w)]
  dsimp only
  rw [chosen, onObject_bind_attempt h]
  cases r with
  | error e => exact onObject_bind_ok (onObject_record _ o' w')
  | ok x => exact onObject_bind_ok (onObject_recordOrigin env o' w')

section

variable {o : Object} {talk : List Exchange} {ok : Bool} {id other : String} {q : EntityPath}
  {x : Exchange}

theorem Spoken.of_created (h : Spoken o talk ok id) (hx : x ∈ talk)
    (created : x.created? = some (q, other)) :
    o.path .create = .ok q ∧ other = id ∧ ok = true := by
  cases h with
  | pathless => cases hx
  | written path spoken =>
    rcases List.mem_append.mp hx with hx | hx
    · obtain ⟨rfl, same, -⟩ := spoken.of_created hx created
      exact ⟨path, same, rfl⟩
    · obtain rfl := List.mem_singleton.mp hx
      cases created
  | unwritten path spoken =>
    obtain ⟨rfl, same, ok⟩ := spoken.of_created hx created
    exact ⟨path, same, ok⟩

/-- What is said names the entity that is known afterwards, if it goes well, and no other. -/
theorem Spoken.names (h : Spoken o talk ok id) :
    (ok = true ∧ ∃ p, o.path .create = .ok p ∧ talk.filterMap Exchange.names? = [(p, id)]) ∨
      (ok = false ∧ (id = o.konnectId ∨ id = "") ∧ talk.filterMap Exchange.names? = []) := by
  cases h with
  | pathless => exact .inr ⟨rfl, .inl rfl, rfl⟩
  | written path spoken =>
    refine .inl ⟨rfl, _, path, ?_⟩
    rw [List.filterMap_append, spoken.names]
    rfl
  | unwritten path spoken =>
    exact .inr ⟨rfl, spoken.id_of_failed, spoken.names⟩

theorem Spoken.ne_empty (h : Spoken o talk true id) : id ≠ "" ∧ ∃ p, o.path .create = .ok p := by
  cases h with
  | written path spoken => exact ⟨spoken.ne_empty, _, path⟩

theorem Spoken.of_gone (h : Spoken o talk ok id) (hx : x ∈ talk)
    (gone : x.gone? = some (q, other)) : other = o.konnectId ∧ o.konnectId ≠ "" := by
  cases h with
  | pathless => cases hx
  | written _ spoken =>
    rcases List.mem_append.mp hx with hx | hx
    · exact (spoken.of_gone hx gone).2
    · obtain rfl := List.mem_singleton.mp hx
      cases gone
  | unwritten _ spoken => exact (spoken.of_gone hx gone).2

theorem Spoken.known_or_gone (h : Spoken o talk ok id) (hk : o.konnectId ≠ "") :
    id = o.konnectId ∨ ∃ q, ∃ x ∈ talk, x.gone? = some (q, o.konnectId) := by
  cases h with
  | pathless => exact .inl rfl
  | written _ spoken =>
    rcases spoken.known_or_gone hk with same | ⟨x, hx, gone⟩
    · exact .inl same
    · exact .inr ⟨_, x, List.mem_append_left _ hx, gone⟩
  | unwritten _ spoken =>
    rcases spoken.known_or_gone hk with same | ⟨x, hx, gone⟩
    · exact .inl same
    · exact .inr ⟨_, x, hx, gone⟩

end

theorem learns_located (o : Object) (answer : Except RemoteError String) :
    Learns o (located env o answer) o.konnectId :=
  ⟨rfl, rfl, by simp [located, Object.konnectId], by simp [located, Object.controlPlaneId],
    by simp [located, Object.parentId], fun _ => rfl⟩

theorem writeEntity_course (fetched : Option Status) (o : Object) (w : World σ) :
    ∃ talk r id o' w', Spoken o talk r.isOk id ∧ Talks env w talk w' ∧ Learns o o' id ∧
      o'.status.isSome ∧ (∀ e, r = .error e → OwnFailure e) ∧
      o'.verdict? ConditionType.programmed = some (if r.isOk then .true else .false) ∧
      (writeEntity env fetched).onObject o w =
        (persistStatus env fetched >>= fun _ => Pass.ofExcept r).onObject o' w' := by
  have own {r : Except SyncError Unit} {o' : Object} {w' : World σ}
      (run : (write env o.konnectId).onObject o w = (r, o', w')) :
      ∀ e, r = .error e → OwnFailure e := fun e same =>
    ownFailure_of_isOperational (write_failsWith env o.konnectId o w e (by rw [run, same]))
  cases hp : o.path .create with
  | error e =>
    obtain ⟨e', run⟩ := onObject_write_pathless env hp w
    exact ⟨[], .error e', _, _, w, .pathless hp, .done w, learns_record o _ w.now, rfl, own run,
      (o.record_verdict? _ _ _).trans (if_pos rfl), onObject_writeEntity env run fetched⟩
  | ok p =>
    obtain ⟨talk, ok, id, r, o', w', run, spoken, talks, learns, rfl⟩ := write_speaks env hp w
    have written := onObject_writeEntity env run fetched
    cases r with
    | error e =>
      have noted := learns_record o' (unprogrammed o e) w'.now
      rw [learns.id] at noted
      exact ⟨talk, .error e, id, _, w', .unwritten hp spoken, talks, learns.trans noted, rfl, own run,
        (o'.record_verdict? _ _ _).trans (if_pos rfl), written⟩
    | ok x =>
      have asked := talks_ask env .organizationId w'
      have found := learns_located env o' (w'.ask env .organizationId).1
      have noted := learns_record (located env o' (w'.ask env .organizationId).1)
        ⟨ConditionType.programmed, .true, Reason.programmed, ""⟩ w'.now
      rw [learns.id] at found
      rw [found.id] at noted
      exact ⟨_, .ok (), id, _, _, .written hp spoken, talks.append asked,
        learns.trans (found.trans noted), rfl, own run,
        (Object.record_verdict? _ _ _ _).trans (if_pos rfl), written⟩

/-- Of references that are not ready nothing more is noted, unless no control plane is asked for. Then
it can not be told any more whether the entity is up to date. -/
def Resigned (r : Except SyncError Readiness) (o m : Object) : Prop :=
  (m = o ∧ ∀ op kind key, r ≠ .error (.missingControlPlaneId op kind key)) ∨
    m.verdict? ConditionType.programmed = some .unknown

/-- Every way of bringing the entity of an object up to date: what is said, what comes of it, the
object whose status is to be stored, and the world afterwards. -/
inductive Syncing (o : Object) (w : World σ) :
    List Exchange → Except SyncError Outcome → Object → World σ → Prop
  | unready {r : Except SyncError Readiness} {s : Except SyncError Unit} {o₁ m : Object}
      {w₁ w₂ : World σ} (resolved : (Resolve.references env).onObject o w = (r, o₁, w₁))
      (unready : r ≠ .ok .ready) (noted : Learns o₁ m o₁.konnectId)
      (kept : (persistStatus env o.status).onObject m w₁ = (s, m, w₂))
      (told : Resigned r o₁ m) :
      Syncing o w [] (s.bind fun _ => r.map fun _ => .waiting) m w₂
  | unprepared {e : SyncError} {o₁ o₂ : Object} {w₁ w₂ : World σ}
      (resolved : (Resolve.references env).onObject o w = (.ok .ready, o₁, w₁))
      (prepared : (persistMetadata env o.metadata).onObject o₁ w₁ = (.error e, o₂, w₂)) :
      Syncing o w [] (.error e) o w₂
  | gone {o₁ o₂ : Object} {w₁ w₂ : World σ}
      (resolved : (Resolve.references env).onObject o w = (.ok .ready, o₁, w₁))
      (prepared : (persistMetadata env o.metadata).onObject o₁ w₁ = (.ok false, o₂, w₂)) :
      Syncing o w [] (.ok .gone) o w₂
  | spoken {r s : Except SyncError Unit} {o₁ o₂ m : Object} {w₁ w₂ w₃ w₄ : World σ}
      {talk : List Exchange} {id : String}
      (resolved : (Resolve.references env).onObject o w = (.ok .ready, o₁, w₁))
      (prepared : (persistMetadata env o.metadata).onObject o₁ w₁ = (.ok true, o₂, w₂))
      (spoken : Spoken o₂ talk r.isOk id) (talks : Talks env w₂ talk w₃) (learns : Learns o₂ m id)
      (status : m.status.isSome)
      (kept : (persistStatus env o.status).onObject m w₃ = (s, m, w₄))
      (own : ∀ e, r = .error e → OwnFailure e)
      (told : m.verdict? ConditionType.programmed = some (if r.isOk then .true else .false)) :
      Syncing o w talk (s.bind fun _ => r.map fun _ => .synced) m w₄

theorem persistStatus_keeps_object (fetched : Option Status) (o : Object) (w : World σ) :
    ∃ s w', (persistStatus env fetched).onObject o w = (s, o, w') := by
  rw [onObject_persistStatus]
  split_ifs
  · exact ⟨_, _, rfl⟩
  · exact ⟨_, _, rfl⟩

theorem onObject_recordMissingControlPlane (e : SyncError) (o : Object) (w : World σ) :
    ∃ o', (recordMissingControlPlane e).onObject o w = (.ok (), o', w) ∧
      Learns o o' o.konnectId ∧ Resigned (.error e) o o' := by
  unfold recordMissingControlPlane
  split
  · exact ⟨_, onObject_record _ o w, learns_record o _ w.now, .inr (by simp)⟩
  · rename_i other
    refine ⟨o, onObject_pure () o w, learns_self o, .inl ⟨rfl, fun op kind key same => ?_⟩⟩
    cases same
    exact other op kind key rfl

/-- The object whose status is stored after a talk is the one that the pass ends with. -/
theorem sync_course (o : Object) (w : World σ) :
    ∃ talk r o' m w', (sync env).onObject o w = (r, o', w') ∧ Syncing env o w talk r m w' ∧
      (talk ≠ [] → o' = m) := by
  rcases resolved : (Resolve.references env).onObject o w with ⟨r, o₁, w₁⟩
  rw [sync, onObject_bind_ok (onObject_object o w), onObject_bind_attempt resolved]
  rcases r with e | _ | _
  · obtain ⟨o₂, recorded, noted, told⟩ := onObject_recordMissingControlPlane e o₁ w₁
    obtain ⟨s, w₂, kept⟩ := persistStatus_keeps_object env o.status o₂ w₁
    have run := onObject_bind_ofExcept kept (.error e : Except SyncError Outcome)
    exact ⟨[], _, o₂, o₂, w₂, (onObject_bind_ok recorded).trans run,
      .unready resolved (by simp) noted kept told, fun _ => rfl⟩
  · rcases prepared : (persistMetadata env o.metadata).onObject o₁ w₁ with ⟨e | _ | _, o₂, w₂⟩
    · exact ⟨[], .error e, o₂, o, w₂, onObject_bind_error prepared, .unprepared resolved prepared,
        fun said => absurd rfl said⟩
    · exact ⟨[], .ok .gone, o₂, o, w₂, onObject_bind_ok prepared, .gone resolved prepared,
        fun said => absurd rfl said⟩
    · obtain ⟨talk, r, id, o₃, w₃, spoken, talks, learns, status, own, told, written⟩ :=
        writeEntity_course env o.status o₂ w₂
      obtain ⟨s, w₄, kept⟩ := persistStatus_keeps_object env o.status o₃ w₃
      have run := written.trans (onObject_bind_ofExcept kept r)
      refine ⟨talk, _, o₃, o₃, w₄, (onObject_bind_ok prepared).trans ?_,
        .spoken resolved prepared spoken talks learns status kept own told, fun _ => rfl⟩
      rcases s with e | _
      · exact onObject_bind_error run
      · rcases r with e | _
        · exact onObject_bind_error run
        · exact onObject_bind_ok run
  · obtain ⟨s, w₂, kept⟩ := persistStatus_keeps_object env o.status o₁ w₁
    have run := onObject_bind_ofExcept kept (.ok .waiting : Except SyncError Outcome)
    exact ⟨[], _, o₁, o₁, w₂, run,
      .unready resolved (by simp) (learns_self o₁) kept (.inl ⟨rfl, by simp⟩), fun _ => rfl⟩

variable (settings : OperatorSettings)

def Reads (key : Key) (w : World σ) (o : Object) (w₁ : World σ) : Prop :=
  ∃ found, w.get env key = (.ok found, w₁) ∧ found.bind Resource.object? = some o

def nextLook : Outcome → Action
  | .synced => .requeue settings.syncPeriod
  | .waiting => .requeue settings.notReadyRequeue
  | .gone => .awaitChange

/-- Every way of a pass over the object under a key; what becomes of the backoff is left open unless the
pass fails. -/
inductive Course (key : Key) (w : World σ) :
    List Exchange → Except SyncError Action → World σ → Prop
  | unread {e : SyncError} {w₁ : World σ} (read : w.get env key = (.error e, w₁)) :
      Course key w [] (.error e) w₁
  | idle {found : Option Resource} {w₁ : World σ} (b : Backoff)
      (read : w.get env key = (.ok found, w₁))
      (idle : ∀ o, found.bind Resource.object? = some o → o.need = .nothing) :
      Course key w [] (.ok .awaitChange) { w₁ with backoff := b }
  | cleaned {o : Object} {w₁ w₂ : World σ} {talk : List Exchange} {r : Except SyncError Unit}
      (b : Backoff) (reads : Reads env key w o w₁) (need : o.need = .cleanup)
      (course : Cleaning env o w₁ talk r w₂) (failed : ∀ e, r = .error e → b = w₂.backoff) :
      Course key w talk (r.map fun _ => .awaitChange) { w₂ with backoff := b }
  | synced {o m : Object} {w₁ w₂ : World σ} {talk : List Exchange} {r : Except SyncError Outcome}
      (b : Backoff) (reads : Reads env key w o w₁) (need : o.need = .sync)
      (course : Syncing env o w₁ talk r m w₂) (failed : ∀ e, r = .error e → b = w₂.backoff)
      (final : talk ≠ [] → ((sync env).onObject o w₁).2.1 = m) :
      Course key w talk (r.map (nextLook settings)) { w₂ with backoff := b }

theorem pass_course (kind : ManagedKind) (ns name : String) (w : World σ) :
    ∃ talk, Course env settings ⟨kind, ns, name⟩ w talk (pass env settings kind ns name w).1
      (pass env settings kind ns name w).2 := by
  unfold pass
  dsimp only
  rcases read : w.get env ⟨kind, ns, name⟩ with ⟨e | found, w₁⟩
  · exact ⟨[], .unread read⟩
  · dsimp only
    cases fetched : found.bind Resource.object? with
    | none => exact ⟨[], .idle _ read (by simp [fetched])⟩
    | some o =>
      dsimp only
      cases need : o.need with
      | nothing =>
        refine ⟨[], .idle _ read fun o' h => ?_⟩
        rw [fetched] at h
        cases h
        exact need
      | cleanup =>
        obtain ⟨talk, r, o', w₂, run, course⟩ := cleanup_course env o w₁
        simp only [runOn, run]
        cases r with
        | error e => exact ⟨talk, .cleaned w₂.backoff ⟨_, read, fetched⟩ need course fun _ _ => rfl⟩
        | ok _ => exact ⟨talk, .cleaned _ ⟨_, read, fetched⟩ need course (by simp)⟩
      | sync =>
        obtain ⟨talk, r, o', m, w₂, run, course, same⟩ := sync_course env o w₁
        have final : talk ≠ [] → ((sync env).onObject o w₁).2.1 = m := by
          rw [run]
          exact same
        simp only [runOn, run]
        rcases r with e | _ | _ | _
        · exact ⟨talk, .synced w₂.backoff ⟨_, read, fetched⟩ need course (fun _ _ => rfl) final⟩
        · exact ⟨talk, .synced _ ⟨_, read, fetched⟩ need course (by simp) final⟩
        · exact ⟨talk, .synced w₂.backoff ⟨_, read, fetched⟩ need course (fun _ _ => rfl) final⟩
        · exact ⟨talk, .synced w₂.backoff ⟨_, read, fetched⟩ need course (fun _ _ => rfl) final⟩

end GatewaySync.Reconcile
