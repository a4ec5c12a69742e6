import GatewaySync.Proofs.LiveReferences
import GatewaySync.Proofs.Mirrors
/-!
# What the status tells of a pass

A pass that writes an entity notes how that went, and fails with what it noted. The reason that it gives is
found before the id is: an entity that is lost and can not be created again is one that could not be created,
and it has no id any more. So the stored status tells the outcome of the pass that stored it.
-/
namespace GatewaySync

def Object.Notes (o : Object) (v : Verdict) (generation : Int) : Prop :=
  ∃ c, o.condition? v.type = some c ∧ c.Agrees v generation

namespace Entity.Writes

open Object Reconcile

variable {o : Object} {e : SyncError} {ids : List Edit} (h : Writes o (.error e) ids)

include h

theorem reason (t : Instant) : failureReason e (o.konnectId = "") =
    if (o.edited t ids).konnectId = "" then Reason.failedToCreate else Reason.failedToUpdate := by
  rw [failureReason_eq]
  cases h with
  | kept kept _ =>
    by_cases unknown : o.konnectId = ""
    · simp [unknown]
    · simp [unknown, kept.resolve_left unknown]
  | lost known creation =>
    have forgotten : (o.edited t [.coordinate .id ""]).konnectId = "" := (learns_withId o "").id
    rw [if_pos forgotten, creation, Bool.true_or, if_pos rfl]

/-- A write that failed leaves server and organization as they were. -/
theorem failed_get (v : Verdict) (t : Instant) {f : Field} (other : f ≠ .id) :
    (o.edited t (ids ++ [.note v])).konnect.get f = o.konnect.get f := by
  refine edited_get (fun mem => ?_) o t
  rw [slots_append, List.mem_append] at mem
  rcases mem with mem | mem
  · cases h.only _ mem
    exact other rfl
  · cases List.mem_singleton.mp mem

end Entity.Writes

namespace Reconcile

open Pass World Entity Object

variable {σ : Type} {env : Environment σ}

/-- What the object says of its entity once a pass came to a result: the entity is up to date in the
organization that Konnect told last, or it could not be created or updated, depending on whether there is an
id, and what is known of server and organization did not change. -/
inductive Tells {α : Type} (env : Environment σ) (o x : Object) (talk : List Exchange) (done : α) :
    Except SyncError α → Prop
  | synced {s : Store} {answer : Except RemoteError String}
      (last : talk.getLast? = some ⟨s, .organizationId, answer⟩)
      (noted : x.Notes upToDate o.metadata.generationValue) (server : x.konnect.serverUrl = env.serverUrl)
      (org : x.konnect.orgId = match answer with
        | .ok org => org
        | .error _ => o.konnect.orgId) : Tells env o x talk done (.ok done)
  | failed {e : SyncError}
      (noted : x.Notes ⟨ConditionType.programmed, .false,
        if x.konnectId = "" then Reason.failedToCreate else Reason.failedToUpdate, e.message⟩
          o.metadata.generationValue)
      (server : x.konnect.serverUrl = o.konnect.serverUrl) (org : x.konnect.orgId = o.konnect.orgId) :
      Tells env o x talk done (.error e)

section

variable {o x : Object} {talk : List Exchange} {r : Except SyncError Unit} {es ids : List Edit}

theorem Concludes.notes (h : Concludes env o r es) (t : Instant) {v : Verdict} (said : .note v ∈ es) :
    (o.edited t es).Notes v o.metadata.generationValue := by
  obtain ⟨c, found, agrees⟩ := h.settled t said (by simp [Edit.slot?])
  rw [edited_metadata] at agrees
  exact ⟨c, found, agrees⟩

/-- Once its entity was written, or could not be, the object tells so. -/
theorem Concludes.tells {α : Type} (h : Concludes env o r es) (recalls : r.isOk → Recalls env o talk es)
    (t : Instant) (done : α) : Tells env o (o.edited t es) talk done (r.map fun _ => done) := by
  cases h with
  | written writes answer =>
    obtain ⟨s, answer', ids, last, writes', script⟩ := recalls rfl
    rw [script]
    have concludes : Concludes env o (.ok ()) (ids ++ (origin env.serverUrl answer' ++ [.note upToDate])) :=
      .written writes' answer'
    have settled {f : Field} {value : String} (other : f ≠ .id)
        (said : .coordinate f value ∈ origin env.serverUrl answer') :
        (o.edited t (ids ++ (origin env.serverUrl answer' ++ [.note upToDate]))).konnect.get f = value :=
      (concludes.settled (e := .coordinate f value) t (by simp [said]) (by simpa [Edit.slot?] using other)).2
    refine .synced last (concludes.notes t (by simp)) (settled (f := .serverUrl) (by simp) (by simp [origin])) ?_
    cases answer' with
    | ok org => exact settled (f := .orgId) (by simp) (by simp [origin])
    | error e =>
      refine edited_get (f := .orgId) (fun mem => ?_) o t
      simp only [slots_append, List.mem_append] at mem
      rcases mem with mem | mem | mem
      · cases writes'.only _ mem
      · cases List.mem_singleton.mp mem
      · cases List.mem_singleton.mp mem
  | @failed e ids writes =>
    have concludes : Concludes env o (.error e) (ids ++ [.note (unprogrammed o e)]) := .failed writes
    refine .failed ?_ (writes.failed_get (f := .serverUrl) _ t (by simp))
      (writes.failed_get (f := .orgId) _ t (by simp))
    have known : (o.edited t (ids ++ [.note (unprogrammed o e)])).konnectId = (o.edited t ids).konnectId := by
      rw [edited_note, konnectId, record_konnect, konnectId]
    rw [known, ← writes.reason t]
    exact concludes.notes t (v := unprogrammed o e) (by simp)

/-- An object does not say of its entity that it is up to date and that it could not be written. -/
theorem Tells.synced_iff {α : Type} {done : α} {q : Except SyncError α} (h : Tells env o x talk done q) :
    q = .ok done ↔ x.Notes upToDate o.metadata.generationValue := by
  cases h with
  | synced _ noted => exact ⟨fun _ => noted, fun _ => rfl⟩
  | failed noted =>
    refine ⟨nofun, fun ⟨c, found, agrees⟩ => ?_⟩
    obtain ⟨d, found', agrees'⟩ := noted
    cases found.symm.trans found'
    cases agrees.status.symm.trans agrees'.status

theorem Tells.of_status {α : Type} {o₂ m : Object} {done : α} {q : Except SyncError α}
    (h : Tells env o₂ m talk done q) (status : x.status = m.status)
    (generation : o₂.metadata.generationValue = o.metadata.generationValue)
    (server : o₂.konnect.serverUrl = o.konnect.serverUrl) (org : o₂.konnect.orgId = o.konnect.orgId) :
    Tells env o x talk done q := by
  have konnect : x.konnect = m.konnect := konnect_congr status
  have id : x.konnectId = m.konnectId := congrArg Coordinates.id konnect
  have notes {v : Verdict} (noted : m.Notes v o₂.metadata.generationValue) :
      x.Notes v o.metadata.generationValue := by
    obtain ⟨c, found, agrees⟩ := noted
    exact ⟨c, (condition?_congr status _).trans found, generation ▸ agrees⟩
  cases h with
  | synced last noted serverUrl orgId =>
    refine .synced last (notes noted) (by rw [konnect, serverUrl]) ?_
    rw [konnect, orgId, org]
  | failed noted serverUrl orgId =>
    refine .failed ?_ (by rw [konnect, serverUrl, server]) (by rw [konnect, orgId, org])
    rw [id]
    exact notes noted

end

/-- A status that was stored is the one that is stored in the end, unless there was nothing to store. -/
theorem persistStatus_stored {fetched : Option Status} {m x : Object} {w w' : World σ}
    (kept : (persistStatus env fetched).onObject m w = (.ok (), m, w')) (there : m.status.isSome)
    (after : w'.store.findObject? m.key = some x) :
    x.status = m.status ∨ (w' = w ∧ m.status = fetched) := by
  rw [onObject_persistStatus] at kept
  split_ifs at kept with changed
  · rcases patchStatus_cases env m w with ⟨e, v, hp, -⟩ | ⟨y, v, hp, -, target, store⟩ <;>
      rw [hp] at kept <;> cases kept
    have key : y.key = m.key := Store.key_of_patchTarget target
    rw [store, Store.findObject?_put, Store.statusPatched_key, if_pos key] at after
    cases after
    obtain ⟨status, known⟩ := Option.isSome_iff_exists.mp there
    exact .inl (by simp [Store.statusPatched, known])
  · cases kept
    exact .inr ⟨rfl, Decidable.not_not.mp changed⟩

section

variable {settings : OperatorSettings} {k : Key} {kind : ManagedKind} {ns name : String} {o o₂ : Object}
  {w w₂ : World σ}

theorem Prepares.calls (h : Prepares env k w o o₂ w₂) :
    ∃ calls, w₂.storeCalls = w.storeCalls ++ calls ∧ ∀ key, .patchStatus key ∉ calls := by
  obtain ⟨w₀, o₁, w₁, ⟨found, read, -⟩, -, resolved, prepared⟩ := h
  have first : w₀.storeCalls = w.storeCalls ++ [.get k] :=
    (congrArg (fun r => r.2.storeCalls) read).symm.trans (get_storeCalls env k w)
  obtain ⟨keys, second⟩ := (Resolve.leaves_of_references resolved).reads.storeCalls
  rcases persistMetadata_world prepared with rfl | rfl
  · exact ⟨[.get k] ++ keys.map .get, by rw [second, first, List.append_assoc], by simp⟩
  · refine ⟨[.get k] ++ (keys.map .get ++ [.patchMetadata (guarded o₁).key]), ?_, by simp⟩
    rw [patchMetadata_storeCalls, second, first, List.append_assoc, List.append_assoc]

variable (settings) in
/-- A pass over an object that is prepared writes its entity and stores its status. -/
theorem Prepares.visit_concludes (h : Prepares env ⟨kind, ns, name⟩ w o o₂ w₂) :
    ∃ r es v t s w' b, Talks env w₂ (visit env settings kind ns name w).talk v ∧ Concludes env o₂ r es ∧
      (∀ e, r = .error e → OwnFailure e) ∧
      (r.isOk → Recalls env o₂ (visit env settings kind ns name w).talk es) ∧
      (persistStatus env o.status).onObject (o₂.edited t es) v = (s, o₂.edited t es, w') ∧
      (visit env settings kind ns name w).result = s.bind (fun _ => r.map fun _ => .requeue settings.syncPeriod) ∧
      (visit env settings kind ns name w).after = { w' with backoff := b } := by
  obtain ⟨w₀, o₁, w₁, reads, need, resolved, prepared⟩ := h
  obtain ⟨talk, r, es, v, spoken, talks, concludes, own, recalls, written⟩ :=
    writeEntity_concludes env o.status o₂ w₂
  obtain ⟨s, w', kept⟩ := persistStatus_keeps_object env o.status (o₂.edited w₂.now es) v
  have run := sync_of_prepared resolved prepared (written.trans (onObject_bind_ofExcept kept r))
  obtain ⟨result, b, after⟩ := visit_of_sync settings reads need run
  have said : (visit env settings kind ns name w).talk = talk := by
    refine Visit.talk_of_append ((congrArg World.exchanges after).trans ?_)
    have silent := reads.silent.trans (silent_of_prepared resolved prepared)
    exact (persistStatus_silent kept).exchanges.trans (talks.exchanges.trans (by rw [silent.exchanges]; rfl))
  rw [said]
  refine ⟨r, es, v, w₂.now, s, w', b, talks, concludes, own, recalls, kept, result.trans ?_, after⟩
  cases s <;> cases r <;> rfl

theorem Prepares.unlearned (h : Prepares env k w o o₂ w₂) :
    o₂.key = k ∧ o₂.metadata.generationValue = o.metadata.generationValue ∧
      o₂.konnect.serverUrl = o.konnect.serverUrl ∧ o₂.konnect.orgId = o.konnect.orgId := by
  obtain ⟨w₀, o₁, w₁, reads, -, resolved, prepared⟩ := h
  have leaves := Resolve.leaves_of_references resolved
  obtain ⟨-, status, finalizers, version, metadata⟩ := persistMetadata_keeps prepared
  have konnect : o₂.konnect = o₁.konnect := Object.konnect_congr status
  refine ⟨(persistMetadata_key prepared).trans (leaves.key.trans reads.key), ?_, ?_, ?_⟩
  · rw [metadata, leaves.metadata]
    rfl
  · rw [konnect, leaves.konnect]
  · rw [konnect, leaves.konnect]

/-- If no status was written and other writers leave the status alone, it is the one that was fetched. -/
theorem Prepares.fetched (h : Prepares env k w o o₂ w₂) (others : env.Disturbs (Store.KeepsStatus k))
    {talk : List Exchange} {v : World σ} (talks : Talks env w₂ talk v) {x : Object}
    (after : v.store.findObject? k = some x) : x.status = o.status := by
  obtain ⟨w₀, o₁, w₁, reads, -, resolved, prepared⟩ := h
  have kept : w₁.store.KeepsStatus k v.store := (persistMetadata_keepsStatus prepared k).trans
    (talks.store (Store.keepsStatus_refl k) Store.KeepsStatus.trans others)
  rw [(Resolve.leaves_of_references resolved).store.trans reads.stored.2] at kept
  obtain ⟨f, found, -, status⟩ := kept x after
  cases reads.stored.1.symm.trans found
  exact status

/-- The status tells the truth. Take a pass over an object that nobody deletes, whose references are ready and
whose finalizer and owner are stored. If it does not fail with an error of the cluster, which it does exactly
if its status could not be stored, then what is stored in the end tells how it went. The entity is up to date
exactly if the pass says so. If not, the pass fails with the error that is told, and the reason tells whether
there is an entity. Nothing is asked of other writers if the pass wrote a status; if there was nothing to
write, they have to leave it alone. -/
theorem programmed_tells_outcome (env : Environment σ) (settings : OperatorSettings) (kind : ManagedKind)
    (ns name : String) (w : World σ) {o o₂ x : Object} {w₂ : World σ}
    (prepares : Prepares env ⟨kind, ns, name⟩ w o o₂ w₂)
    (taken : ∀ a, (visit env settings kind ns name w).result ≠ .error (.api a))
    (others : .patchStatus ⟨kind, ns, name⟩ ∈ (visit env settings kind ns name w).calls ∨
      env.Disturbs (Store.KeepsStatus ⟨kind, ns, name⟩))
    (after : (visit env settings kind ns name w).after.store.findObject? ⟨kind, ns, name⟩ = some x) :
    Tells env o x (visit env settings kind ns name w).talk (Action.requeue settings.syncPeriod)
        (visit env settings kind ns name w).result ∧
      ((visit env settings kind ns name w).result = .ok (.requeue settings.syncPeriod) ↔
        x.Notes upToDate o.metadata.generationValue) := by
  obtain ⟨r, es, v, t, s, w', b, talks, concludes, -, recalls, kept, result, left⟩ :=
    prepares.visit_concludes settings
  obtain ⟨same, generation, server, org⟩ := prepares.unlearned
  cases s with
  | error e =>
    obtain ⟨a, rfl⟩ := (persistStatus_failed kept).2
    exact absurd result (taken a)
  | ok _ =>
    have key : (o₂.edited t es).key = ⟨kind, ns, name⟩ := (o₂.edited_key t es).trans same
    have status : x.status = (o₂.edited t es).status := by
      rw [left, ← key] at after
      rcases persistStatus_stored kept (concludes.status t) after with status | ⟨rfl, unchanged⟩
      · exact status
      · rcases others with wrote | others
        · obtain ⟨calls, asked, none⟩ := prepares.calls
          have said : (visit env settings kind ns name w).calls = calls :=
            Visit.calls_of_append ((congrArg World.storeCalls left).trans (talks.storeCalls.trans asked))
          exact absurd (said ▸ wrote) (none _)
        · rw [key] at after
          exact (prepares.fetched others talks after).trans unchanged.symm
    have tells : Tells env o x (visit env settings kind ns name w).talk (Action.requeue settings.syncPeriod)
        (r.map fun _ => .requeue settings.syncPeriod) :=
      (concludes.tells recalls t _).of_status status generation server org
    have told : (visit env settings kind ns name w).result = r.map fun _ => .requeue settings.syncPeriod :=
      result
    rw [told]
    exact ⟨tells, tells.synced_iff⟩

end

section

open Scene

def stingy : Environment Cloud :=
  { calm with
    answer
      | .create _ _, x => (.error (.api 503 "Server Error" ""), x)
      | call, x => calm.answer call x }

/-- The world after the first pass over the service, once the entity was lost, and the next pass. -/
def robbed : World Cloud := { (opening calm []).after with outside := (opening calm []).after.outside.cleared }

def bereft : Visit Cloud := webVisit stingy robbed

/-- The first pass over the service goes well, and the service says so. When its entity is lost and can not be
created again, the service says that, and keeps no id. -/
theorem web_tells_outcome :
    (∃ o x : Object, (fresh []).store.findObject? webKey = some o ∧
      (opening calm []).after.store.findObject? webKey = some x ∧
      (opening calm []).result = .ok (.requeue OperatorSettings.default.syncPeriod) ∧
      x.Notes upToDate o.metadata.generationValue ∧ x.konnect.orgId = "org") ∧
    ∃ (e : SyncError) (o x : Object), robbed.store.findObject? webKey = some o ∧
      bereft.after.store.findObject? webKey = some x ∧ bereft.result = .error e ∧ x.konnectId = "" ∧
      x.Notes ⟨ConditionType.programmed, .false, Reason.failedToCreate, e.message⟩ o.metadata.generationValue ∧
      x.konnect.orgId = o.konnect.orgId := by
  have prepares (env : Environment Cloud) (w : World Cloud)
      (writes : (webVisit env w).talk.any fun x => x.written?.isSome) :
      ∃ o o₂ w₂, w.store.findObject? webKey = some o ∧ Prepares env webKey w o o₂ w₂ := by
    obtain ⟨x, said, writes⟩ := List.any_eq_true.mp writes
    obtain ⟨⟨p, body⟩, written⟩ := Option.isSome_iff_exists.mp writes
    obtain ⟨o, o₂, w₂, prepares, -⟩ :=
      (visit_course env OperatorSettings.default .service "shop" "web" w).of_written said written
    obtain ⟨w₁, reads, -⟩ := prepares.reads
    exact ⟨o, o₂, w₂, reads.stored.1, prepares⟩
  have quiet : calm.Disturbs (Store.KeepsStatus webKey) :=
    calm_writable.undisturbed.of_undisturbed (Store.keepsStatus_refl webKey)
  obtain ⟨o, o₂, w₂, found, ready⟩ := prepares calm (fresh []) (by decide +kernel)
  obtain ⟨p, p₂, u₂, found', ready'⟩ := prepares stingy robbed (by decide +kernel)
  obtain ⟨x, stored, located⟩ : ∃ x, (opening calm []).after.store.findObject? webKey = some x ∧
      decide (x.konnect.orgId = "org") := (Option.any_eq_true _ _).mp (by decide +kernel)
  obtain ⟨y, stored', forgot⟩ : ∃ y, bereft.after.store.findObject? webKey = some y ∧
      decide (y.konnectId = "") := (Option.any_eq_true _ _).mp (by decide +kernel)
  have forgot := of_decide_eq_true forgot
  have went : (opening calm []).result = .ok (.requeue OperatorSettings.default.syncPeriod) := by
    decide +kernel
  have failed : bereft.result =
      .error (.remote .create "KongService" "shop/web" (.api 503 "Server Error" "")) :=
    failed_of_told (by decide +kernel)
  have first := (programmed_tells_outcome calm OperatorSettings.default .service "shop" "web" (fresh []) ready
    (fun _ same => nomatch went.symm.trans same) (.inr quiet) stored).2.mp went
  have second := (programmed_tells_outcome stingy OperatorSettings.default .service "shop" "web" robbed ready'
    (fun _ same => nomatch failed.symm.trans same) (.inr quiet) stored').1
  rw [show (visit _ _ _ _ _ robbed).result = _ from failed] at second
  refine ⟨⟨o, x, found, stored, went, first, of_decide_eq_true located⟩, _, p, y, found', stored', failed, forgot,
    ?_⟩
  cases second with
  | failed noted _ org =>
    rw [if_pos forgot] at noted
    exact ⟨noted, org⟩

end

end Reconcile

end GatewaySync
