import GatewaySync.Proofs.History
import GatewaySync.Proofs.Tandem
/-!
# How a sync ends

What follows the resolution of the references is a script as well: a write of the entity edits its id, and
then the origin of the entity and the verdict on it are noted. Two writes that are answered alike come to
the same by the same script.
-/
namespace GatewaySync

open Object (slots slots_append slots_cons)

variable {σ α β : Type}

def SyncError.isFailedCreation : SyncError → Bool
  | remote .create .. => true
  | emptyResponse .create .. => true
  | _ => false

theorem SyncError.isMissingControlPlane_of_isFailedCreation {e : SyncError} (h : e.isFailedCreation) :
    e.isMissingControlPlane = false := by
  cases e <;> first | rfl | cases h

/-- A collection is unknown for want of a control plane only if none is known. -/
theorem Object.controlPlaneId_of_path_error {o : Object} {op : Operation} {e : SyncError}
    (h : o.path op = .error e) (missing : e.isMissingControlPlane) : o.controlPlaneId = "" := by
  have direct (h : o.controlPlanePath op = .error e) : o.controlPlaneId = "" := by
    unfold controlPlanePath at h
    split_ifs at h with unknown
    exact unknown
  have nested {parent : ManagedKind} (h : o.nestedPath op parent = .error e) : o.controlPlaneId = "" := by
    unfold nestedPath at h
    split_ifs at h with unknown orphan
    · exact unknown
    · cases h
      cases missing
  unfold path at h
  split at h
  · cases h
  · exact nested h
  · exact nested h
  · split_ifs at h
    · cases h
      cases missing
    · exact direct h
  · exact direct h

theorem Store.patchTarget_edited (s : Store) (o : Object) (t : Instant) (es : List Edit) :
    s.patchTarget (o.edited t es) = s.patchTarget o :=
  s.patchTarget_congr (o.edited_key t es) (by rw [o.edited_metadata])

theorem Reconcile.failureReason_eq (e : SyncError) (creating : Bool) :
    failureReason e creating =
      if e.isFailedCreation || creating then Reason.failedToCreate else Reason.failedToUpdate := by
  unfold failureReason
  split <;> cases creating <;> simp_all [SyncError.isFailedCreation]

namespace Entity

/-- The objects differ at most in what a write of their entity does not read. -/
structure Alike (o o' : Object) : Prop where
  kind : o'.kind = o.kind
  keyText : o'.keyText = o.keyText
  id : o'.konnectId = o.konnectId
  path : ∀ op, o'.path op = o.path op
  body : o'.body = o.body
  listFilter : o'.listFilter = o.listFilter
  uidTag : o'.metadata.uidTag = o.metadata.uidTag

theorem alike_self (o : Object) : Alike o o := ⟨rfl, rfl, rfl, fun _ => rfl, rfl, rfl, rfl⟩

theorem Alike.withId {o o' : Object} (h : Alike o o') (id : String) :
    Alike (o.withId id) (o'.withId id) := by
  have path (x : Object) (op : Operation) : (x.withId id).path op = x.path op :=
    (learns_withId x id).path op
  have body (x : Object) : (x.withId id).body = x.body := Object.body_congr rfl rfl (x.withId_parentId id)
  have filter (x : Object) : (x.withId id).listFilter = x.listFilter := Object.listFilter_congr rfl rfl
  exact
    { kind := h.kind
      keyText := h.keyText
      id := (learns_withId o' id).id.trans (learns_withId o id).id.symm
      path := fun op => by rw [path, path, h.path]
      body := by rw [body, body, h.body]
      listFilter := by rw [filter, filter, h.listFilter]
      uidTag := h.uidTag }

/-- How a creation changes the object: it takes over an id, or it stays. -/
inductive Makes (o : Object) : Except SyncError Unit → List Edit → Prop
  | made (id : String) : Makes o (.ok ()) [.coordinate .id id]
  | failed {e : SyncError} (creation : e.isFailedCreation ∨ o.path .create = .error e) :
      Makes o (.error e) []

theorem Makes.homeless {o : Object} {e : SyncError} {es : List Edit} (h : Makes o (.error e) es)
    (missing : e.isMissingControlPlane) : o.controlPlaneId = "" := by
  cases h with
  | failed creation =>
    rcases creation with creation | pathless
    · rw [SyncError.isMissingControlPlane_of_isFailedCreation creation] at missing
      cases missing
    · exact Object.controlPlaneId_of_path_error pathless missing

/-- How a write changes the object. If it fails, the id stays, unless the entity was lost and could not
be created again; it only fails for want of a control plane if none is known. -/
inductive Writes (o : Object) : Except SyncError Unit → List Edit → Prop
  | done {es : List Edit} (only : ∀ s ∈ slots es, s = .coordinate .id) : Writes o (.ok ()) es
  | kept {e : SyncError} (kept : o.konnectId = "" ∨ e.isFailedCreation = false)
      (homeless : e.isMissingControlPlane → o.controlPlaneId = "") : Writes o (.error e) []
  | lost {e : SyncError} (known : o.konnectId ≠ "") (creation : e.isFailedCreation) :
      Writes o (.error e) [.coordinate .id ""]

theorem Writes.only {o : Object} {r : Except SyncError Unit} {es : List Edit} (h : Writes o r es) :
    ∀ s ∈ slots es, s = .coordinate .id := by
  cases h with
  | done only => exact only
  | kept => simp [slots]
  | lost => simp [slots, Edit.slot?]

theorem Writes.homeless {o : Object} {e : SyncError} {es : List Edit} (h : Writes o (.error e) es)
    (missing : e.isMissingControlPlane) : o.controlPlaneId = "" := by
  cases h with
  | kept _ homeless => exact homeless missing
  | lost _ creation =>
    rw [SyncError.isMissingControlPlane_of_isFailedCreation creation] at missing
    cases missing

end Entity

/-- Nothing is excused, and whatever is asked of Konnect is answered alike. -/
structure Tandem.Asks {env env' : Environment σ} {kind : ManagedKind} (T : Tandem env env' kind) :
    Prop where
  sure : ∀ e, ¬ T.fails e
  sure' : ∀ e, ¬ T.fails' e
  answers : ∀ call w w', T.Beside w w' →
    (w'.ask env' call).1 = (w.ask env call).1 ∧ T.Beside (w.ask env call).2 (w'.ask env' call).2

namespace Tandem

open Pass Entity

variable {env env' : Environment σ} {kind : ManagedKind} {T : Tandem env env' kind}
  {P : Except SyncError α → List Edit → Prop} {p p' : Pass σ α} {o o' : Object} {w w' : World σ}

/-- What goes on after an attempt is told how it went. -/
theorem Agree.attempt {Q : Except SyncError β → List Edit → Prop} {f f' : Except SyncError α → Pass σ β}
    (asks : T.Asks) (first : T.Agree P p p' o o' w w')
    (next : ∀ r es v v', P r es → T.Beside v v' →
      T.Agree (fun q ds => Q q (es ++ ds)) (f r) (f' r) (o.edited T.now es) (o'.edited T.now' es) v v') :
    T.Agree Q (p.attempt >>= f) (p'.attempt >>= f') o o' w w' := by
  cases first with
  | left _ excused => exact absurd excused (asks.sure _)
  | right _ excused => exact absurd excused (asks.sure' _)
  | both run run' beside script =>
    have rest := next _ _ _ _ script beside
    cases rest with
    | left _ excused => exact absurd excused (asks.sure _)
    | right _ excused => exact absurd excused (asks.sure' _)
    | both last last' beside script =>
      rw [← Object.edited_append] at last last'
      exact .both ((onObject_bind_attempt run).trans last) ((onObject_bind_attempt run').trans last')
        beside script

theorem agree_modify {P : Except SyncError Unit → List Edit → Prop} (e : Edit) {g : Object → Object}
    (edit : ∀ t x, g x = e.apply t x) (beside : T.Beside w w') (script : P (.ok ()) [e]) :
    T.Agree P (modifyObject g) (modifyObject g) o o' w w' := by
  refine .both (l := [e]) ?_ ?_ beside script
  · rw [onObject_modifyObject, edit T.now]
    rfl
  · rw [onObject_modifyObject, edit T.now']
    rfl

theorem agree_ofExcept (beside : T.Beside w w') (r : Except SyncError α) :
    T.Agree (fun q es => q = r ∧ es = []) (Pass.ofExcept r) (Pass.ofExcept r) o o' w w' :=
  .both (l := []) (onObject_ofExcept r o w) (onObject_ofExcept r o' w') beside ⟨rfl, rfl⟩

theorem agree_ask (asks : T.Asks) (beside : T.Beside w w') (call : RemoteCall) :
    T.Agree (fun r es => ∃ answer, r = .ok answer ∧ es = []) (onWorld (World.ask env call))
      (onWorld (World.ask env' call)) o o' w w' := by
  obtain ⟨same, after⟩ := asks.answers call w w' beside
  refine .both (l := []) (onObject_onWorld _ o w) ?_ after ⟨_, rfl, rfl⟩
  rw [onObject_onWorld, same]
  rfl

theorem call_agree (asks : T.Asks) (beside : T.Beside w w') (op : Operation) {x x' : Object}
    (alike : Alike x x') (c : RemoteCall) :
    T.Agree (fun r es => es = [] ∧
        ∀ e, r = .error e → ∃ source, e = .remote op x.kind.name x.keyText source)
      (call env op x c) (call env' op x' c) o o' w w' := by
  have again (e : RemoteError) : failed op x' e = failed op x e := by
    rw [failed, failed, alike.kind, alike.keyText]
  refine (agree_ask asks beside c).bind (by rintro e es ⟨answer, failed, -⟩; cases failed) ?_
  rintro (e | answer) es v v' ⟨_, -, rfl⟩ beside
  · dsimp only
    rw [again]
    refine agree_throw beside ⟨rfl, fun e' same => ?_⟩
    cases same
    exact ⟨e, rfl⟩
  · exact agree_pure beside ⟨rfl, by simp⟩

theorem create_agree (asks : T.Asks) (beside : T.Beside w w') (alike : Alike o o') :
    T.Agree (Makes o) (create env) (create env') o o' w w' := by
  apply Agree.object
  rw [alike.path, alike.body, alike.kind, alike.keyText]
  refine (agree_ofExcept beside _).bind (fun e es script => ?_) ?_
  · obtain ⟨pathless, rfl⟩ := script
    exact .failed (.inr pathless.symm)
  rintro p es v v' ⟨-, rfl⟩ beside
  refine (call_agree asks beside .create alike _).bind (fun e es script => ?_) ?_
  · obtain ⟨rfl, failed⟩ := script
    obtain ⟨source, rfl⟩ := failed e rfl
    exact .failed (.inl rfl)
  rintro created es u u' ⟨rfl, -⟩ beside
  cases usableId created with
  | none => exact agree_throw beside (.failed (.inl rfl))
  | some id => exact agree_modify (.coordinate .id id) (fun _ _ => rfl) beside (.made id)

theorem update_agree (asks : T.Asks) (beside : T.Beside w w') (alike : Alike o o') :
    T.Agree (fun r es => es = [] ∧ ∀ e, r = .error e → e.isFailedCreation = false ∧
        (e.isRemoteNotFound → ∃ p, o.path .update = .ok p) ∧ (e.isMissingControlPlane → o.controlPlaneId = ""))
      (update env) (update env') o o' w w' := by
  apply Agree.object
  rw [alike.path, alike.body, alike.id, alike.kind, alike.keyText]
  refine (agree_ofExcept beside _).bind (fun e es script => ?_) ?_
  · obtain ⟨pathless, rfl⟩ := script
    have missing := Object.path_error pathless.symm
    refine ⟨rfl, fun e' same => ?_⟩
    cases same
    refine ⟨?_, fun lost => ?_, Object.controlPlaneId_of_path_error pathless.symm⟩
    · cases e <;> first | rfl | cases missing
    · rw [SyncError.isRemoteNotFound_of_isMissingReference missing] at lost
      cases lost
  rintro p es v v' ⟨found, rfl⟩ beside
  dsimp only
  split
  · refine Agree.bind (P := fun r es => r = .error _ ∧ es = []) (agree_throw beside ⟨rfl, rfl⟩) ?_ (by simp)
    rintro e es ⟨same, rfl⟩
    cases same
    refine ⟨rfl, fun e' same => ?_⟩
    cases same
    exact ⟨rfl, (fun lost => by cases lost), fun missing => by cases missing⟩
  · refine (call_agree asks beside .update alike _).bind (fun e es script => ?_) ?_
    · obtain ⟨rfl, failed⟩ := script
      obtain ⟨source, rfl⟩ := failed e rfl
      refine ⟨rfl, fun e' same => ?_⟩
      cases same
      exact ⟨rfl, fun _ => ⟨p, found.symm⟩, fun missing => by cases missing⟩
    · rintro _ es u u' ⟨rfl, -⟩ beside
      exact agree_pure beside ⟨rfl, by simp⟩

theorem findByIdentity_agree (asks : T.Asks) (beside : T.Beside w w') (alike : Alike o o') :
    T.Agree (fun _ es => es = []) (findByIdentity env) (findByIdentity env') o o' w w' := by
  apply Agree.object
  rw [alike.path, alike.listFilter]
  refine (agree_ofExcept beside _).bind (fun _ _ script => script.2) ?_
  rintro p es v v' ⟨-, rfl⟩ beside
  refine (call_agree asks beside .list alike _).bind (fun _ _ script => script.1) ?_
  rintro found es u u' ⟨rfl, -⟩ beside
  have same : onlyId o' found = onlyId o found := by
    simp only [onlyId, alike.kind, alike.uidTag]
  rw [same]
  exact (agree_ofExcept beside _).mono fun _ _ script => script.2

theorem createOrAdopt_agree (asks : T.Asks) (beside : T.Beside w w') (alike : Alike o o') :
    T.Agree (Makes o) (createOrAdopt env) (createOrAdopt env') o o' w w' := by
  refine (create_agree asks beside alike).attempt asks fun r es v v' created beside => ?_
  cases created with
  | made id => exact agree_pure beside (.made id)
  | @failed e creation =>
    dsimp only
    split
    · refine (findByIdentity_agree asks beside alike).attempt asks ?_
      rintro (e' | id) es u u' rfl beside
      · exact agree_throw beside (.failed creation)
      · exact agree_modify (.coordinate .id id) (fun _ _ => rfl) beside (.made id)
    · exact agree_throw beside (.failed creation)

theorem updateOrRecreate_agree (asks : T.Asks) (beside : T.Beside w w') (alike : Alike o o')
    (known : o.konnectId ≠ "") :
    T.Agree (Writes o) (updateOrRecreate env) (updateOrRecreate env') o o' w w' := by
  refine (update_agree asks beside alike).attempt asks ?_
  rintro (e | _) es v v' ⟨rfl, failed⟩ beside
  · obtain ⟨other, placed, homeless⟩ := failed e rfl
    dsimp only
    split
    · rename_i lost
      obtain ⟨p, path⟩ := placed lost
      refine Agree.modify (.coordinate .id "") (fun _ _ => rfl) ?_
      refine (createOrAdopt_agree asks beside (alike.withId "")).mono ?_
      rintro r es made
      cases made with
      | made id => exact .done (by simp [slots, Edit.slot?])
      | failed creation =>
        have there : (o.withId "").path .create = .ok p :=
          ((learns_withId o "").path .create).trans (Object.path_update.mp path)
        refine .lost known (creation.resolve_right fun pathless => ?_)
        rw [there] at pathless
        cases pathless
    · exact agree_throw beside (.kept (.inr other) homeless)
  · exact agree_pure beside (.done (by simp [slots]))

/-- Writes that are answered alike come to the same by the same script. -/
theorem write_agree (asks : T.Asks) (beside : T.Beside w w') (alike : Alike o o') :
    T.Agree (Writes o) (write env o.konnectId) (write env' o'.konnectId) o o' w w' := by
  rw [alike.id]
  unfold write
  split
  · rename_i unknown
    refine (createOrAdopt_agree asks beside alike).mono ?_
    rintro r es made
    cases made with
    | made id => exact .done (by simp [slots, Edit.slot?])
    | failed creation => exact .kept (.inl unknown) (Makes.failed creation).homeless
  · rename_i known
    exact updateOrRecreate_agree asks beside alike known

def alone (env : Environment σ) (kind : ManagedKind) (t : Instant) : Tandem env env kind where
  now := t
  now' := t
  near w w' := w' = w
  fails _ := False
  fails' _ := False
  drift call w w' same := by rw [same]
  reads key w w' same := .inr (.inr (by rw [same]))

theorem beside_alone (w : World σ) : (alone env kind w.now).Beside w w := ⟨fun _ _ => rfl, rfl, rfl, rfl⟩

theorem alone_asks (t : Instant) : (alone env kind t).Asks where
  sure _ := id
  sure' _ := id
  answers call w w' beside := by
    obtain rfl : w' = w := beside.near
    exact ⟨rfl, fun _ _ => rfl, rfl, beside.now, beside.now⟩

theorem resembles_alone (o : Object) (t : Instant) : (alone env o.kind t).Resembles o o :=
  ⟨rfl, rfl, rfl, rfl, .inl .rfl⟩

end Tandem

namespace Reconcile

open Pass World Entity

variable {env : Environment σ} {o o' : Object} {w w' : World σ}

def origin (serverUrl : String) (answer : Except RemoteError String) : List Edit :=
  .coordinate .serverUrl serverUrl ::
    match answer with
    | .ok org => [.coordinate .orgId org]
    | .error _ => []

theorem located_eq (o : Object) (answer : Except RemoteError String) (t : Instant) :
    located env o answer = o.edited t (origin env.serverUrl answer) := by
  rcases o with ⟨m, s, _ | status⟩ <;> cases answer <;> rfl

def upToDate : Verdict := ⟨ConditionType.programmed, .true, Reason.programmed, ""⟩

/-- The script of a write: what becomes of the id, then the origin of the entity if the write went well,
and the verdict. -/
inductive Concludes (env : Environment σ) (o : Object) : Except SyncError Unit → List Edit → Prop
  | written {ids : List Edit} (writes : Writes o (.ok ()) ids) (answer : Except RemoteError String) :
      Concludes env o (.ok ()) (ids ++ (origin env.serverUrl answer ++ [.note upToDate]))
  | failed {e : SyncError} {ids : List Edit} (writes : Writes o (.error e) ids) :
      Concludes env o (.error e) (ids ++ [.note (unprogrammed o e)])

theorem origin_slots (serverUrl : String) (answer : Except RemoteError String) :
    ∀ s ∈ slots (origin serverUrl answer), s = .coordinate .serverUrl ∨ s = .coordinate .orgId := by
  cases answer <;> simp [origin, slots, Edit.slot?]

section

variable {r : Except SyncError Unit} {es ds : List Edit}

/-- A write edits nothing that the references edit. -/
theorem Concludes.apart (h : Concludes env o r ds) {kind : ManagedKind} {s : Slot}
    (there : s ∈ Tandem.referenceSlots kind) : s ∉ slots ds := by
  obtain ⟨programmed, id, serverUrl, orgId⟩ := Tandem.not_mem_referenceSlots kind
  intro mem
  cases h with
  | written writes answer =>
    simp only [slots_append, List.mem_append] at mem
    rcases mem with mem | mem | mem
    · exact id (writes.only s mem ▸ there)
    · rcases origin_slots _ _ s mem with rfl | rfl
      · exact serverUrl there
      · exact orgId there
    · exact programmed (List.mem_singleton.mp mem ▸ there)
  | failed writes =>
    simp only [slots_append, List.mem_append] at mem
    rcases mem with mem | mem
    · exact id (writes.only s mem ▸ there)
    · exact programmed (List.mem_singleton.mp mem ▸ there)

theorem Concludes.once (h : Concludes env o r ds) {s : Slot} (other : s ≠ .coordinate .id) :
    (slots ds).count s ≤ 1 := by
  have ends {ids rest : List Edit} (only : ∀ s ∈ slots ids, s = .coordinate .id)
      (nodup : (slots rest).Nodup) : (slots (ids ++ rest)).count s ≤ 1 := by
    rw [slots_append, List.count_append, List.count_eq_zero.mpr fun mem => other (only s mem), Nat.zero_add]
    exact List.nodup_iff_count_le_one.mp nodup s
  cases h with
  | written writes answer => exact ends writes.only (by cases answer <;> simp [origin, slots, Edit.slot?])
  | failed writes => exact ends writes.only (List.nodup_singleton _)

/-- What a write says of other things than the id is so in the end. -/
theorem Concludes.settled (h : Concludes env o r ds) (t : Instant) {e : Edit} (he : e ∈ ds)
    (other : e.slot? ≠ some (.coordinate .id)) : e.Settled (o.edited t ds) :=
  Edit.settled_edited o t (fun _ hs => h.once fun same => other (hs.trans (congrArg some same))) he

theorem Concludes.status (h : Concludes env o r ds) (t : Instant) : (o.edited t ds).status.isSome := by
  have noted (es : List Edit) (v : Verdict) : (o.edited t (es ++ [.note v])).status.isSome := by
    rw [Object.edited_append]
    rfl
  cases h with
  | written _ answer =>
    rw [← List.append_assoc]
    exact noted _ _
  | failed => exact noted _ _

/-- A write leaves alone what the references brought about. -/
theorem Concludes.keeps (h : Concludes env o r ds) (t : Instant) {kind : ManagedKind} {e : Edit}
    (within : ∀ s ∈ e.slot?, s ∈ Tandem.referenceSlots kind) (settled : e.Settled o) :
    e.Settled (o.edited t ds) :=
  settled.edited t ds fun s hs => h.apart (within s hs)

end

theorem write_scripted (env : Environment σ) (o : Object) (w : World σ) :
    ∃ r es v, (write env o.konnectId).onObject o w = (r, o.edited w.now es, v) ∧ v.now = w.now ∧
      Writes o r es := by
  have beside : (Tandem.alone env o.kind w.now).Beside w w := Tandem.beside_alone w
  have agree := Tandem.write_agree (Tandem.alone_asks w.now) beside (alike_self o)
  cases agree with
  | left _ excused => exact excused.elim
  | right _ excused => exact excused.elim
  | both run _ beside script => exact ⟨_, _, _, run, beside.now, script⟩

theorem write_talks {r : Except SyncError Unit} (run : (write env o.konnectId).onObject o w = (r, o', w')) :
    ∃ talk, Talks env w talk w' ∧
      ((∃ e, o.path .create = .error e ∧ talk = [] ∧ r.isOk = false ∧ o'.konnectId = o.konnectId) ∨
        ∃ p, o.path .create = .ok p ∧
          Writing p o.body o.listFilter o.konnectId talk r.isOk o'.konnectId) := by
  cases path : o.path .create with
  | error e =>
    obtain ⟨e', run'⟩ := onObject_write_pathless env path w
    rw [run] at run'
    cases run'
    exact ⟨[], .done w, .inl ⟨e, rfl, rfl, rfl, rfl⟩⟩
  | ok p =>
    obtain ⟨talk, ok, id, r', o₁, w₁, run', spoken, talks, learns, rfl⟩ := write_speaks env path w
    rw [run] at run'
    cases run'
    rw [← learns.id] at spoken
    exact ⟨talk, talks, .inr ⟨p, rfl, spoken⟩⟩

theorem edited_note (o : Object) (t : Instant) (es : List Edit) (v : Verdict) :
    o.edited t (es ++ [.note v]) = (o.edited t es).record v t :=
  o.edited_append t es [.note v]

/-- The script of a write that went well keeps what Konnect told last, which is the organization. -/
def Recalls (env : Environment σ) (o : Object) (talk : List Exchange) (es : List Edit) : Prop :=
  ∃ s answer ids, talk.getLast? = some ⟨s, .organizationId, answer⟩ ∧ Writes o (.ok ()) ids ∧
    es = ids ++ (origin env.serverUrl answer ++ [.note upToDate])

/-- What is left of a pass once the entity is written is to store the status. -/
theorem writeEntity_concludes (env : Environment σ) (fetched : Option Status) (o : Object) (w : World σ) :
    ∃ talk r es v, Spoken o talk r.isOk (o.edited w.now es).konnectId ∧ Talks env w talk v ∧
      Concludes env o r es ∧ (∀ e, r = .error e → OwnFailure e) ∧ (r.isOk → Recalls env o talk es) ∧
      (writeEntity env fetched).onObject o w =
        (persistStatus env fetched >>= fun _ => Pass.ofExcept r).onObject (o.edited w.now es) v := by
  obtain ⟨r, ids, v, run, now, writes⟩ := write_scripted env o w
  have own : ∀ e, r = .error e → OwnFailure e := fun e same =>
    ownFailure_of_isOperational (write_failsWith env o.konnectId o w e (by rw [run, same]))
  obtain ⟨talk, talks, spoken⟩ := write_talks run
  have ends := onObject_writeEntity env run fetched
  cases r with
  | error e =>
    have known : (o.edited w.now (ids ++ [.note (unprogrammed o e)])).konnectId =
        (o.edited w.now ids).konnectId := by
      rw [edited_note, Object.konnectId, Object.record_konnect, Object.konnectId]
    refine ⟨talk, .error e, _, v, ?_, talks, .failed writes, own, (fun ok => by cases ok), ?_⟩
    · rw [known]
      rcases spoken with ⟨e', path, rfl, -, same⟩ | ⟨p, path, spoken⟩
      · rw [same]
        exact .pathless path
      · exact .unwritten path spoken
    · dsimp only at ends
      rw [now] at ends
      rw [edited_note]
      exact ends
  | ok _ =>
    have known : (o.edited w.now (ids ++ (origin env.serverUrl (v.ask env .organizationId).1 ++
        [.note upToDate]))).konnectId = (o.edited w.now ids).konnectId := by
      rw [← List.append_assoc, edited_note, Object.konnectId, Object.record_konnect, Object.edited_append]
      refine Object.edited_get (f := .id) (fun mem => ?_) _ _
      rcases origin_slots _ _ _ mem with same | same <;> cases same
    refine ⟨_, .ok (), _, _, ?_, talks.append (talks_ask env .organizationId v),
      .written writes (v.ask env .organizationId).1, own, fun _ => ⟨v.store, _, ids, List.getLast?_concat, writes, rfl⟩,
      ?_⟩
    · rw [known]
      rcases spoken with ⟨e', -, -, failed, -⟩ | ⟨p, path, spoken⟩
      · cases failed
      · exact .written path spoken
    · dsimp only at ends
      rw [now] at ends
      rw [← List.append_assoc, edited_note, Object.edited_append, ← located_eq]
      exact ends

def notice : Except SyncError Readiness → List Edit
  | .error (.missingControlPlaneId op kind key) =>
    [.note ⟨ConditionType.programmed, .unknown, Reason.missingControlPlaneId,
      (SyncError.missingControlPlaneId op kind key).message⟩]
  | _ => []

theorem onObject_notice (e : SyncError) (o : Object) (w : World σ) :
    (recordMissingControlPlane e).onObject o w = (.ok (), o.edited w.now (notice (.error e)), w) := by
  cases e <;> rfl

theorem patchMetadata_now (o : Object) (w : World σ) : (w.patchMetadata env o).2.now = w.now := by
  have now : (w.attempt env (.patchMetadata o.key)).2.now = w.now := rfl
  unfold patchMetadata
  rcases h : w.attempt env (.patchMetadata o.key) with ⟨_ | _ | _, v⟩ <;> rw [h] at now <;> exact now

theorem persistMetadata_now {fetched : Metadata} {b : Except SyncError Bool}
    (h : (persistMetadata env fetched).onObject o w = (b, o', w')) : w'.now = w.now := by
  rcases persistMetadata_world h with rfl | rfl
  · rfl
  · exact patchMetadata_now _ w

/-- Every way in which a sync ends whose references came to a result, with the object that its status is
stored of. -/
inductive Ends (env : Environment σ) (o : Object) (q : Except SyncError Readiness) (o₁ : Object)
    (v : World σ) : Except SyncError Outcome → World σ → Prop
  | unready {s : Except SyncError Unit} {w' : World σ} (unready : q ≠ .ok .ready)
      (kept : (persistStatus env o.status).onObject (o₁.edited v.now (notice q)) v =
        (s, o₁.edited v.now (notice q), w')) :
      Ends env o q o₁ v (s.bind fun _ => q.map fun _ => .waiting) w'
  | unprepared {e : SyncError} {o₂ : Object} {w' : World σ} (ready : q = .ok .ready)
      (prepared : (persistMetadata env o.metadata).onObject o₁ v = (.error e, o₂, w')) :
      Ends env o q o₁ v (.error e) w'
  | gone {o₂ : Object} {w' : World σ} (ready : q = .ok .ready)
      (prepared : (persistMetadata env o.metadata).onObject o₁ v = (.ok false, o₂, w')) :
      Ends env o q o₁ v (.ok .gone) w'
  | spoken {o₂ : Object} {v₂ v₃ w' : World σ} {talk : List Exchange} {r s : Except SyncError Unit}
      {es : List Edit} (ready : q = .ok .ready)
      (prepared : (persistMetadata env o.metadata).onObject o₁ v = (.ok true, o₂, v₂))
      (spoken : Spoken o₂ talk r.isOk (o₂.edited v.now es).konnectId) (talks : Talks env v₂ talk v₃)
      (concludes : Concludes env o₂ r es) (own : ∀ e, r = .error e → OwnFailure e)
      (kept : (persistStatus env o.status).onObject (o₂.edited v.now es) v₃ =
        (s, o₂.edited v.now es, w')) :
      Ends env o q o₁ v (s.bind fun _ => r.map fun _ => .synced) w'

section

variable {o₁ o₂ m : Object} {v v₂ : World σ}

/-- A sync whose references are not ready stores what is noted of them. -/
theorem sync_of_unready {q : Except SyncError Readiness} {s : Except SyncError Unit}
    (resolved : (Resolve.references env).onObject o w = (q, o₁, v)) (unready : q ≠ .ok .ready)
    (kept : (persistStatus env o.status).onObject (o₁.edited v.now (notice q)) v = (s, m, w')) :
    (sync env).onObject o w = (s.bind fun _ => q.map fun _ => .waiting, m, w') := by
  have start : (sync env).onObject o w = _ :=
    (onObject_bind_ok (onObject_object o w)).trans (onObject_bind_attempt resolved)
  rcases q with e | _ | _
  · have run := onObject_bind_ofExcept kept (.error e : Except SyncError Outcome)
    exact start.trans ((onObject_bind_ok (onObject_notice e o₁ v)).trans run)
  · exact absurd rfl unready
  · exact start.trans (onObject_bind_ofExcept kept (.ok .waiting : Except SyncError Outcome))

/-- A sync ends early if finalizer and owner can not be stored, or the object went away. -/
theorem sync_of_unprepared {b : Except SyncError Bool}
    (resolved : (Resolve.references env).onObject o w = (.ok .ready, o₁, v))
    (prepared : (persistMetadata env o.metadata).onObject o₁ v = (b, o₂, w')) (unprepared : b ≠ .ok true) :
    (sync env).onObject o w = (b.map fun _ => .gone, o₂, w') := by
  have start : (sync env).onObject o w = _ :=
    (onObject_bind_ok (onObject_object o w)).trans (onObject_bind_attempt resolved)
  rcases b with e | _ | _
  · exact start.trans (onObject_bind_error prepared)
  · exact start.trans (onObject_bind_ok prepared)
  · exact absurd rfl unprepared

theorem sync_of_prepared {r : Except SyncError Unit}
    (resolved : (Resolve.references env).onObject o w = (.ok .ready, o₁, v))
    (prepared : (persistMetadata env o.metadata).onObject o₁ v = (.ok true, o₂, v₂))
    (written : (writeEntity env o.status).onObject o₂ v₂ = (r, m, w')) :
    (sync env).onObject o w = (r.map fun _ => .synced, m, w') := by
  rw [sync, onObject_bind_ok (onObject_object o w), onObject_bind_attempt resolved]
  refine (onObject_bind_ok prepared).trans ?_
  rcases r with e | _
  · exact onObject_bind_error written
  · exact onObject_bind_ok written

theorem sync_ends {q : Except SyncError Readiness}
    (resolved : (Resolve.references env).onObject o w = (q, o₁, v)) :
    ∃ r m w', (sync env).onObject o w = (r, m, w') ∧ Ends env o q o₁ v r w' := by
  by_cases ready : q = .ok .ready
  · subst ready
    rcases prepared : (persistMetadata env o.metadata).onObject o₁ v with ⟨e | _ | _, o₂, v₂⟩
    · exact ⟨_, o₂, v₂, sync_of_unprepared resolved prepared (by simp), .unprepared rfl prepared⟩
    · exact ⟨_, o₂, v₂, sync_of_unprepared resolved prepared (by simp), .gone rfl prepared⟩
    · obtain ⟨talk, r, es, v₃, spoken, talks, concludes, own, -, written⟩ :=
        writeEntity_concludes env o.status o₂ v₂
      rw [persistMetadata_now prepared] at spoken written
      obtain ⟨s, w', kept⟩ := persistStatus_keeps_object env o.status (o₂.edited v.now es) v₃
      have run := sync_of_prepared resolved prepared (written.trans (onObject_bind_ofExcept kept r))
      refine ⟨s.bind fun _ => r.map fun _ => .synced, o₂.edited v.now es, w', ?_,
        .spoken rfl prepared spoken talks concludes own kept⟩
      cases s <;> exact run
  · obtain ⟨s, w', kept⟩ := persistStatus_keeps_object env o.status (o₁.edited v.now (notice q)) v
    exact ⟨_, _, w', sync_of_unready resolved ready kept, .unready ready kept⟩

end

variable {settings : OperatorSettings} {kind : ManagedKind} {ns name : String}

variable (settings)

theorem visit_of_sync {w₁ w₂ : World σ} {r : Except SyncError Outcome} {m : Object}
    (reads : Reads env ⟨kind, ns, name⟩ w o w₁) (need : o.need = .sync)
    (run : (sync env).onObject o w₁ = (r, m, w₂)) :
    (visit env settings kind ns name w).result = r.map (nextLook settings) ∧
      ∃ b, (visit env settings kind ns name w).after = { w₂ with backoff := b } := by
  obtain ⟨found, read, fetched⟩ := reads
  simp only [visit, pass, read, fetched, need, runOn, run]
  rcases r with e | _ | _ | _ <;> exact ⟨rfl, _, rfl⟩

theorem visit_of_idle {w₁ : World σ} {r : Except SyncError (Option Resource)}
    (read : w.get env ⟨kind, ns, name⟩ = (r, w₁))
    (idle : ∀ found o, r = .ok found → found.bind Resource.object? = some o → o.need = .nothing) :
    (visit env settings kind ns name w).result = r.map (fun _ => .awaitChange) ∧
      ∃ b, (visit env settings kind ns name w).after = { w₁ with backoff := b } := by
  rcases r with e | found
  · simp only [visit, pass, read]
    exact ⟨rfl, _, rfl⟩
  · cases fetched : found.bind Resource.object? with
    | none =>
      simp only [visit, pass, read, fetched]
      exact ⟨rfl, _, rfl⟩
    | some o =>
      simp only [visit, pass, read, fetched, idle found o rfl fetched]
      exact ⟨rfl, _, rfl⟩

theorem visit_of_cleanup {w₁ w₂ : World σ} {r : Except SyncError Unit} {m : Object}
    (reads : Reads env ⟨kind, ns, name⟩ w o w₁) (need : o.need = .cleanup)
    (run : (cleanup env).onObject o w₁ = (r, m, w₂)) :
    (visit env settings kind ns name w).result = r.map (fun _ => .awaitChange) ∧
      ∃ b, (visit env settings kind ns name w).after = { w₂ with backoff := b } := by
  obtain ⟨found, read, fetched⟩ := reads
  simp only [visit, pass, read, fetched, need, runOn, run]
  rcases r with e | _ <;> exact ⟨rfl, _, rfl⟩

theorem visit_ends {w₁ v : World σ} {q : Except SyncError Readiness} {o₁ : Object}
    (reads : Reads env ⟨kind, ns, name⟩ w o w₁) (need : o.need = .sync)
    (resolved : (Resolve.references env).onObject o w₁ = (q, o₁, v)) :
    ∃ r w' b, Ends env o q o₁ v r w' ∧
      (visit env settings kind ns name w).result = r.map (nextLook settings) ∧
        (visit env settings kind ns name w).after = { w' with backoff := b } := by
  obtain ⟨r, m, w', run, ends⟩ := sync_ends resolved
  obtain ⟨result, b, after⟩ := visit_of_sync settings reads need run
  exact ⟨r, w', b, ends, result, after⟩

end Reconcile

end GatewaySync
