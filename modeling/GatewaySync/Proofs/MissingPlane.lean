import GatewaySync.Proofs.Bindings
import GatewaySync.Proofs.Transitions
import GatewaySync.Proofs.Verdicts
/-!
# Objects without a control plane

That no control plane is known is found in two places: when the references are resolved, and when the entity
is to be written. In the first case nothing can be told of the entity, and nothing is held for it. The second
one is only met by an object that asks for the control plane with the empty id: its references are taken to be
ready, so the finalizer is held, and the status tells of a write that failed.
-/
namespace GatewaySync

namespace Resolve

open Pass

variable {σ : Type} (env : Environment σ)

theorem lookupOrForget_failsWith (forget : Object → Object) (condition : String) (kind : ManagedKind)
    (name : String) (ns : Option String) :
    FailsWith ForeignFailure (lookupOrForget env forget condition kind name ns) := by
  refine (lookup_failsWith env condition kind name ns).bind_attempt fun r other => ?_
  rcases r with e | _ | target
  · exact (failsWith_modifyObject _).bind fun _ => failsWith_throw (other e rfl)
  · exact (failsWith_modifyObject _).bind fun _ => failsWith_pure _
  · exact failsWith_pure _

theorem parent_failsWith (kind : ManagedKind) : FailsWith ForeignFailure (parent env kind) := by
  have settled (id : String) (q : Resolution) : FailsWith ForeignFailure (do
      Pass.modifyObject (·.withParentId id)
      Pass.record (.valid kind.linkCondition)
      return q : Pass σ Resolution) :=
    (failsWith_modifyObject _).bind fun _ => (failsWith_record _).bind fun _ => failsWith_pure _
  refine failsWith_object.bind fun o => ?_
  dsimp only
  split
  · exact settled _ _
  · exact settled _ _
  · refine (lookupOrForget_failsWith env _ _ _ _ _).bind fun found => ?_
    cases found with
    | none => exact failsWith_pure _
    | some target => exact settled _ _

theorem plugin_failsWith (ns name : String) : FailsWith ForeignFailure (plugin env ns name) := by
  refine (get_failsWith env _).bind fun found => ?_
  split
  · split
    · exact refuse_failsWith _ _ rfl
    · exact (failsWith_record _).bind fun _ => failsWith_pure _
  · exact refuse_failsWith _ _ rfl

theorem target_failsWith (kind : ManagedKind) (name : Option String) :
    FailsWith ForeignFailure (target env kind name) := by
  cases name with
  | none => exact failsWith_pure _
  | some name =>
    refine (lookup_failsWith env _ _ _ _).bind fun found => ?_
    cases found with
    | none => exact failsWith_pure _
    | some found => exact (failsWith_record _).bind fun _ => failsWith_pure _

theorem binding_failsWith (s : PluginBindingSpec) : FailsWith ForeignFailure (binding env s) := by
  refine (failsWith_modifyObject _).bind fun _ => failsWith_object.bind fun o => ?_
  refine (plugin_failsWith env _ _).bind fun applied => ?_
  refine (target_failsWith env _ _).bind fun service => ?_
  refine (target_failsWith env _ _).bind fun route => ?_
  refine (target_failsWith env _ _).bind fun consumer => ?_
  dsimp only
  split
  · exact failsWith_pure _
  · split
    · exact refuse_failsWith _ _ rfl
    · exact (failsWith_modifyObject _).bind fun _ => failsWith_pure _

/-- Neither a parent nor a binding fails for want of the own control plane. -/
theorem parentOf_failsWith : FailsWith ForeignFailure (parentOf env) := by
  refine failsWith_object.bind fun o => ?_
  split
  · exact binding_failsWith env _
  · exact parent_failsWith env _
  · exact failsWith_pure _

variable {env} {o o' : Object} {w w' : World σ}

theorem inherited_ne_empty {q : Resolution} (run : (parentOf env).onObject o w = (.ok q, o', w')) :
    q.inherited? ≠ some "" := by
  by_cases waiting : q = .notReady
  · simp [waiting, Resolution.inherited?]
  cases has : o.kind.parentKind? with
  | some kind =>
    cases parented_of_parentOf has run with
    | unset | given => simp [Resolution.inherited?]
    | @found _ _ target _ link =>
      rw [Resolution.inherited?]
      split_ifs with unknown
      · exact (Option.some_ne_none _).symm
      · exact fun same => unknown (Option.some.inj same)
    | invalid _ failed => exact absurd (failed q rfl) waiting
  | none => exact (inherits_of_parentless has run waiting).2

/-- References fail for want of a control plane only if none is asked for. -/
theorem unplaced_of_error {e : SyncError} (h : Resolving env o w (.error e) o')
    (missing : e.isMissingControlPlane) : o.spec.controlPlaneRef = none ∧ o'.controlPlaneId = "" := by
  have foreign {e' : SyncError} (other : ForeignFailure e') (same : e' = e) : False := by
    rw [ForeignFailure, same, missing] at other
    cases other
  cases h with
  | @unparented q _ _ w₁ parent _ outcome =>
    cases q with
    | error e' =>
      have other : ForeignFailure e' := parentOf_failsWith env o w e' (by rw [parent])
      exact (foreign other (Except.error.inj outcome).symm).elim
    | ok => cases outcome
  | @homeless q q' _ o₁ _ w₁ parent home _ outcome =>
    cases q' with
    | ok => cases outcome
    | error =>
      cases outcome
      have leaves := leaves_of_parentOf parent
      cases home with
      | missing ref _ home => exact ⟨leaves.controlPlaneRef.symm.trans ref, home⟩
      | invalid _ _ other => exact (foreign (other e rfl) rfl).elim
      | unread => cases missing
  | disagreeing _ other => exact (foreign other rfl).elim

/-- References are ready without a control plane only if the one with the empty id is asked for. -/
theorem unnamed_of_ready (inPlane : o.kind.controlPlaneScoped) (h : Resolving env o w (.ok .ready) o')
    (homeless : o'.controlPlaneId = "") : o.spec.controlPlaneRef = some (.konnectId "") := by
  obtain ⟨q, q', o₁, o₂, w₁, first, -, home, settled, -, -, rfl⟩ := h.of_ready
  have leaves := leaves_of_parentOf first
  have kind : o₁.kind = o.kind := Object.kind_of_key_eq leaves.key
  rw [Object.ownedBy_controlPlaneId] at homeless
  cases home with
  | unscoped unscoped =>
    rw [kind, inPlane] at unscoped
    cases unscoped
  | inherited _ passed known =>
    rw [← known, homeless] at passed
    exact absurd passed (inherited_ne_empty first)
  | given given known => rw [← leaves.controlPlaneRef, given, ← known, homeless]
  | found _ refers known => exact absurd (known.symm.trans homeless) refers.live.known
  | invalid _ failed => exact absurd (failed q' rfl) settled

end Resolve

namespace Reconcile

open Pass World Entity Tandem

def planeless (e : SyncError) : Verdict :=
  ⟨ConditionType.programmed, .unknown, Reason.missingControlPlaneId, e.message⟩

theorem notice_of_missing {e : SyncError} (missing : e.isMissingControlPlane) :
    notice (.error e) = [.note (planeless e)] := by
  cases e <;> first | rfl | cases missing

/-- Only of a missing control plane something is noted. -/
theorem notice_cases (q : Except SyncError Readiness) :
    (∃ e, q = .error e ∧ e.isMissingControlPlane) ∨ notice q = [] := by
  rcases q with e | _
  · cases e <;> first | exact .inl ⟨_, rfl, rfl⟩ | exact .inr rfl
  · exact .inr rfl

/-- What an object says after a pass that failed for want of a control plane. -/
inductive Unplaced (o x : Object) (e : SyncError) : Prop
  /-- None is asked for, and none is passed on: nothing is told and nothing is held. -/
  | unasked (ref : o.spec.controlPlaneRef = none)
      (noted : x.Notes (planeless e) o.metadata.generationValue)
      (unheld : x.metadata.finalizers = o.metadata.finalizers)
  /-- The one with the empty id is asked for: a write that failed is told, and the finalizer is held. -/
  | unnamed (ref : o.spec.controlPlaneRef = some (.konnectId ""))
      (noted : x.Notes ⟨ConditionType.programmed, .false,
        if x.konnectId = "" then Reason.failedToCreate else Reason.failedToUpdate, e.message⟩
          o.metadata.generationValue)
      (held : x.metadata.hasCleanup = true)

section

variable {σ : Type} {env : Environment σ} {k : Key} {o o₁ o₂ x : Object} {w w' v w₂ : World σ}
  {q : Except SyncError Readiness} {r : Except SyncError Outcome} {e : SyncError} {ds : List Edit}

theorem Concludes.controlPlaneId {s : Except SyncError Unit} (h : Concludes env o s ds) (t : Instant) :
    (o.edited t ds).controlPlaneId = o.controlPlaneId := by
  have there : .coordinate .controlPlaneId ∈ referenceSlots o.kind :=
    List.mem_append_right _ (List.mem_cons_self ..)
  exact Object.edited_get (f := .controlPlaneId) (h.apart there) o t

/-- A sync that fails for want of a control plane leaves an object that says so. -/
theorem Fails.unplaced (undisturbed : env.Disturbs fun s t => t = s) (h : Fails env o q o₁ v e w')
    (missing : e.isMissingControlPlane) (inPlane : o.kind.controlPlaneScoped)
    (resolved : (Resolve.references env).onObject o w = (q, o₁, v))
    (stored : w.store.findObject? o.key = some o) :
    o₁.controlPlaneId = "" ∧
      ∃ x, w'.store.findObject? o.key = some x ∧ x.controlPlaneId = "" ∧ Unplaced o x e := by
  have leaves := Resolve.leaves_of_references resolved
  have generation : o₁.metadata.generationValue = o.metadata.generationValue := by
    rw [leaves.metadata]
    rfl
  have api {a : ApiError} (same : e = .api a) : False := by
    rw [same] at missing
    cases missing
  cases h with
  | noted failed kept =>
    subst failed
    obtain ⟨ref, homeless⟩ := Resolve.unplaced_of_error (Resolve.resolving_of_references resolved) missing
    obtain ⟨x, found, mirrors, status⟩ := unready_stored (by simp) stored resolved kept
    rw [notice_of_missing missing] at status
    refine ⟨homeless, x, found, ?_, .unasked ref ?_ mirrors.finalizers⟩
    · rw [Object.controlPlaneId, Object.konnect_congr status, ← homeless]
      exact Object.edited_get (f := .controlPlaneId) (by simp [Object.slots, Edit.slot?]) o₁ v.now
    · refine ⟨_, (Object.condition?_congr status _).trans
        ((o₁.record_condition? (planeless e) v.now _).trans (if_pos rfl)), ?_⟩
      rw [← generation]
      exact Condition.told_agrees _
  | unnoted _ kept => exact ((persistStatus_failed kept).2.elim fun a => api).elim
  | unprepared _ prepared => exact ((persistMetadata_failed prepared).2.elim fun a => api).elim
  | unwritten _ _ _ _ kept => exact ((persistStatus_failed kept).2.elim fun a => api).elim
  | @written o₂ v₂ v₃ talk ds ready prepared talks concludes _ kept =>
    subst ready
    obtain ⟨x, readied, status⟩ := readied_of_spoken undisturbed stored resolved prepared talks concludes kept
    obtain ⟨-, same, finalizers, version, metadata⟩ := persistMetadata_keeps prepared
    have homeless : o₂.controlPlaneId = "" := by
      cases concludes with
      | failed writes => exact writes.homeless missing
    have homeless₁ : o₁.controlPlaneId = "" :=
      (congrArg Coordinates.controlPlaneId (Object.konnect_congr same)).symm.trans homeless
    refine ⟨homeless₁, x, readied.stored, ?_, .unnamed ?_ ?_ readied.hasCleanup⟩
    · rw [Object.controlPlaneId, Object.konnect_congr status, ← homeless]
      exact concludes.controlPlaneId v.now
    · exact Resolve.unnamed_of_ready inPlane (Resolve.resolving_of_references resolved) homeless₁
    · have tells : Tells env o₂ x talk () (.error e) :=
        (concludes.tells (fun ok => by cases ok) v.now ()).of_status status rfl rfl rfl
      have unmoved : o₂.metadata.generationValue = o.metadata.generationValue := by
        rw [metadata]
        exact generation
      cases tells with
      | failed noted => exact unmoved ▸ noted

/-- Nothing is said of an object that is prepared without a control plane. -/
theorem Spoken.eq_nil_of_homeless {talk : List Exchange} {ok : Bool} {id : String}
    (h : Spoken o talk ok id) (inPlane : o.kind.controlPlaneScoped) (homeless : o.controlPlaneId = "") :
    talk = [] := by
  have unknown {p : EntityPath} (path : o.path .create = .ok p) : False :=
    (Object.controlPlaneId?_of_path path inPlane).1 homeless
  cases h with
  | pathless => rfl
  | written path => exact (unknown path).elim
  | unwritten path => exact (unknown path).elim

theorem Closing.unknown (h : Closing env q r ds) {t : Instant} {c : Condition}
    (found : (o₁.edited t ds).condition? ConditionType.programmed = some c) (unknown : c.status = .unknown) :
    o₁.condition? ConditionType.programmed = some c ∨
      ∃ e, q = .error e ∧ r = .error e ∧ e.isMissingControlPlane ∧ c.message = e.message := by
  have decided {v : Verdict} (type : v.type = ConditionType.programmed) (other : v.status ≠ .unknown)
      (said : .note v ∈ ds) : False := by
    obtain ⟨d, noted, agrees⟩ : (Edit.note v).Settled (o₁.edited t ds) :=
      Edit.settled_edited o₁ t (fun s hs => h.once (by rintro rfl; simp [Edit.slot?] at hs)) said
    rw [type, found] at noted
    cases noted
    exact other (agrees.status.symm.trans unknown)
  cases h with
  | unready =>
    rcases notice_cases q with ⟨e, rfl, missing⟩ | silent
    · refine .inr ⟨e, rfl, rfl, missing, ?_⟩
      rw [notice_of_missing missing] at found
      have told := (o₁.record_condition? (planeless e) t ConditionType.programmed).trans (if_pos rfl)
      rw [show o₁.edited t [.note (planeless e)] = o₁.record (planeless e) t from rfl, told] at found
      cases found
      exact (Condition.told_agrees _).message
    · rw [silent] at found
      exact .inl found
  | @spoken p _ _ _ concludes =>
    cases concludes with
    | written => exact (decided (v := upToDate) rfl (by decide) (by simp)).elim
    | @failed e => exact (decided (v := unprogrammed p e) rfl (by simp [unprogrammed]) (by simp)).elim

variable {settings : OperatorSettings} {kind : ManagedKind} {ns name : String}

/-- A pass that newly notes that nothing can be told of the entity fails for want of a control plane. -/
theorem failed_of_planeless (others : env.Disturbs (Store.KeepsStatus ⟨kind, ns, name⟩))
    (stored : w.store.findObject? ⟨kind, ns, name⟩ = some o)
    (after : (visit env settings kind ns name w).after.store.findObject? ⟨kind, ns, name⟩ = some x)
    {c : Condition} (found : x.condition? ConditionType.programmed = some c) (unknown : c.status = .unknown)
    (fresh : x.condition? ConditionType.programmed ≠ o.condition? ConditionType.programmed) :
    o.spec.controlPlaneRef = none ∧
      ∃ e, (visit env settings kind ns name w).result = .error e ∧ e.isMissingControlPlane ∧
        c.message = e.message := by
  have unmoved {P : Prop} (same : x.status = o.status) : P :=
    absurd (Object.condition?_congr same _) fresh
  rcases (visit_course env settings kind ns name w).sync_or_keepsStatus others with
    ⟨o', w₁, -, -, -, -, reads, need, -⟩ | kept
  · cases reads.stored.1.symm.trans stored
    rcases resolved : (Resolve.references env).onObject o w₁ with ⟨q, o₁, v⟩
    obtain ⟨r, w', b, ends, result, left⟩ := visit_ends settings reads need resolved
    have leaves := Resolve.leaves_of_references resolved
    have there : v.store.findObject? ⟨kind, ns, name⟩ = some o := by
      rw [leaves.store.trans reads.stored.2]
      exact stored
    rw [left] at after
    rcases ends.stores others there (leaves.key.trans reads.key) leaves.status after with
      same | ⟨ds, closing, same⟩
    · exact unmoved same
    · have said := (Object.condition?_congr same ConditionType.programmed).symm.trans found
      rcases closing.unknown said unknown with before | ⟨e, rfl, rfl, missing, message⟩
      · exact absurd (found.trans (before.symm.trans leaves.programmed)) fresh
      · exact ⟨(Resolve.unplaced_of_error (Resolve.resolving_of_references resolved) missing).1,
          e, result, missing, message⟩
  · obtain ⟨o', stored', -, same⟩ := kept x after
    cases stored'.symm.trans stored
    exact unmoved same

/-- A pass that fails for want of a control plane asks Konnect nothing and leaves an object that knows none and
says so. -/
theorem unplaced_of_failed (undisturbed : env.Disturbs fun s t => t = s) (inPlane : kind.controlPlaneScoped)
    (stored : w.store.findObject? ⟨kind, ns, name⟩ = some o) (kept : o.metadata.isDeleting = false)
    (failed : (visit env settings kind ns name w).result = .error e) (missing : e.isMissingControlPlane) :
    (visit env settings kind ns name w).talk = [] ∧
      ∃ x, (visit env settings kind ns name w).after.store.findObject? ⟨kind, ns, name⟩ = some x ∧
        x.controlPlaneId = "" ∧ Unplaced o x e := by
  have course : Course env settings ⟨kind, ns, name⟩ w (visit env settings kind ns name w).talk
      (visit env settings kind ns name w).result (visit env settings kind ns name w).after :=
    visit_course env settings kind ns name w
  rcases course.fails undisturbed failed with ⟨a, rfl, -⟩ | ⟨o', w₁, reads, need, -⟩ | ⟨o', w₁, reads, need⟩
  · cases missing
  · cases reads.stored.1.symm.trans stored
    have deleting := (Object.need_eq_cleanup.mp need).1
    rw [kept] at deleting
    cases deleting
  · cases reads.stored.1.symm.trans stored
    rcases resolved : (Resolve.references env).onObject o w₁ with ⟨q, o₁, v⟩
    obtain ⟨r, w', b, ends, result, after⟩ := visit_ends settings reads need resolved
    have fails : r = .error e := by
      rw [result] at failed
      cases r <;> cases failed
      rfl
    have key : o.key = ⟨kind, ns, name⟩ := reads.key
    have placed : o.kind.controlPlaneScoped := by
      rw [Object.kind_of_key key]
      exact inPlane
    have there : w₁.store.findObject? o.key = some o := reads.own_stored
    obtain ⟨homeless, left⟩ := (ends.fails fails).unplaced undisturbed missing placed resolved there
    rw [key] at left
    refine ⟨?_, by rw [after]; exact left⟩
    by_cases prepares : ∃ o' o₂ w₂, Prepares env ⟨kind, ns, name⟩ w o' o₂ w₂
    · obtain ⟨o', o₂, w₂, prepares⟩ := prepares
      obtain ⟨ok, id, w₃, spoken, -⟩ := course.spoken prepares
      obtain ⟨w₁', o₁', v', reads', -, resolved', prepared⟩ := prepares
      obtain ⟨rfl, rfl⟩ := reads.unique reads'
      cases resolved.symm.trans resolved'
      have same := (prepared_of_resolved resolved prepared)
      refine spoken.eq_nil_of_homeless ?_ ?_
      · rw [Object.kind_of_key_eq same.key]
        exact placed
      · rw [Object.controlPlaneId, Object.konnect_congr (persistMetadata_keeps prepared).2.1]
        exact homeless
    · refine course.talk_eq_nil (fun o' w' reads' cleanup => ?_) fun o' o₂ w₂ h => prepares ⟨o', o₂, w₂, h⟩
      obtain ⟨rfl, rfl⟩ := reads.unique reads'
      cases need.symm.trans cleanup

/-- A missing control plane is told. Take a pass over an object that lives in a control plane and that nobody
deletes. If it fails because none is known, then it asks Konnect nothing, and the object knows none. Either no
control plane was asked for; then it says that nothing can be told of the entity, and why, and its finalizers
are as they were. Or the one with the empty id was asked for; then it says that the entity could not be written.
And whenever a pass newly notes that nothing can be told of the entity, it fails for want of a control plane, in
the words that are noted. -/
theorem missing_plane_told (env : Environment σ) (settings : OperatorSettings) (kind : ManagedKind)
    (ns name : String) (w : World σ) (undisturbed : env.Disturbs fun s t => t = s)
    (inPlane : kind.controlPlaneScoped) {o : Object} (stored : w.store.findObject? ⟨kind, ns, name⟩ = some o)
    (kept : o.metadata.isDeleting = false) :
    (∀ e, (visit env settings kind ns name w).result = .error e → e.isMissingControlPlane →
      (visit env settings kind ns name w).talk = [] ∧
        ∃ x, (visit env settings kind ns name w).after.store.findObject? ⟨kind, ns, name⟩ = some x ∧
          x.controlPlaneId = "" ∧ Unplaced o x e) ∧
    ∀ x message,
      (visit env settings kind ns name w).after.store.findObject? ⟨kind, ns, name⟩ = some x →
      x.Notes ⟨ConditionType.programmed, .unknown, Reason.missingControlPlaneId, message⟩
        o.metadata.generationValue →
      x.condition? ConditionType.programmed ≠ o.condition? ConditionType.programmed →
        o.spec.controlPlaneRef = none ∧ ∃ e, (visit env settings kind ns name w).result = .error e ∧
          e.isMissingControlPlane ∧ message = e.message := by
  refine ⟨fun e failed missing => unplaced_of_failed undisturbed inPlane stored kept failed missing, ?_⟩
  rintro x message after ⟨c, found, agrees⟩ fresh
  obtain ⟨ref, e, failed, missing, said⟩ := failed_of_planeless
    (undisturbed.of_undisturbed (Store.keepsStatus_refl _)) stored after found agrees.status fresh
  exact ⟨ref, e, failed, missing, agrees.message.symm.trans said⟩

end

section

open Scene

/-- The first pass over the service when it refers to a control plane in the given way. -/
def adrift (ref : Option Reference) : Visit Cloud :=
  webVisit calm (world (Store.empty.put (.managed
    { web with spec := .service ⟨ref, none, "example.org", none, none, none, none, []⟩ })) (Cloud.empty []))

def lost : SyncError := .missingControlPlaneId .create "KongService" "shop/web"

/-- Without a reference the service says that nothing can be told of its entity, and is not held. -/
theorem adrift_told :
    (∃ x, (adrift none).after.store.findObject? webKey = some x ∧ (adrift none).result = .error lost ∧
      (adrift none).talk = [] ∧ x.controlPlaneId = "" ∧ x.Notes (planeless lost) 0 ∧
      x.metadata.finalizers = none) ∧
    ∃ x message, (adrift none).after.store.findObject? webKey = some x ∧
      x.Notes ⟨ConditionType.programmed, .unknown, Reason.missingControlPlaneId, message⟩ 0 ∧
      ∃ e, (adrift none).result = .error e ∧ e.isMissingControlPlane ∧ message = e.message := by
  have failed : (adrift none).result = .error lost := failed_of_told (by decide +kernel)
  obtain ⟨o, stored, holds⟩ : ∃ o, (adrift none).before.store.findObject? webKey = some o ∧
      decide (o.metadata.isDeleting = false ∧ o.spec.controlPlaneRef = none ∧ o.metadata.generationValue = 0 ∧
        o.metadata.finalizers = none ∧ o.condition? ConditionType.programmed = none) :=
    (Option.any_eq_true _ _).mp (by decide +kernel)
  obtain ⟨kept, ref, generation, unheld, untold⟩ := of_decide_eq_true holds
  obtain ⟨tells, told⟩ := missing_plane_told calm OperatorSettings.default .service "shop" "web"
    (adrift none).before calm_writable.undisturbed rfl stored kept
  obtain ⟨silent, x, after, homeless, unplaced⟩ := tells lost failed rfl
  cases unplaced with
  | unnamed other => cases ref.symm.trans other
  | unasked _ noted same =>
    have fresh : x.condition? ConditionType.programmed ≠ o.condition? ConditionType.programmed := by
      obtain ⟨c, found, -⟩ := noted
      rw [untold]
      exact fun none => nomatch found.symm.trans none
    have again := (told x lost.message after noted fresh).2
    rw [generation] at noted
    exact ⟨⟨x, after, failed, silent, homeless, noted, same.trans unheld⟩, x, _, after, noted, again⟩

/-- With the empty id for a control plane the same failure is told as that of a write, and the service is held
from then on. -/
theorem unnamed_plane_told_as_failure :
    ∃ o x, (adrift (some (.konnectId ""))).before.store.findObject? webKey = some o ∧
      (adrift (some (.konnectId ""))).after.store.findObject? webKey = some x ∧
      (adrift (some (.konnectId ""))).result = .error lost ∧ lost.isMissingControlPlane ∧
      o.metadata.isDeleting = false ∧ o.metadata.hasCleanup = false ∧ x.metadata.hasCleanup = true ∧
      x.Notes ⟨ConditionType.programmed, .false, Reason.failedToCreate, lost.message⟩
        o.metadata.generationValue ∧
      ∀ message generation, ¬ x.Notes
        ⟨ConditionType.programmed, .unknown, Reason.missingControlPlaneId, message⟩ generation := by
  have failed : (adrift (some (.konnectId ""))).result = .error lost := failed_of_told (by decide +kernel)
  obtain ⟨o, stored, holds⟩ : ∃ o, (adrift (some (.konnectId ""))).before.store.findObject? webKey = some o ∧
      decide (o.metadata.isDeleting = false ∧ o.metadata.hasCleanup = false ∧ o.metadata.generationValue = 0) :=
    (Option.any_eq_true _ _).mp (by decide +kernel)
  obtain ⟨kept, unheld, generation⟩ := of_decide_eq_true holds
  obtain ⟨x, after, holds⟩ : ∃ x, (adrift (some (.konnectId ""))).after.store.findObject? webKey = some x ∧
      (decide (x.metadata.hasCleanup = true) && (x.condition? ConditionType.programmed).any fun c =>
        decide (c.status = .false ∧ c.reason = Reason.failedToCreate ∧ c.message = lost.message ∧
          c.observedGeneration = 0)) :=
    (Option.any_eq_true _ _).mp (by decide +kernel)
  obtain ⟨held, noted⟩ := Bool.and_eq_true_iff.mp holds
  obtain ⟨c, found, noted⟩ := (Option.any_eq_true _ _).mp noted
  obtain ⟨status, reason, message, observed⟩ := of_decide_eq_true noted
  refine ⟨o, x, stored, after, failed, rfl, kept, unheld, of_decide_eq_true held,
    ⟨c, found, status, reason, message, observed.trans generation.symm⟩, ?_⟩
  rintro message generation ⟨d, found', agrees⟩
  cases found.symm.trans found'
  cases status.symm.trans agrees.status

end

end Reconcile

end GatewaySync
