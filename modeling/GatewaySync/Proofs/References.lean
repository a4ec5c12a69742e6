import GatewaySync.Proofs.Resolution
/-!
# What references come to

A reference by name is followed only to a live object in the namespace of the one that holds it, and
the id that is copied is the one found there. Whatever else a lookup comes to is noted on the condition
of the reference. Parent and control plane are resolved by such lookups, one after the other.
-/
namespace GatewaySync

/-- An object that others may refer to: nobody deletes it, it is programmed as it stands, and the id of
its entity is known. -/
structure Object.Live (o : Object) : Prop where
  kept : o.metadata.deletionTimestamp = none
  programmed : ∃ c, o.condition? ConditionType.programmed = some c ∧ c.status = .true ∧
    c.observedGeneration = o.metadata.generationValue
  known : o.konnectId ≠ ""

theorem Standing.of_eq_usable {found : Option Object} {target : Object}
    (h : Standing.of found = .usable target) : found = some target ∧ target.Live := by
  unfold Standing.of at h
  split at h
  · cases h
  · split_ifs at h with deleting unready
    cases h
    simp only [Bool.or_eq_true, Bool.not_eq_true', decide_eq_true_eq, not_or,
      Bool.not_eq_false] at unready
    have kept : target.metadata.deletionTimestamp = none := by
      simpa [Metadata.isDeleting] using deleting
    exact ⟨rfl, kept, Object.isProgrammed_iff.mp unready.1, unready.2⟩

def SyncError.isMissingControlPlane : SyncError → Bool
  | missingControlPlaneId .. => true
  | _ => false

namespace Resolution

def inherited? : Resolution → Option String
  | resolved _ controlPlaneId => controlPlaneId
  | _ => none

def owner? : Resolution → Option OwnerReference
  | resolved owner _ => owner
  | _ => none

end Resolution

def Reference.key? (kind : ManagedKind) (here : String) : Reference → Option Key
  | .object name ns => some ⟨kind, ns.getD here, name⟩
  | .konnectId _ => none

@[simp] theorem Spec.stored_controlPlaneRef (s : Spec) : s.stored.controlPlaneRef = s.controlPlaneRef := by
  cases s <;> rfl

namespace Object

def applied (o : Object) : Option Key :=
  match o.spec with
  | .pluginBinding s => some ⟨.plugin, o.metadata.namespaceText, s.plugin⟩
  | _ => none

/-- All that the references of an object name: what a binding applies, the parent or the targets, and the
control plane. -/
def named (o : Object) : List Key :=
  o.applied.toList ++
    o.kind.linkedKinds.filterMap (fun kind =>
      (o.linkTo kind).bind (Reference.key? kind o.metadata.namespaceText)) ++
    (o.spec.controlPlaneRef.bind (Reference.key? .controlPlane o.metadata.namespaceText)).toList

def Near (o : Object) (key : Key) : Prop := key ∈ o.named ∧ key.ns = o.metadata.namespaceText

section

variable {a b o : Object} {key : Key}

/-- What a binding was resolved to is not a reference. -/
theorem linkTo_congr (spec : b.spec.stored = a.spec.stored) (target : ManagedKind) :
    b.linkTo target = a.linkTo target := by
  have stored (o : Object) : ({ o with spec := o.spec.stored } : Object).linkTo target = o.linkTo target := by
    rcases o with ⟨m, s, status⟩
    cases s <;> cases target <;> rfl
  rw [← stored b, ← stored a]
  simp only [linkTo, spec]

theorem kind_congr (spec : b.spec.stored = a.spec.stored) : b.kind = a.kind := by
  rw [kind, ← Spec.stored_kind, spec, Spec.stored_kind, kind]

theorem controlPlaneRef_congr (spec : b.spec.stored = a.spec.stored) :
    b.spec.controlPlaneRef = a.spec.controlPlaneRef := by
  rw [← Spec.stored_controlPlaneRef, spec, Spec.stored_controlPlaneRef]

theorem named_congr (spec : b.spec.stored = a.spec.stored)
    (ns : b.metadata.namespaceText = a.metadata.namespaceText) : b.named = a.named := by
  have applied : b.applied = a.applied := by
    have stored (o : Object) : ({ o with spec := o.spec.stored } : Object).applied = o.applied := by
      rcases o with ⟨m, s, status⟩
      cases s <;> rfl
    rw [← stored b, ← stored a]
    simp only [Object.applied, spec, ns]
  simp only [named, applied, kind_congr spec, linkTo_congr spec, controlPlaneRef_congr spec, ns]

theorem near_of_link {kind : ManagedKind} {name : String} {ns : Option String}
    (linked : kind ∈ o.kind.linkedKinds) (link : o.linkTo kind = some (.object name ns))
    (near : ns.getD o.metadata.namespaceText = o.metadata.namespaceText) :
    o.Near ⟨kind, o.metadata.namespaceText, name⟩ := by
  refine ⟨List.mem_append_left _ (List.mem_append_right _ (List.mem_filterMap.mpr ⟨kind, linked, ?_⟩)), rfl⟩
  rw [link, Option.bind_some, Reference.key?, near]

theorem near_of_controlPlaneRef {name : String} {ns : Option String}
    (ref : o.spec.controlPlaneRef = some (.object name ns))
    (near : ns.getD o.metadata.namespaceText = o.metadata.namespaceText) :
    o.Near ⟨.managed .controlPlane, o.metadata.namespaceText, name⟩ := by
  refine ⟨List.mem_append_right _ ?_, rfl⟩
  rw [ref, Option.bind_some, Reference.key?, near]
  exact List.mem_singleton_self _

theorem near_applied {s : PluginBindingSpec} (spec : o.spec = .pluginBinding s) :
    o.Near ⟨.plugin, o.metadata.namespaceText, s.plugin⟩ := by
  refine ⟨List.mem_append_left _ (List.mem_append_left _ ?_), rfl⟩
  rw [applied, spec]
  exact List.mem_singleton_self _

theorem near_parent {kind : ManagedKind} (has : o.kind.parentKind? = some kind) {name : String}
    {ns : Option String} (link : o.linkTo kind = some (.object name ns))
    (near : ns.getD o.metadata.namespaceText = o.metadata.namespaceText) :
    o.Near ⟨kind, o.metadata.namespaceText, name⟩ := by
  refine near_of_link ?_ link near
  cases own : o.kind <;> rw [own] at has <;> cases has <;> exact List.mem_singleton_self _

theorem near_target {s : PluginBindingSpec} (spec : o.spec = .pluginBinding s) {kind : ManagedKind}
    {name : String} (link : o.linkTo kind = some (.named name)) :
    o.Near ⟨kind, o.metadata.namespaceText, name⟩ := by
  refine near_of_link ?_ link rfl
  have own : o.kind = .pluginBinding := by rw [Object.kind, spec]; rfl
  rw [own]
  cases kind <;> simp [linkTo, spec] at link <;> simp [ManagedKind.linkedKinds]

/-- No object names one of its own kind. -/
theorem Near.kind_ne (h : o.Near key) : key.kind ≠ .managed o.kind := by
  have linked : ∀ kind ∈ o.kind.linkedKinds, kind ≠ o.kind := by
    cases o.kind <;> simp [ManagedKind.linkedKinds, ManagedKind.parentKind?]
  have named {kind : ManagedKind} {ref : Reference} {here : String}
      (leads : ref.key? kind here = some key) : key.kind = .managed kind := by
    cases ref <;> cases leads
    rfl
  rcases List.mem_append.mp h.1 with there | there
  · rcases List.mem_append.mp there with there | there
    · unfold applied at there
      split at there <;> simp at there
      simp [there]
    · obtain ⟨kind, mem, leads⟩ := List.mem_filterMap.mp there
      obtain ⟨ref, -, leads⟩ := Option.bind_eq_some_iff.mp leads
      rw [named leads]
      exact fun same => linked kind mem (Kind.managed.inj same)
  · obtain ⟨ref, held, leads⟩ := Option.bind_eq_some_iff.mp (Option.mem_toList.mp there)
    rw [named leads]
    intro same
    have own : o.kind = .controlPlane := (Kind.managed.inj same).symm
    cases spec : o.spec <;> rw [Object.kind, spec] at own <;> cases own
    rw [spec] at held
    cases held

theorem Near.kind_ne_of (h : o.Near key) {kind : ManagedKind} (own : o.kind = kind) :
    key.kind ≠ .managed kind := own ▸ h.kind_ne

end

end Object

namespace Resolve

open Pass

variable {σ : Type} (env : Environment σ) (o : Object) (w : World σ)

/-- A reference of the object by name leads to a live object that is stored in its namespace. -/
structure Refers (kind : ManagedKind) (name : String) (ns : Option String) (target : Object) :
    Prop where
  near : ns.getD o.metadata.namespaceText = o.metadata.namespaceText
  stored : w.store.findObject? ⟨kind, o.metadata.namespaceText, name⟩ = some target
  live : target.Live

def Unread (a : ApiError) : Prop := ∃ key v, (World.get env key v).1 = .error (.api a)

inductive Sought (condition : String) (kind : ManagedKind) (name : String) (ns : Option String) :
    Except SyncError (Option Object) → Object → World σ → Prop
  | unread {a : ApiError} {w' : World σ} (unread : Unread env a) :
      Sought condition kind name ns (.error (.api a)) o w'
  | invalid {r : Except SyncError (Option Object)} {w' : World σ} (reason message : String)
      (failed : ∀ target, r ≠ .ok (some target)) :
      Sought condition kind name ns r (o.record ⟨condition, .false, reason, message⟩ w'.now) w'
  | usable {target : Object} {w' : World σ} (refers : Refers o w kind name ns target) :
      Sought condition kind name ns (.ok (some target)) o w'

theorem onObject_refuse {α : Type} (condition reason : String) (e : SyncError) :
    (refuse condition reason e : Pass σ α).onObject o w =
      (.error e, o.record ⟨condition, .false, reason, e.message⟩ w.now, w) :=
  onObject_bind_ok (onObject_record _ o w)

/-- The failure is not that the object has no control plane. -/
def ForeignFailure (e : SyncError) : Prop := e.isMissingControlPlane = false

theorem refuse_failsWith {α : Type} (condition reason : String) {e : SyncError} (other : ForeignFailure e) :
    FailsWith ForeignFailure (refuse condition reason e : Pass σ α) :=
  (failsWith_record _).bind fun _ => failsWith_throw other

theorem get_failsWith (key : Key) : FailsWith ForeignFailure (tryWorld (World.get env key)) := by
  refine failsWith_tryWorld fun w e failed => ?_
  rcases World.get_cases env key w with ⟨a, read⟩ | read <;> rw [read] at failed <;> cases failed
  rfl

theorem lookup_failsWith (condition : String) (kind : ManagedKind) (name : String) (ns : Option String) :
    FailsWith ForeignFailure (lookup env condition kind name ns) := by
  refine failsWith_object.bind fun o => ?_
  dsimp only
  split
  · exact refuse_failsWith _ _ rfl
  · refine (get_failsWith env _).bind fun found => ?_
    split
    · exact refuse_failsWith _ _ rfl
    · exact refuse_failsWith _ _ rfl
    · exact (failsWith_record _).bind fun _ => failsWith_pure _
    · exact failsWith_pure _

theorem lookup_sought (condition : String) (kind : ManagedKind) (name : String)
    (ns : Option String) :
    ∃ r o' w', (lookup env condition kind name ns).onObject o w = (r, o', w') ∧
      Sought env o w condition kind name ns r o' w' := by
  rw [lookup, onObject_bind_ok (onObject_object o w)]
  dsimp only
  split
  · exact ⟨_, _, _, onObject_refuse o w _ _ _, .invalid _ _ (by simp)⟩
  · rename_i near
    have run := onObject_tryWorld
      (World.get env ⟨kind, o.metadata.namespaceText, name⟩) o w
    rcases World.get_cases env ⟨kind, o.metadata.namespaceText, name⟩ w with ⟨a, read⟩ | read <;>
      rw [read] at run
    · exact ⟨_, _, _, onObject_bind_error run, .unread ⟨_, w, by rw [read]⟩⟩
    · rw [onObject_bind_ok run]
      dsimp only
      split
      · exact ⟨_, _, _, onObject_refuse o _ _ _ _, .invalid _ _ (by simp)⟩
      · exact ⟨_, _, _, onObject_refuse o _ _ _ _, .invalid _ _ (by simp)⟩
      · exact ⟨_, _, _, onObject_bind_ok (onObject_record _ o _), .invalid _ _ (by simp)⟩
      · rename_i target usable
        obtain ⟨found, live⟩ := Standing.of_eq_usable usable
        rw [← Store.findObject?_eq] at found
        exact ⟨_, _, _, onObject_pure _ o _, .usable ⟨Decidable.not_not.mp near, found, live⟩⟩

variable {env o w}

/-- An id is kept only from a lookup that succeeded. -/
theorem onObject_lookupOrForget (forget : Object → Object) {condition : String}
    {kind : ManagedKind} {name : String} {ns : Option String} {r : Except SyncError (Option Object)}
    {o' : Object} {w' : World σ}
    (h : (lookup env condition kind name ns).onObject o w = (r, o', w')) :
    (lookupOrForget env forget condition kind name ns).onObject o w =
      match r with
      | .ok (some target) => (.ok (some target), o', w')
      | .ok none => (.ok none, forget o', w')
      | .error e => (.error e, forget o', w') := by
  rw [lookupOrForget, onObject_bind_attempt h]
  rcases r with e | _ | target
  · exact onObject_bind_ok (onObject_modifyObject forget o' w')
  · exact onObject_bind_ok (onObject_modifyObject forget o' w')
  · rfl

inductive Parented (env : Environment σ) (kind : ManagedKind) (o : Object) (w : World σ) :
    Except SyncError Resolution → Object → Prop
  | unset {o' : Object} (link : o.linkTo kind = none) (id : o'.parentId = "") :
      Parented env kind o w (.ok .unset) o'
  | given {id : String} {o' : Object} (link : o.linkTo kind = some (.konnectId id))
      (id : o'.parentId = id) : Parented env kind o w (.ok (.resolved none none)) o'
  | found {name : String} {ns : Option String} {target o' : Object}
      (link : o.linkTo kind = some (.object name ns)) (refers : Refers o w kind name ns target)
      (id : o'.parentId = target.konnectId) :
      Parented env kind o w (.ok (.resolved target.ownerReference?
        (if target.controlPlaneId = "" then none else some target.controlPlaneId))) o'
  | invalid {r : Except SyncError Resolution} {o' : Object}
      (noted : o'.verdict? kind.linkCondition = some .false) (failed : ∀ q, r = .ok q → q = .notReady) :
      Parented env kind o w r o'
  | unread {a : ApiError} {o' : Object} (unread : Unread env a) :
      Parented env kind o w (.error (.api a)) o'

theorem parentId_withParentId (o : Object) (id : String) (v : Verdict) (t : Instant) :
    ((o.withParentId id).record v t).parentId = id := by
  simp [Object.parentId, Object.withParentId]

theorem parent_cases (env : Environment σ) (kind : ManagedKind) (o : Object) (w : World σ) :
    ∃ r o' w', (parent env kind).onObject o w = (r, o', w') ∧ Parented env kind o w r o' := by
  rw [parent, onObject_bind_ok (onObject_object o w)]
  dsimp only
  split
  · rename_i link
    exact ⟨_, _, w, (onObject_bind_ok (onObject_modifyObject _ o w)).trans
      (onObject_bind_ok (onObject_record _ _ w)), .unset link (parentId_withParentId o "" _ _)⟩
  · rename_i id link
    exact ⟨_, _, w, (onObject_bind_ok (onObject_modifyObject _ o w)).trans
      (onObject_bind_ok (onObject_record _ _ w)), .given link (parentId_withParentId o id _ _)⟩
  · rename_i name ns link
    obtain ⟨r, o', w', run, sought⟩ := lookup_sought env o w kind.linkCondition kind name ns
    have forgot := onObject_lookupOrForget (·.withParentId "") run
    cases sought with
    | unread unread => exact ⟨_, _, _, onObject_bind_error forgot, .unread unread⟩
    | invalid reason message failed =>
      have noted : ((o.record ⟨kind.linkCondition, .false, reason, message⟩ w'.now).withParentId
          "").verdict? kind.linkCondition = some .false := by
        simp [Object.withParentId]
      rcases r with e | _ | target
      · exact ⟨_, _, _, onObject_bind_error forgot, .invalid noted (by simp)⟩
      · exact ⟨_, _, _, (onObject_bind_ok forgot).trans (onObject_pure _ _ _),
          .invalid noted (by simp)⟩
      · exact absurd rfl (failed target)
    | @usable target w' refers =>
      refine ⟨_, _, w', (onObject_bind_ok forgot).trans
        ((onObject_bind_ok (onObject_modifyObject _ o w')).trans
          (onObject_bind_ok (onObject_record _ _ w'))), ?_⟩
      exact .found link refers (parentId_withParentId o target.konnectId _ _)

theorem parentOf_eq_parent {kind : ManagedKind} (h : o.kind.parentKind? = some kind) :
    (parentOf env).onObject o w = (parent env kind).onObject o w := by
  rw [parentOf, onObject_bind_ok (onObject_object o w), h]
  unfold Object.kind at h
  cases hs : o.spec <;> simp_all [Spec.kind, ManagedKind.parentKind?]

theorem parentOf_eq_binding {s : PluginBindingSpec} (h : o.spec = .pluginBinding s) :
    (parentOf env).onObject o w = (binding env s).onObject o w := by
  rw [parentOf, onObject_bind_ok (onObject_object o w), h]

theorem parentOf_eq_unset (h : o.kind.parentKind? = none) (unbound : ∀ s, o.spec ≠ .pluginBinding s) :
    (parentOf env).onObject o w = (.ok .unset, o, w) := by
  rw [parentOf, onObject_bind_ok (onObject_object o w), h]
  cases hs : o.spec with
  | pluginBinding s => exact absurd hs (unbound s)
  | _ => rfl

theorem parented_of_parentOf {kind : ManagedKind} {q : Except SyncError Resolution} {o' : Object} {w' : World σ}
    (child : o.kind.parentKind? = some kind) (h : (parentOf env).onObject o w = (q, o', w')) :
    Parented env kind o w q o' := by
  obtain ⟨r, o₁, w₁, run, parented⟩ := parent_cases env kind o w
  rw [← parentOf_eq_parent child, h] at run
  cases run
  exact parented

inductive Homed (env : Environment σ) (inherited : Option String) (o : Object) (w : World σ) :
    Except SyncError Resolution → Object → Prop
  | unscoped (unscoped : o.kind.controlPlaneScoped = false) : Homed env inherited o w (.ok .unset) o
  | inherited {id : String} {o' : Object} (ref : o.spec.controlPlaneRef = none)
      (passed : inherited = some id) (home : o'.controlPlaneId = id) :
      Homed env inherited o w (.ok .unset) o'
  | missing {op : Operation} {kind key : String} {o' : Object} (ref : o.spec.controlPlaneRef = none)
      (orphan : inherited = none) (home : o'.controlPlaneId = "") :
      Homed env inherited o w (.error (.missingControlPlaneId op kind key)) o'
  | given {id : String} {o' : Object} (ref : o.spec.controlPlaneRef = some (.konnectId id))
      (home : o'.controlPlaneId = id) : Homed env inherited o w (.ok (.resolved none (some id))) o'
  | found {name : String} {ns : Option String} {target o' : Object}
      (ref : o.spec.controlPlaneRef = some (.object name ns))
      (refers : Refers o w .controlPlane name ns target)
      (home : o'.controlPlaneId = target.konnectId) :
      Homed env inherited o w (.ok (.resolved target.ownerReference? (some target.konnectId))) o'
  | invalid {r : Except SyncError Resolution} {o' : Object}
      (noted : o'.verdict? ConditionType.controlPlaneRefValid = some .false)
      (failed : ∀ q, r = .ok q → q = .notReady) (other : ∀ e, r = .error e → ForeignFailure e) :
      Homed env inherited o w r o'
  | unread {a : ApiError} {o' : Object} (unread : Unread env a) :
      Homed env inherited o w (.error (.api a)) o'

/-- The second object is the first one with another status, that tells of the same parent. -/
structure KeepsParent (o o' : Object) : Prop where
  metadata : o'.metadata = o.metadata
  spec : o'.spec = o.spec
  parentId : o'.parentId = o.parentId

theorem keepsParent_withControlPlaneId (o : Object) (id : String) :
    KeepsParent o (o.withControlPlaneId id) :=
  ⟨rfl, rfl, by simp [Object.parentId, Object.withControlPlaneId]⟩

theorem keepsParent_record (o : Object) (v : Verdict) (t : Instant) : KeepsParent o (o.record v t) :=
  ⟨rfl, rfl, by simp [Object.parentId]⟩

theorem KeepsParent.trans {m o' : Object} (h : KeepsParent o m) (h' : KeepsParent m o') : KeepsParent o o' :=
  ⟨h'.metadata.trans h.metadata, h'.spec.trans h.spec, h'.parentId.trans h.parentId⟩

theorem controlPlane_cases (env : Environment σ) (inherited : Option String) (o : Object)
    (w : World σ) :
    ∃ r o' w', (controlPlane env inherited).onObject o w = (r, o', w') ∧
      Homed env inherited o w r o' ∧ KeepsParent o o' := by
  have home (o : Object) (id : String) : (o.withControlPlaneId id).controlPlaneId = id := by
    simp [Object.controlPlaneId, Object.withControlPlaneId]
  have noted (o : Object) (v : Verdict) (t : Instant) :
      (o.record v t).controlPlaneId = o.controlPlaneId := by
    simp [Object.controlPlaneId]
  have parent := keepsParent_withControlPlaneId
  have parentNoted := keepsParent_record
  rw [controlPlane, onObject_bind_ok (onObject_object o w)]
  dsimp only
  split
  · rename_i unscoped
    exact ⟨_, o, w, rfl, .unscoped (by simpa using unscoped), rfl, rfl, rfl⟩
  · split
    · rename_i id ref
      exact ⟨_, _, w, onObject_bind_ok (onObject_modifyObject _ o w),
        .inherited ref rfl (home o id), parent o id⟩
    · rename_i ref
      exact ⟨_, _, w, onObject_bind_ok (onObject_modifyObject _ o w), .missing ref rfl (home o ""),
        parent o ""⟩
    · rename_i id ref
      refine ⟨_, _, w, (onObject_bind_ok (onObject_modifyObject _ o w)).trans
        (onObject_bind_ok (onObject_record _ _ w)), .given ref ?_, ?_⟩
      · exact (noted _ _ _).trans (home o id)
      · exact (parent o id).trans (parentNoted _ _ _)
    · rename_i name ns ref
      obtain ⟨r, o', w', run, sought⟩ :=
        lookup_sought env o w ConditionType.controlPlaneRefValid .controlPlane name ns
      have forgot := onObject_lookupOrForget (·.withControlPlaneId "") run
      cases sought with
      | unread unread =>
        exact ⟨_, _, _, onObject_bind_error forgot, .unread unread, parent o ""⟩
      | invalid reason message failed =>
        have invalid : ((o.record ⟨ConditionType.controlPlaneRefValid, .false, reason, message⟩
            w'.now).withControlPlaneId "").verdict? ConditionType.controlPlaneRefValid =
              some .false := by
          simp [Object.withControlPlaneId]
        have kept := (parentNoted o ⟨ConditionType.controlPlaneRefValid, .false, reason, message⟩
          w'.now).trans (parent _ "")
        rcases r with e | _ | target
        · have other : ForeignFailure e :=
            lookup_failsWith env ConditionType.controlPlaneRefValid .controlPlane name ns o w e (by rw [run])
          exact ⟨_, _, _, onObject_bind_error forgot, .invalid invalid (by simp) (by simpa using other), kept⟩
        · exact ⟨_, _, _, (onObject_bind_ok forgot).trans (onObject_pure _ _ _),
            .invalid invalid (by simp) (by simp), kept⟩
        · exact absurd rfl (failed target)
      | @usable target w' refers =>
        refine ⟨_, _, w', (onObject_bind_ok forgot).trans
          ((onObject_bind_ok (onObject_modifyObject _ o w')).trans
            (onObject_bind_ok (onObject_record _ _ w'))), .found ref refers ?_, ?_⟩
        · exact (noted _ _ _).trans (home o target.konnectId)
        · exact (parent o target.konnectId).trans (parentNoted _ _ _)

theorem mismatch_cases (α : Type) (id : String) (o : Object) (w : World σ) :
    ∃ e o', (mismatch id : Pass σ α).onObject o w = (.error e, o', w) ∧
      o'.verdict? (mismatchCondition o') = some .false ∧ ForeignFailure e := by
  rw [mismatch, onObject_bind_ok (onObject_object o w)]
  exact ⟨_, _, onObject_refuse o w _ _ _, (o.record_verdict? _ _ _).trans (if_pos rfl), rfl⟩

/-- An object that was resolved agrees with its parent, and gets its owner; otherwise that is noted on the
parent's condition. -/
theorem finish_cases (parentOwner controlPlaneOwner : Option OwnerReference)
    (inherited : Option String) (o : Object) (w : World σ) :
    ((references.finish parentOwner controlPlaneOwner inherited).onObject o w =
        (.ok .ready, o.ownedBy (parentOwner.or controlPlaneOwner), w) ∧ ∀ id ∈ inherited, id = o.controlPlaneId) ∨
      ∃ e o', (references.finish parentOwner controlPlaneOwner inherited).onObject o w =
        (.error e, o', w) ∧ o'.verdict? (mismatchCondition o') = some .false ∧ ForeignFailure e := by
  have owned : (do
      own (parentOwner.or controlPlaneOwner); return Readiness.ready : Pass σ Readiness).onObject o w =
        (.ok .ready, o.ownedBy (parentOwner.or controlPlaneOwner), w) :=
    onObject_bind_ok (onObject_modifyObject _ o w)
  rw [references.finish, onObject_bind_ok (onObject_object o w)]
  cases inherited with
  | none => exact .inl ⟨owned, by simp⟩
  | some id =>
    dsimp only
    split
    · obtain ⟨e, o', run, noted, other⟩ := mismatch_cases PUnit id o w
      exact .inr ⟨e, o', onObject_bind_error run, noted, other⟩
    · rename_i agrees
      exact .inl ⟨owned, by simpa using agrees⟩

theorem onObject_viaControlPlane {owner : Option OwnerReference} {inherited : Option String}
    {q : Except SyncError Resolution} {o' : Object} {w' : World σ}
    (h : (controlPlane env inherited).onObject o w = (q, o', w')) :
    (references.viaControlPlane env owner inherited).onObject o w =
      match q with
      | .error e => (.error e, o', w')
      | .ok .notReady => (.ok .notReady, o', w')
      | .ok q => (references.finish owner q.owner? inherited).onObject o' w' := by
  rw [references.viaControlPlane]
  rcases q with e | _ | _ | _
  · exact onObject_bind_error h
  all_goals exact onObject_bind_ok h

theorem onObject_references {q : Except SyncError Resolution} {o' : Object} {w' : World σ}
    (h : (parentOf env).onObject o w = (q, o', w')) :
    (references env).onObject o w =
      match q with
      | .error e => (.error e, o', w')
      | .ok .notReady => (.ok .notReady, o', w')
      | .ok q => (references.viaControlPlane env q.owner? q.inherited?).onObject o' w' := by
  rw [references]
  rcases q with e | _ | _ | _
  · exact onObject_bind_error h
  all_goals exact onObject_bind_ok h

/-- What the resolution of all references can come to, and the object afterwards: it ends at the first
stage that does not go well. -/
inductive Resolving (env : Environment σ) (o : Object) (w : World σ) :
    Except SyncError Readiness → Object → Prop
  | unparented {q : Except SyncError Resolution} {r : Except SyncError Readiness} {o' : Object}
      {w' : World σ} (parent : (parentOf env).onObject o w = (q, o', w'))
      (failed : ∀ x, q = .ok x → x = .notReady) (outcome : r = q.map fun _ => .notReady) :
      Resolving env o w r o'
  | homeless {q : Resolution} {q' : Except SyncError Resolution} {r : Except SyncError Readiness}
      {o₁ o' : Object} {w₁ : World σ} (parent : (parentOf env).onObject o w = (.ok q, o₁, w₁))
      (home : Homed env q.inherited? o₁ w₁ q' o') (failed : ∀ x, q' = .ok x → x = .notReady)
      (outcome : r = q'.map fun _ => .notReady) : Resolving env o w r o'
  | disagreeing {o' : Object} {e : SyncError} (noted : o'.verdict? (mismatchCondition o') = some .false)
      (other : ForeignFailure e) : Resolving env o w (.error e) o'
  | ready {q q' : Resolution} {o₁ o₂ : Object} {w₁ : World σ}
      (parent : (parentOf env).onObject o w = (.ok q, o₁, w₁)) (resolved : q ≠ .notReady)
      (home : Homed env q.inherited? o₁ w₁ (.ok q') o₂) (settled : q' ≠ .notReady)
      (kept : KeepsParent o₁ o₂) (agrees : ∀ id ∈ q.inherited?, id = o₂.controlPlaneId) :
      Resolving env o w (.ok .ready) (o₂.ownedBy (q.owner?.or q'.owner?))

theorem map_ne_ready (q : Except SyncError Resolution) :
    (q.map fun _ => Readiness.notReady) ≠ .ok .ready := by
  cases q <;> intro h <;> cases h

theorem Resolving.of_ready {o' : Object} (h : Resolving env o w (.ok .ready) o') :
    ∃ q q' o₁ o₂ w₁, (parentOf env).onObject o w = (.ok q, o₁, w₁) ∧ q ≠ .notReady ∧
      Homed env q.inherited? o₁ w₁ (.ok q') o₂ ∧ q' ≠ .notReady ∧ KeepsParent o₁ o₂ ∧
      (∀ id ∈ q.inherited?, id = o₂.controlPlaneId) ∧ o' = o₂.ownedBy (q.owner?.or q'.owner?) := by
  cases h with
  | unparented _ _ outcome => exact absurd outcome.symm (map_ne_ready _)
  | homeless _ _ _ outcome => exact absurd outcome.symm (map_ne_ready _)
  | ready parent resolved home settled kept agrees =>
    exact ⟨_, _, _, _, _, parent, resolved, home, settled, kept, agrees, rfl⟩

theorem references_cases (env : Environment σ) (o : Object) (w : World σ) :
    ∃ r o' w', (references env).onObject o w = (r, o', w') ∧ Resolving env o w r o' := by
  rcases parent : (parentOf env).onObject o w with ⟨q, o₁, w₁⟩
  have run := onObject_references parent
  have rest {q : Resolution} (parent : (parentOf env).onObject o w = (.ok q, o₁, w₁))
      (resolved : q ≠ .notReady)
      (run : (references env).onObject o w =
        (references.viaControlPlane env q.owner? q.inherited?).onObject o₁ w₁) :
      ∃ r o' w', (references env).onObject o w = (r, o', w') ∧ Resolving env o w r o' := by
    obtain ⟨q', o₂, w₂, home, homed, kept⟩ := controlPlane_cases env q.inherited? o₁ w₁
    have run := run.trans (onObject_viaControlPlane home)
    have last {q' : Resolution} (homed : Homed env q.inherited? o₁ w₁ (.ok q') o₂) (settled : q' ≠ .notReady)
        (run : (references env).onObject o w =
          (references.finish q.owner? q'.owner? q.inherited?).onObject o₂ w₂) :
        ∃ r o' w', (references env).onObject o w = (r, o', w') ∧ Resolving env o w r o' := by
      rcases finish_cases q.owner? q'.owner? q.inherited? o₂ w₂ with
        ⟨done, agrees⟩ | ⟨e, o', done, noted, other⟩
      · exact ⟨_, _, w₂, run.trans done, .ready parent resolved homed settled kept agrees⟩
      · exact ⟨_, o', w₂, run.trans done, .disagreeing noted other⟩
    rcases q' with e | _ | _ | _
    · exact ⟨_, o₂, w₂, run, .homeless parent homed (by simp) rfl⟩
    · exact last homed (by simp) run
    · exact last homed (by simp) run
    · exact ⟨_, o₂, w₂, run, .homeless parent homed (by simp) rfl⟩
  rcases q with e | _ | _ | _
  · exact ⟨_, o₁, w₁, run, .unparented parent (by simp) rfl⟩
  · exact rest parent (by simp) run
  · exact rest parent (by simp) run
  · exact ⟨_, o₁, w₁, run, .unparented parent (by simp) rfl⟩

theorem resolving_of_references {o' : Object} {w' : World σ} {r : Except SyncError Readiness}
    (h : (references env).onObject o w = (r, o', w')) : Resolving env o w r o' := by
  obtain ⟨r', o₁, w₁, run, resolving⟩ := references_cases env o w
  rw [h] at run
  cases run
  exact resolving

end Resolve

end GatewaySync
