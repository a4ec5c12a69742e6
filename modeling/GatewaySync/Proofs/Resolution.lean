import GatewaySync.Proofs.Edits
import GatewaySync.Proofs.Execution
import GatewaySync.Proofs.Surroundings
/-!
# What resolving references leaves alone

Whatever comes of the references of an object, nothing is asked of Konnect and nothing is written to
the store. Of the object in memory only the conditions of references, the ids of control plane and
parent, the owner references and what a binding applies may differ afterwards.
-/
namespace GatewaySync.Resolve

open Pass (Keeps keeps_pure keeps_throw keeps_object keeps_modifyObject keeps_record)

variable {σ : Type} (env : Environment σ)

theorem linkCondition_ne_programmed (kind : ManagedKind) :
    kind.linkCondition ≠ ConditionType.programmed := by
  cases kind <;> decide

/-- A frame that admits reading the store, noting of a reference that it fails or, unless it is that of
the control plane, that it holds, and noting what a binding applies. -/
structure Admits (F : Pass.Frame σ) : Prop where
  read : ∀ key, Keeps F (Pass.tryWorld (World.get env key))
  invalid : ∀ condition reason message, condition ≠ ConditionType.programmed →
    Keeps F (Pass.record ⟨condition, .false, reason, message⟩)
  valid : ∀ condition, condition ≠ ConditionType.programmed →
    condition ≠ ConditionType.controlPlaneRefValid → Keeps F (Pass.record (.valid condition))
  resolved : ∀ r, Keeps F (Pass.modifyObject (·.withResolved r))

section

variable {env} {F : Pass.Frame σ}

theorem refuse_keeps (admits : Admits env F) {α : Type} {condition : String}
    (other : condition ≠ ConditionType.programmed) (reason : String) (e : SyncError) :
    Keeps F (refuse condition reason e : Pass σ α) :=
  (admits.invalid condition _ _ other).bind fun _ => keeps_throw e

theorem lookup_keeps (admits : Admits env F) {condition : String}
    (other : condition ≠ ConditionType.programmed) (kind : ManagedKind) (name : String)
    (ns : Option String) : Keeps F (lookup env condition kind name ns) := by
  apply keeps_object.bind
  intro child
  dsimp only
  split
  · exact refuse_keeps admits other _ _
  · apply (admits.read _).bind
    intro found
    split
    · exact refuse_keeps admits other _ _
    · exact refuse_keeps admits other _ _
    · exact (admits.invalid _ _ _ other).bind fun _ => keeps_pure _
    · exact keeps_pure _

theorem plugin_keeps (admits : Admits env F) (ns name : String) :
    Keeps F (plugin env ns name) := by
  have other : ConditionType.pluginRefValid ≠ ConditionType.programmed := by decide
  apply (admits.read _).bind
  intro found
  split
  · split
    · exact refuse_keeps admits other _ _
    · exact (admits.valid _ other (by decide)).bind fun _ => keeps_pure _
  · exact refuse_keeps admits other _ _

theorem target_keeps (admits : Admits env F) {kind : ManagedKind}
    (targeted : kind.linkCondition ≠ ConditionType.controlPlaneRefValid) (name : Option String) :
    Keeps F (target env kind name) := by
  have other := linkCondition_ne_programmed kind
  cases name with
  | none => exact keeps_pure _
  | some name =>
    apply (lookup_keeps admits other _ _ _).bind
    intro found
    cases found with
    | none => exact keeps_pure _
    | some found => exact (admits.valid _ other targeted).bind fun _ => keeps_pure _

theorem binding_keeps (admits : Admits env F) (s : PluginBindingSpec) : Keeps F (binding env s) := by
  apply (admits.resolved none).bind
  intro _
  apply keeps_object.bind
  intro o
  apply (plugin_keeps admits _ _).bind
  intro applied
  apply (target_keeps admits (by decide) _).bind
  intro service
  apply (target_keeps admits (by decide) _).bind
  intro route
  apply (target_keeps admits (by decide) _).bind
  intro consumer
  dsimp only
  split
  · exact keeps_pure _
  · split
    · exact refuse_keeps admits (linkCondition_ne_programmed _) _ _
    · exact (admits.resolved _).bind fun _ => keeps_pure _

end

/-- The second object and world may come from the first by resolving references. -/
structure Leaves (s t : Object × World σ) : Prop where
  reads : World.Reading env s.2 t.2
  metadata : t.1.metadata = { s.1.metadata with ownerReferences := t.1.metadata.ownerReferences }
  spec : t.1.spec.stored = s.1.spec.stored
  konnect : t.1.konnect =
    { s.1.konnect with controlPlaneId := t.1.controlPlaneId, parentId := t.1.parentId }
  status : s.1.status.isSome → t.1.status.isSome
  programmed :
    t.1.condition? ConditionType.programmed = s.1.condition? ConditionType.programmed

def frame : Pass.Frame σ where
  rel := Leaves env
  refl s := ⟨.refl, rfl, rfl, rfl, id, rfl⟩
  trans h h' :=
    { reads := h.reads.trans h'.reads
      metadata := by rw [h'.metadata, h.metadata]
      spec := h'.spec.trans h.spec
      konnect := by rw [h'.konnect, h.konnect]
      status := fun hs => h'.status (h.status hs)
      programmed := h'.programmed.trans h.programmed }

variable {env}

theorem Leaves.verdict? {s t : Object × World σ} (h : Leaves env s t) :
    t.1.verdict? ConditionType.programmed = s.1.verdict? ConditionType.programmed := by
  rw [Object.verdict?, h.programmed, Object.verdict?]

theorem Leaves.silent {s t : Object × World σ} (h : Leaves env s t) : World.Silent env s.2 t.2 :=
  h.reads.silent

theorem Leaves.store {s t : Object × World σ} (h : Leaves env s t) : t.2.store = s.2.store :=
  h.reads.store

theorem Leaves.key {s t : Object × World σ} (h : Leaves env s t) : t.1.key = s.1.key := by
  have kind : t.1.kind = s.1.kind :=
    t.1.spec.stored_kind.symm.trans ((congrArg Spec.kind h.spec).trans s.1.spec.stored_kind)
  have name : t.1.metadata.nameText = s.1.metadata.nameText := by rw [h.metadata]; rfl
  have ns : t.1.metadata.namespaceText = s.1.metadata.namespaceText := by rw [h.metadata]; rfl
  simp only [Object.key, kind, name, ns]

theorem Leaves.konnectId {s t : Object × World σ} (h : Leaves env s t) :
    t.1.konnectId = s.1.konnectId := by
  rw [Object.konnectId, h.konnect]
  rfl

theorem leaves_withControlPlaneId (id : String) (o : Object) (w : World σ) :
    Leaves env (o, w) (o.withControlPlaneId id, w) where
  reads := .refl
  metadata := rfl
  spec := rfl
  konnect := by simp [Object.withControlPlaneId, Object.controlPlaneId, Object.parentId]
  status := fun _ => rfl
  programmed := o.withKonnect_condition? _ _

theorem leaves_withParentId (id : String) (o : Object) (w : World σ) :
    Leaves env (o, w) (o.withParentId id, w) where
  reads := .refl
  metadata := rfl
  spec := rfl
  konnect := by simp [Object.withParentId, Object.controlPlaneId, Object.parentId]
  status := fun _ => rfl
  programmed := o.withKonnect_condition? _ _

theorem leaves_withResolved (r : Option ResolvedBinding) (o : Object) (w : World σ) :
    Leaves env (o, w) (o.withResolved r, w) where
  reads := .refl
  metadata := rfl
  spec := by simp [Object.withResolved, Spec.stored]
  konnect := rfl
  status := id
  programmed := rfl

theorem leaves_record {v : Verdict} (other : v.type ≠ ConditionType.programmed) (o : Object)
    (w : World σ) (t : Instant) : Leaves env (o, w) (o.record v t, w) where
  reads := .refl
  metadata := rfl
  spec := rfl
  konnect := by simp [Object.controlPlaneId, Object.parentId]
  status := fun _ => rfl
  programmed := (o.record_condition? v t _).trans (if_neg other)

theorem record_keeps {v : Verdict} (other : v.type ≠ ConditionType.programmed) :
    Keeps (frame env) (Pass.record v) :=
  keeps_record (leaves_record other)

theorem frame_admits : Admits env (frame env) where
  read key := Pass.keeps_tryWorld fun _ _ =>
    ⟨.single ⟨key, rfl⟩, rfl, rfl, rfl, id, rfl⟩
  invalid _ _ _ other := record_keeps other
  valid _ other _ := record_keeps other
  resolved r := keeps_modifyObject (leaves_withResolved r)

theorem lookupOrForget_keeps {forget : Object → Object}
    (h : ∀ o w, Leaves env (o, w) (forget o, w)) {condition : String}
    (other : condition ≠ ConditionType.programmed) (kind : ManagedKind) (name : String)
    (ns : Option String) : Keeps (frame env) (lookupOrForget env forget condition kind name ns) := by
  apply (lookup_keeps frame_admits other kind name ns).attempt.bind
  intro result
  rcases result with e | _ | target
  · exact (keeps_modifyObject h).bind fun _ => keeps_throw e
  · exact (keeps_modifyObject h).bind fun _ => keeps_pure none
  · exact keeps_pure (some target)

theorem parent_keeps (kind : ManagedKind) : Keeps (frame env) (parent env kind) := by
  have other := linkCondition_ne_programmed kind
  apply keeps_object.bind
  intro child
  dsimp only
  split
  · exact (keeps_modifyObject (leaves_withParentId "")).bind fun _ =>
      (record_keeps other).bind fun _ => keeps_pure _
  · exact (keeps_modifyObject (leaves_withParentId _)).bind fun _ =>
      (record_keeps other).bind fun _ => keeps_pure _
  · apply (lookupOrForget_keeps (leaves_withParentId "") other _ _ _).bind
    intro found
    cases found with
    | none => exact keeps_pure _
    | some target =>
      exact (keeps_modifyObject (leaves_withParentId _)).bind fun _ =>
        (record_keeps other).bind fun _ => keeps_pure _

theorem parentOf_keeps : Keeps (frame env) (parentOf env) := by
  apply keeps_object.bind
  intro o
  split
  · exact binding_keeps frame_admits _
  · exact parent_keeps _
  · exact keeps_pure _

theorem controlPlane_keeps (inherited : Option String) :
    Keeps (frame env) (controlPlane env inherited) := by
  have other : ConditionType.controlPlaneRefValid ≠ ConditionType.programmed := by decide
  apply keeps_object.bind
  intro o
  dsimp only
  split
  · exact keeps_pure _
  · split
    · exact (keeps_modifyObject (leaves_withControlPlaneId _)).bind fun _ => keeps_pure _
    · exact (keeps_modifyObject (leaves_withControlPlaneId _)).bind fun _ => keeps_throw _
    · exact (keeps_modifyObject (leaves_withControlPlaneId _)).bind fun _ =>
        (record_keeps other).bind fun _ => keeps_pure _
    · apply (lookupOrForget_keeps (leaves_withControlPlaneId "") other _ _ _).bind
      intro found
      cases found with
      | none => exact keeps_pure _
      | some target =>
        exact (keeps_modifyObject (leaves_withControlPlaneId _)).bind fun _ =>
          (record_keeps other).bind fun _ => keeps_pure _

theorem own_keeps (desired : Option OwnerReference) : Keeps (frame env) (own desired : Pass σ Unit) := by
  apply keeps_modifyObject
  intro o w
  dsimp only
  split
  · exact (frame env).refl (o, w)
  · exact ⟨.refl, rfl, rfl, rfl, id, rfl⟩

def mismatchCondition (o : Object) : String :=
  (o.kind.parentInfo?.getD ⟨"ControlPlane", ConditionType.controlPlaneRefValid⟩).condition

theorem mismatchCondition_ne_programmed (o : Object) :
    mismatchCondition o ≠ ConditionType.programmed := by
  unfold mismatchCondition
  cases o.kind <;> decide

/-- It is the condition of the parent's reference if there is one, and of the control plane's if not. -/
theorem mismatchCondition_cases (o : Object) :
    mismatchCondition o = ConditionType.controlPlaneRefValid ∨
      ∃ parent, o.kind.parentKind? = some parent ∧ mismatchCondition o = parent.linkCondition := by
  unfold mismatchCondition
  cases o.kind <;> simp [ManagedKind.parentInfo?, ManagedKind.parentKind?]

theorem mismatch_keeps {α : Type} (id : String) : Keeps (frame env) (mismatch id : Pass σ α) :=
  keeps_object.bind fun o => refuse_keeps frame_admits (mismatchCondition_ne_programmed o) _ _

theorem finish_keeps (parentOwner controlPlaneOwner : Option OwnerReference)
    (inherited : Option String) :
    Keeps (frame env) (references.finish parentOwner controlPlaneOwner inherited : Pass σ Readiness) := by
  apply keeps_object.bind
  intro o
  have owned : Keeps (frame env) (do
      own (parentOwner.or controlPlaneOwner); return Readiness.ready : Pass σ Readiness) :=
    (own_keeps _).bind fun _ => keeps_pure _
  cases inherited with
  | none => exact owned
  | some id =>
    dsimp only
    split
    · exact (mismatch_keeps _).bind fun _ => owned
    · exact owned

theorem viaControlPlane_keeps (owner : Option OwnerReference) (inherited : Option String) :
    Keeps (frame env) (references.viaControlPlane env owner inherited) := by
  apply (controlPlane_keeps inherited).bind
  intro resolution
  cases resolution with
  | notReady => exact keeps_pure _
  | unset => exact finish_keeps _ _ _
  | resolved owner _ => exact finish_keeps _ _ _

/-- Resolving references writes nothing anywhere, and changes of the object only what it resolves. -/
theorem references_keeps : Keeps (frame env) (references env) := by
  apply parentOf_keeps.bind
  intro resolution
  cases resolution with
  | notReady => exact keeps_pure _
  | unset => exact viaControlPlane_keeps _ _
  | resolved owner _ => exact viaControlPlane_keeps _ _

theorem leaves_of_parentOf {o o' : Object} {w w' : World σ} {r : Except SyncError Resolution}
    (h : (parentOf env).onObject o w = (r, o', w')) : Leaves env (o, w) (o', w') :=
  Keeps.rel parentOf_keeps h

theorem leaves_of_references {o o' : Object} {w w' : World σ} {r : Except SyncError Readiness}
    (h : (references env).onObject o w = (r, o', w')) : Leaves env (o, w) (o', w') :=
  Keeps.rel references_keeps h

end GatewaySync.Resolve
