import GatewaySync.Proofs.Verdicts
/-!
# The outcomes of a reference

What a reference comes to is read off a table: from the reference itself and from what is stored under the
name that it gives. Parent and control plane are two uses of it. Whatever the status said before, the row that
applies decides the answer, what the condition says, and the id.
-/
namespace GatewaySync

namespace Standing

variable {target : Object}

theorem of_deleting (leaving : target.metadata.deletionTimestamp ≠ none) :
    Standing.of (some target) = .deleting :=
  if_pos (Option.isSome_iff_ne_none.mpr leaving)

theorem of_live (live : target.Live) : Standing.of (some target) = .usable target := by
  have programmed := Object.isProgrammed_iff.mpr live.programmed
  simp [Standing.of, Metadata.isDeleting, live.kept, programmed, live.known]

theorem of_unready (kept : target.metadata.deletionTimestamp = none) (unready : ¬ target.Live) :
    Standing.of (some target) = .notProgrammed := by
  refine (if_neg (by simp [Metadata.isDeleting, kept])).trans (if_pos ?_)
  by_contra ready
  simp only [Bool.or_eq_true, Bool.not_eq_true', decide_eq_true_eq, not_or, Bool.not_eq_false] at ready
  exact unready ⟨kept, Object.isProgrammed_iff.mp ready.1, ready.2⟩

end Standing

theorem Object.withKonnect_record (o : Object) (f : Coordinates → Coordinates) (v : Verdict) (t : Instant) :
    (o.record v t).withKonnect f = (o.withKonnect f).record v t := by
  rcases o with ⟨m, s, _ | status⟩ <;> rfl

namespace Resolve

open Pass

/-- A reference that is resolved on its own: what it leads to, the condition that tells of it, the coordinate
that takes the id, and what the resolution answers to a given id and to a target. -/
structure Link where
  target : ManagedKind
  condition : String
  field : Field
  ofId : String → Resolution
  ofTarget : Object → Resolution

namespace Link

/-- The reference of a child to its parent, which may tell of a control plane. -/
def toParent (kind : ManagedKind) : Link where
  target := kind
  condition := kind.linkCondition
  field := .parentId
  ofId _ := .resolved none none
  ofTarget parent := .resolved parent.ownerReference?
    (if parent.controlPlaneId = "" then none else some parent.controlPlaneId)

def toPlane : Link where
  target := .controlPlane
  condition := ConditionType.controlPlaneRefValid
  field := .controlPlaneId
  ofId id := .resolved none (some id)
  ofTarget plane := .resolved plane.ownerReference? (some plane.konnectId)

/-- What a reference of an object comes to over a store: the answer, the verdict and the id. -/
inductive Row (l : Link) (o : Object) (s : Store) :
    Reference → Except SyncError Resolution → Verdict → String → Prop
  | given (id : String) : Row l o s (.konnectId id) (.ok (l.ofId id)) (.valid l.condition) id
  | elsewhere {name ns : String} {e : SyncError} (away : ns ≠ o.metadata.namespaceText)
      (told : e = .crossNamespaceRef o.kind.name o.keyText l.target.name (ns ++ "/" ++ name)) :
      Row l o s (.object name (some ns)) (.error e) ⟨l.condition, .false, Reason.invalid, e.message⟩ ""
  | missing {name : String} {ns : Option String} {e : SyncError}
      (near : ns.getD o.metadata.namespaceText = o.metadata.namespaceText)
      (absent : s.findObject? ⟨l.target, o.metadata.namespaceText, name⟩ = none)
      (told : e = .refNotFound l.target.name (o.metadata.namespaceText ++ "/" ++ name)) :
      Row l o s (.object name ns) (.error e) ⟨l.condition, .false, Reason.notFound, e.message⟩ ""
  | leaving {name : String} {ns : Option String} {target : Object} {e : SyncError}
      (near : ns.getD o.metadata.namespaceText = o.metadata.namespaceText)
      (stored : s.findObject? ⟨l.target, o.metadata.namespaceText, name⟩ = some target)
      (leaving : target.metadata.deletionTimestamp ≠ none)
      (told : e = .refBeingDeleted l.target.name (o.metadata.namespaceText ++ "/" ++ name)) :
      Row l o s (.object name ns) (.error e) ⟨l.condition, .false, Reason.beingDeleted, e.message⟩ ""
  | unready {name : String} {ns : Option String} {target : Object}
      (near : ns.getD o.metadata.namespaceText = o.metadata.namespaceText)
      (stored : s.findObject? ⟨l.target, o.metadata.namespaceText, name⟩ = some target)
      (kept : target.metadata.deletionTimestamp = none) (unready : ¬ target.Live) :
      Row l o s (.object name ns) (.ok .notReady) ⟨l.condition, .false, Reason.notReady,
        "referenced " ++ l.target.name ++ " " ++ (o.metadata.namespaceText ++ "/" ++ name) ++
          " is not programmed yet"⟩ ""
  | live {name : String} {ns : Option String} {target : Object}
      (near : ns.getD o.metadata.namespaceText = o.metadata.namespaceText)
      (stored : s.findObject? ⟨l.target, o.metadata.namespaceText, name⟩ = some target) (live : target.Live) :
      Row l o s (.object name ns) (.ok (l.ofTarget target)) (.valid l.condition) target.konnectId

theorem exists_row (l : Link) (o : Object) (s : Store) (ref : Reference) :
    ∃ r v id, l.Row o s ref r v id := by
  cases ref with
  | konnectId id => exact ⟨_, _, _, .given id⟩
  | object name ns =>
    by_cases near : ns.getD o.metadata.namespaceText = o.metadata.namespaceText
    · cases stored : s.findObject? ⟨l.target, o.metadata.namespaceText, name⟩ with
      | none => exact ⟨_, _, _, .missing near stored rfl⟩
      | some target =>
        by_cases kept : target.metadata.deletionTimestamp = none
        · by_cases live : target.Live
          · exact ⟨_, _, _, .live near stored live⟩
          · exact ⟨_, _, _, .unready near stored kept live⟩
        · exact ⟨_, _, _, .leaving near stored kept rfl⟩
    · cases ns with
      | none => exact absurd rfl near
      | some ns => exact ⟨_, _, _, .elsewhere near rfl⟩

end Link

variable {σ : Type} {env : Environment σ} {o : Object} {w : World σ}

theorem onObject_lookup_near (readable : env.Readable) (condition : String) (kind : ManagedKind) (name : String)
    {ns : Option String} (near : ns.getD o.metadata.namespaceText = o.metadata.namespaceText) :
    (lookup env condition kind name ns).onObject o w =
      let key := o.metadata.namespaceText ++ "/" ++ name
      let w' := (w.get env ⟨kind, o.metadata.namespaceText, name⟩).2
      match Standing.of (w.store.findObject? ⟨kind, o.metadata.namespaceText, name⟩) with
      | .missing => (.error (.refNotFound kind.name key),
          o.record ⟨condition, .false, Reason.notFound, (SyncError.refNotFound kind.name key).message⟩ w.now, w')
      | .deleting => (.error (.refBeingDeleted kind.name key),
          o.record ⟨condition, .false, Reason.beingDeleted,
            (SyncError.refBeingDeleted kind.name key).message⟩ w.now, w')
      | .notProgrammed => (.ok none,
          o.record ⟨condition, .false, Reason.notReady,
            "referenced " ++ kind.name ++ " " ++ key ++ " is not programmed yet"⟩ w.now, w')
      | .usable target => (.ok (some target), o, w') := by
  rw [lookup, onObject_bind_ok (onObject_object o w)]
  dsimp only
  rw [if_neg (not_not.mpr near)]
  have run := onObject_tryWorld (World.get env ⟨kind, o.metadata.namespaceText, name⟩) o w
  have read : (w.get env ⟨kind, o.metadata.namespaceText, name⟩).1 =
      .ok (w.store.find? ⟨kind, o.metadata.namespaceText, name⟩) := by
    rw [World.get_eq_fetched, World.fetched, readable.refusal]
  rw [read] at run
  rw [onObject_bind_ok run, ← Store.findObject?_eq, ← World.get_now env]
  cases Standing.of (w.store.findObject? ⟨kind, o.metadata.namespaceText, name⟩) with
  | missing => exact onObject_refuse o _ _ _ _
  | deleting => exact onObject_refuse o _ _ _ _
  | notProgrammed => exact onObject_bind_ok (onObject_record _ o _)
  | usable target => exact onObject_pure _ o _

theorem onObject_lookup_elsewhere (condition : String) {kind : ManagedKind} {name ns : String}
    (away : ns ≠ o.metadata.namespaceText) :
    (lookup env condition kind name (some ns)).onObject o w =
      let e := SyncError.crossNamespaceRef o.kind.name o.keyText kind.name (ns ++ "/" ++ name)
      (.error e, o.record ⟨condition, .false, Reason.invalid, e.message⟩ w.now, w) := by
  rw [lookup, onObject_bind_ok (onObject_object o w)]
  dsimp only
  rw [Option.getD_some, if_pos away]
  exact onObject_refuse o w _ _ _

namespace Link

def follow (l : Link) (env : Environment σ) (name : String) (ns : Option String) : Pass σ Resolution := do
  match ← lookupOrForget env (·.withKonnect (·.set l.field "")) l.condition l.target name ns with
  | none => return .notReady
  | some target =>
    Pass.modifyObject (·.withKonnect (·.set l.field target.konnectId))
    Pass.record (.valid l.condition)
    return l.ofTarget target

section

variable {l : Link} {name : String} {ns : Option String} {v : Verdict} {t : Instant} {w' : World σ}

theorem onObject_follow_error {e : SyncError}
    (run : (lookup env l.condition l.target name ns).onObject o w = (.error e, o.record v t, w')) :
    (l.follow env name ns).onObject o w =
      (.error e, (o.withKonnect (·.set l.field "")).record v t, w') := by
  rw [follow, onObject_bind_error (onObject_lookupOrForget _ run), Object.withKonnect_record]

theorem onObject_follow_none
    (run : (lookup env l.condition l.target name ns).onObject o w = (.ok none, o.record v t, w')) :
    (l.follow env name ns).onObject o w =
      (.ok .notReady, (o.withKonnect (·.set l.field "")).record v t, w') := by
  rw [follow, onObject_bind_ok (onObject_lookupOrForget _ run), Object.withKonnect_record]
  rfl

theorem onObject_follow_some {target : Object}
    (run : (lookup env l.condition l.target name ns).onObject o w = (.ok (some target), o, w')) :
    (l.follow env name ns).onObject o w =
      (.ok (l.ofTarget target),
        (o.withKonnect (·.set l.field target.konnectId)).record (.valid l.condition) w'.now, w') := by
  rw [follow, onObject_bind_ok (onObject_lookupOrForget _ run)]
  rfl

theorem onObject_follow (readable : env.Readable) {r : Except SyncError Resolution} {id : String}
    (row : l.Row o w.store (.object name ns) r v id) : ∃ w', World.Reading env w w' ∧
      (l.follow env name ns).onObject o w = (r, (o.withKonnect (·.set l.field id)).record v w.now, w') := by
  have read : World.Reading env w (w.get env ⟨l.target, o.metadata.namespaceText, name⟩).2 := .single ⟨_, rfl⟩
  have run (near : ns.getD o.metadata.namespaceText = o.metadata.namespaceText) :=
    onObject_lookup_near (w := w) readable l.condition l.target name near
  cases row with
  | elsewhere away told =>
    subst told
    exact ⟨w, .refl, onObject_follow_error (onObject_lookup_elsewhere _ away)⟩
  | missing near absent told =>
    subst told
    have run := run near
    rw [absent] at run
    exact ⟨_, read, onObject_follow_error run⟩
  | leaving near stored leaving told =>
    subst told
    have run := run near
    rw [stored, Standing.of_deleting leaving] at run
    exact ⟨_, read, onObject_follow_error run⟩
  | unready near stored kept unready =>
    have run := run near
    rw [stored, Standing.of_unready kept unready] at run
    exact ⟨_, read, onObject_follow_none run⟩
  | live near stored live =>
    have run := run near
    rw [stored, Standing.of_live live] at run
    have follows := onObject_follow_some run
    rw [World.get_now] at follows
    exact ⟨_, read, follows⟩

end

end Link

/-- What a resolution comes to: its answer, what it notes of the reference, and the id, while nothing else of
the object changes and the world is only read. -/
structure Comes (env : Environment σ) (field : Field) (p : Pass σ Resolution) (o : Object) (w : World σ)
    (r : Except SyncError Resolution) (v : Verdict) (id : String) : Prop where
  answer : (p.onObject o w).1 = r
  noted : (p.onObject o w).2.1.Notes v o.metadata.generationValue
  konnect : (p.onObject o w).2.1.konnect = o.konnect.set field id
  others : ∀ type, type ≠ v.type → (p.onObject o w).2.1.condition? type = o.condition? type
  metadata : (p.onObject o w).2.1.metadata = o.metadata
  spec : (p.onObject o w).2.1.spec = o.spec
  reads : World.Reading env w (p.onObject o w).2.2

theorem Comes.of_run {field : Field} {p : Pass σ Resolution} {r : Except SyncError Resolution} {v : Verdict}
    {id : String} {w' : World σ} (reads : World.Reading env w w')
    (run : p.onObject o w = (r, (o.withKonnect (·.set field id)).record v w.now, w')) :
    Comes env field p o w r v id := by
  have told (type : String) := (o.withKonnect (·.set field id)).record_condition? v w.now type
  refine ⟨?_, ?_, ?_, fun type other => ?_, ?_, ?_, ?_⟩ <;> rw [run]
  · exact ⟨_, (told v.type).trans (if_pos rfl), Condition.told_agrees _⟩
  · rw [Object.record_konnect, Object.withKonnect_konnect]
  · rw [told, if_neg (Ne.symm other), Object.withKonnect_condition?]
  · rfl
  · rfl
  · exact reads

/-- The table decides a resolution: there is a row for the reference, and what it says comes about. -/
def Link.Decides (l : Link) (env : Environment σ) (p : Pass σ Resolution) (o : Object) (w : World σ)
    (ref : Reference) : Prop :=
  (∃ r v id, l.Row o w.store ref r v id) ∧
    ∀ r v id, l.Row o w.store ref r v id → Comes env l.field p o w r v id

theorem decides_parentOf (readable : env.Readable) {kind : ManagedKind} (child : o.kind.parentKind? = some kind)
    {ref : Reference} (link : o.linkTo kind = some ref) :
    (Link.toParent kind).Decides env (parentOf env) o w ref := by
  refine ⟨Link.exists_row _ o w.store ref, fun r v id row => ?_⟩
  cases ref with
  | konnectId given =>
    cases row
    refine .of_run .refl ?_
    rw [parentOf_eq_parent child, parent, onObject_bind_ok (onObject_object o w), link]
    rfl
  | object name ns =>
    obtain ⟨w', reads, run⟩ := Link.onObject_follow readable row
    refine .of_run reads (Eq.trans ?_ run)
    rw [parentOf_eq_parent child, parent, onObject_bind_ok (onObject_object o w), link]
    rfl

theorem decides_controlPlane (readable : env.Readable) (inPlane : o.kind.controlPlaneScoped = true)
    (inherited : Option String) {ref : Reference} (held : o.spec.controlPlaneRef = some ref) :
    Link.toPlane.Decides env (controlPlane env inherited) o w ref := by
  refine ⟨Link.exists_row _ o w.store ref, fun r v id row => ?_⟩
  cases ref with
  | konnectId given =>
    cases row
    refine .of_run .refl ?_
    rw [controlPlane, onObject_bind_ok (onObject_object o w), held, inPlane]
    rfl
  | object name ns =>
    obtain ⟨w', reads, run⟩ := Link.onObject_follow readable row
    refine .of_run reads (Eq.trans ?_ run)
    rw [controlPlane, onObject_bind_ok (onObject_object o w), held, inPlane]
    rfl

/-- While the store can be read, the reference of an object to its one parent and that to its control plane
come to what the table says: to the first reason not to follow it, with no id left, or to the id that is given
or found. Without a parent none is remembered, and that is fine. Without a control plane the one that is
inherited is taken over, and there has to be one. -/
theorem reference_outcomes (readable : env.Readable) (o : Object) (w : World σ) :
    (∀ kind, o.kind.parentKind? = some kind →
      (o.linkTo kind = none →
        Comes env .parentId (parentOf env) o w (.ok .unset) (.valid kind.linkCondition) "") ∧
      ∀ ref, o.linkTo kind = some ref → (Link.toParent kind).Decides env (parentOf env) o w ref) ∧
    (o.kind.controlPlaneScoped = true → ∀ inherited,
      (o.spec.controlPlaneRef = none → (controlPlane env inherited).onObject o w =
        (match inherited with
          | some _ => .ok .unset
          | none => .error (.missingControlPlaneId (if o.konnectId = "" then .create else .update) o.kind.name
              o.keyText),
          o.withKonnect (·.set .controlPlaneId (inherited.getD "")), w)) ∧
      ∀ ref, o.spec.controlPlaneRef = some ref →
        Link.toPlane.Decides env (controlPlane env inherited) o w ref) := by
  refine ⟨fun kind child => ⟨fun unset => ?_, fun ref => decides_parentOf readable child⟩,
    fun inPlane inherited => ⟨fun unset => ?_, fun ref => decides_controlPlane readable inPlane inherited⟩⟩
  · refine .of_run .refl ?_
    rw [parentOf_eq_parent child, parent, onObject_bind_ok (onObject_object o w), unset]
    rfl
  · rw [controlPlane, onObject_bind_ok (onObject_object o w), unset, inPlane]
    cases inherited <;> rfl

section

open Scene

def attached : Object := { Reconcile.way with status := some ⟨{ Coordinates.none with parentId := "ee" }, []⟩ }

/-- The service of the route is about to go, and its control plane is not there. -/
theorem attached_let_go :
    calm.Readable ∧
      ((parentOf calm).onObject attached (markWeb (fresh []))).1 =
        .error (.refBeingDeleted "KongService" "shop/web") ∧
      ((parentOf calm).onObject attached (markWeb (fresh []))).2.1.parentId = "" ∧
      ((controlPlane calm none).onObject attached (markWeb (fresh []))).1 =
        .error (.refNotFound "KonnectGatewayControlPlane" "shop/main") := by
  have readable : calm.Readable := fun _ _ => rfl
  obtain ⟨parents, planes⟩ := reference_outcomes readable attached (markWeb (fresh []))
  obtain ⟨service, stored, leaving⟩ : ∃ t, (markWeb (fresh [])).store.findObject? webKey = some t ∧
      decide (t.metadata.deletionTimestamp ≠ none) := (Option.any_eq_true _ _).mp (by decide +kernel)
  have absent : (markWeb (fresh [])).store.findObject? ⟨ManagedKind.controlPlane, "shop", "main"⟩ = none :=
    Option.isNone_iff_eq_none.mp (by decide +kernel)
  have parent := ((parents .service rfl).2 _ rfl).2 _ _ _ (.leaving rfl stored (of_decide_eq_true leaving) rfl)
  have plane := ((planes rfl none).2 _ rfl).2 _ _ _ (.missing rfl absent rfl)
  exact ⟨readable, parent.answer, congrArg Coordinates.parentId parent.konnect, plane.answer⟩

end

end Resolve

end GatewaySync
