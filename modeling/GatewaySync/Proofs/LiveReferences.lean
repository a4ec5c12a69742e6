import GatewaySync.Proofs.CallDiscipline
import GatewaySync.Proofs.Destination
import GatewaySync.Proofs.Identity
import GatewaySync.Proofs.References
/-!
# What a child is written against

Routes, keys and credentials name a parent and live in a control plane. The ids of both travel through
the status, where older values may still stand, into the path and the body of the calls that write the
entity. What is sent is nevertheless what the references came to in the same pass, and by name they come
only to live objects.
-/
namespace GatewaySync

open Json (always)

/-- A call that writes an entity of the kind names its parent: a route its service and a key its set in
the body, a credential its consumer in the path. -/
def NamesParent (kind : ManagedKind) (p : EntityPath) (body : Json) (id : String) : Prop :=
  match kind with
  | .route => body.member? "service" = some (.object [always "id" (.str id)])
  | .key => body.member? "set" = some (.object [always "id" (.str id)])
  | kind => ∃ controlPlaneId,
      p = .nested controlPlaneId ManagedKind.consumer.collection id kind.collection

theorem Json.member?_object_id {key id : String} {rest : List (Option (String × Json))} :
    (object (idMember key id :: rest)).member? key =
      if id = "" then (object rest).member? key else some (object [always "id" (.str id)]) := by
  unfold idMember
  split_ifs
  · exact member?_object_skip (by simp)
  · exact (member?_object_always _).trans (if_pos rfl)

section

variable {p q : EntityPath} {body body' : Json} {filter : ListFilter} {talk : List Exchange}
  {ok : Bool} {known id : String} {x : Exchange}

theorem Creation.of_written (h : Creation p body filter talk ok id) (hx : x ∈ talk)
    (written : x.written? = some (q, body')) : q = p ∧ body' = body := by
  cases h with
  | created | unnamed | refused =>
    obtain rfl := List.mem_singleton.mp hx
    cases written
    exact ⟨rfl, rfl⟩
  | adopted | contested | unlisted =>
    simp only [List.mem_cons, List.not_mem_nil, or_false] at hx
    rcases hx with rfl | rfl <;> cases written
    exact ⟨rfl, rfl⟩

/-- All that a write sends goes to one collection with one body. -/
theorem Writing.of_written (h : Writing p body filter known talk ok id) (hx : x ∈ talk)
    (written : x.written? = some (q, body')) : q = p ∧ body' = body := by
  cases h with
  | created h => exact h.of_written hx written
  | updated | refused =>
    obtain rfl := List.mem_singleton.mp hx
    cases written
    exact ⟨rfl, rfl⟩
  | recreated _ _ h =>
    rcases List.mem_cons.mp hx with rfl | hx
    · cases written
      exact ⟨rfl, rfl⟩
    · exact h.of_written hx written

end

namespace Object

variable {o : Object} {op : Operation} {p : EntityPath}

theorem controlPlanePath_eq_ok (h : o.controlPlanePath op = .ok p) :
    o.controlPlaneId ≠ "" ∧ p = .controlPlane o.controlPlaneId o.kind.collection := by
  unfold controlPlanePath at h
  split_ifs at h with unknown
  cases h
  exact ⟨unknown, rfl⟩

theorem nestedPath_eq_ok {parent : ManagedKind} (h : o.nestedPath op parent = .ok p) :
    o.controlPlaneId ≠ "" ∧
      p = .nested o.controlPlaneId parent.collection o.parentId o.kind.collection := by
  unfold nestedPath at h
  split_ifs at h with unknown orphan
  cases h
  exact ⟨unknown, rfl⟩

/-- Everything but a control plane is written under a control plane that is known. -/
theorem controlPlaneId?_of_path (h : o.path op = .ok p) (inPlane : o.kind.controlPlaneScoped) :
    o.controlPlaneId ≠ "" ∧ p.controlPlaneId? = some o.controlPlaneId := by
  have direct (h : o.controlPlanePath op = .ok p) :
      o.controlPlaneId ≠ "" ∧ p.controlPlaneId? = some o.controlPlaneId := by
    obtain ⟨known, rfl⟩ := controlPlanePath_eq_ok h
    exact ⟨known, rfl⟩
  have nested {parent : ManagedKind} (h : o.nestedPath op parent = .ok p) :
      o.controlPlaneId ≠ "" ∧ p.controlPlaneId? = some o.controlPlaneId := by
    obtain ⟨known, rfl⟩ := nestedPath_eq_ok h
    exact ⟨known, rfl⟩
  unfold path at h
  split at h
  · rename_i kind
    rw [kind] at inPlane
    cases inPlane
  · exact nested h
  · exact nested h
  · split_ifs at h
    exact direct h
  · exact direct h

theorem kind_route (h : o.kind = .route) : ∃ s, o.spec = .route s := by
  unfold kind at h
  cases hs : o.spec <;> rw [hs] at h <;> cases h
  exact ⟨_, rfl⟩

theorem kind_key (h : o.kind = .key) : ∃ s, o.spec = .key s := by
  unfold kind at h
  cases hs : o.spec <;> rw [hs] at h <;> cases h
  exact ⟨_, rfl⟩

theorem kind_pluginBinding (h : o.kind = .pluginBinding) : ∃ s, o.spec = .pluginBinding s := by
  unfold kind at h
  cases hs : o.spec <;> rw [hs] at h <;> cases h
  exact ⟨_, rfl⟩

theorem member?_body_route (h : o.kind = .route) :
    o.body.member? "service" =
        (if o.parentId = "" then none else some (.object [always "id" (.str o.parentId)])) ∧
      o.body.member? "set" = none := by
  obtain ⟨s, spec⟩ := kind_route h
  simp [body, bodyWith, spec, RouteSpec.body, tagsMember, Json.member?_object_always,
    Json.member?_object_whenSet, Json.member?_object_listUnlessEmpty, Json.member?_object_idMember,
    Json.member?_object_id]

theorem member?_body_key (h : o.kind = .key) :
    o.body.member? "set" =
        (if o.parentId = "" then none else some (.object [always "id" (.str o.parentId)])) ∧
      o.body.member? "service" = none := by
  obtain ⟨s, spec⟩ := kind_key h
  simp [body, bodyWith, spec, KeySpec.body, tagsMember, Json.member?_object_always,
    Json.member?_object_whenSet, Json.member?_object_idMember, Json.member?_object_id]

theorem namesParent {parentKind : ManagedKind} (child : o.kind.parentKind? = some parentKind)
    (path : o.path .create = .ok p) (known : o.parentId ≠ "") :
    NamesParent o.kind p o.body o.parentId := by
  unfold Object.path at path
  cases kind : o.kind <;> rw [kind] at child path <;> cases child
  · exact (member?_body_route kind).1.trans (if_neg known)
  · obtain ⟨-, rfl⟩ := nestedPath_eq_ok path
    exact ⟨_, by rw [kind]⟩
  · obtain ⟨-, rfl⟩ := nestedPath_eq_ok path
    exact ⟨_, by rw [kind]⟩
  · exact (member?_body_key kind).1.trans (if_neg known)

theorem namesNoParent {parentKind : ManagedKind} (child : o.kind.parentKind? = some parentKind)
    (orphan : o.parentId = "") (path : o.path .create = .ok p) :
    o.body.member? "service" = none ∧ o.body.member? "set" = none := by
  unfold Object.path at path
  cases kind : o.kind <;> rw [kind] at child path <;> cases child
  · obtain ⟨service, set⟩ := member?_body_route kind
    exact ⟨service.trans (if_pos orphan), set⟩
  · simp [nestedPath, orphan] at path
    split at path <;> cases path
  · simp [nestedPath, orphan] at path
    split at path <;> cases path
  · obtain ⟨set, service⟩ := member?_body_key kind
    exact ⟨service, set.trans (if_pos orphan)⟩

end Object

namespace Resolve

open Pass

variable {σ : Type} {env : Environment σ} {o o' : Object} {w w' : World σ}

theorem Leaves.namespaceText (h : Leaves env (o, w) (o', w')) :
    o'.metadata.namespaceText = o.metadata.namespaceText := by
  rw [h.metadata]
  rfl

theorem Leaves.controlPlaneRef (h : Leaves env (o, w) (o', w')) :
    o'.spec.controlPlaneRef = o.spec.controlPlaneRef :=
  Object.controlPlaneRef_congr h.spec

/-- A resolution changes neither where a reference leads nor what is found there. -/
theorem Refers.of_leaves {kind : ManagedKind} {name : String} {ns : Option String}
    {target : Object} (leaves : Leaves env (o, w) (o', w')) (h : Refers o' w' kind name ns target) :
    Refers o w kind name ns target := by
  obtain ⟨near, stored, live⟩ := h
  rw [leaves.namespaceText] at near stored
  rw [show w'.store = w.store from leaves.store] at stored
  exact ⟨near, stored, live⟩

theorem parent_of_ready {kind : ManagedKind} (child : o.kind.parentKind? = some kind)
    (h : Resolving env o w (.ok .ready) o') :
    match o.linkTo kind with
    | none => o'.parentId = ""
    | some (.konnectId id) => o'.parentId = id
    | some (.object name ns) => ∃ parent, Refers o w kind name ns parent ∧
        o'.parentId = parent.konnectId ∧
        (parent.controlPlaneId ≠ "" → o'.controlPlaneId = parent.controlPlaneId) := by
  obtain ⟨q, q', o₁, o₂, w₁, first, resolved, -, -, kept, agrees, rfl⟩ := h.of_ready
  have home := o₂.ownedBy_controlPlaneId (q.owner?.or q'.owner?)
  rw [Object.ownedBy_parentId, kept.parentId]
  cases parented_of_parentOf child first with
  | unset link id => rw [link]; exact id
  | given link id => rw [link]; exact id
  | @found name ns parent _ link refers id =>
    rw [link]
    refine ⟨parent, refers, id, fun known => home.trans (agrees _ ?_).symm⟩
    simp [Resolution.inherited?, known]
  | invalid _ failed => exact absurd (failed q rfl) resolved

theorem home_of_ready (inPlane : o.kind.controlPlaneScoped) (h : Resolving env o w (.ok .ready) o') :
    match o.spec.controlPlaneRef with
    | none => True
    | some (.konnectId id) => o'.controlPlaneId = id
    | some (.object name ns) =>
      ∃ plane, Refers o w .controlPlane name ns plane ∧ o'.controlPlaneId = plane.konnectId := by
  obtain ⟨q, q', o₁, o₂, w₁, first, -, home, settled, -, -, rfl⟩ := h.of_ready
  have leaves := leaves_of_parentOf first
  have kind : o₁.kind = o.kind := Object.kind_of_key_eq leaves.key
  rw [← leaves.controlPlaneRef, Object.ownedBy_controlPlaneId]
  cases home with
  | unscoped unscoped =>
    rw [kind, inPlane] at unscoped
    cases unscoped
  | inherited none => rw [none]; trivial
  | given given known => rw [given]; exact known
  | found found refers known => rw [found]; exact ⟨_, refers.of_leaves leaves, known⟩
  | invalid _ failed => exact absurd (failed q' rfl) settled

theorem controlPlane_of_ready (inPlane : o.kind.controlPlaneScoped)
    (h : Resolving env o w (.ok .ready) o') {name : String} {ns : Option String}
    (ref : o.spec.controlPlaneRef = some (.object name ns)) :
    ∃ plane, Refers o w .controlPlane name ns plane ∧ o'.controlPlaneId = plane.konnectId := by
  have home := home_of_ready inPlane h
  rw [ref] at home
  exact home

end Resolve

namespace Reconcile

open Pass World

variable {σ : Type} {env : Environment σ} {settings : OperatorSettings}

theorem Spoken.of_written {o : Object} {talk : List Exchange} {ok : Bool} {id : String}
    {x : Exchange} {p : EntityPath} {body : Json} (h : Spoken o talk ok id) (hx : x ∈ talk)
    (written : x.written? = some (p, body)) : o.path .create = .ok p ∧ body = o.body := by
  cases h with
  | pathless => cases hx
  | written path spoken =>
    rcases List.mem_append.mp hx with hx | hx
    · obtain ⟨rfl, same⟩ := spoken.of_written hx written
      exact ⟨path, same⟩
    · obtain rfl := List.mem_singleton.mp hx
      cases written
  | unwritten path spoken =>
    obtain ⟨rfl, same⟩ := spoken.of_written hx written
    exact ⟨path, same⟩

/-- What a pass writes is the body of an object that it prepared, at the path of that object. -/
theorem Course.of_written {k : Key} {w w' : World σ} {talk : List Exchange}
    {r : Except SyncError Action} {x : Exchange} {p : EntityPath} {body : Json}
    (h : Course env settings k w talk r w') (hx : x ∈ talk) (written : x.written? = some (p, body)) :
    ∃ o o₂ w₂, Prepares env k w o o₂ w₂ ∧ o₂.path .create = .ok p ∧ body = o₂.body := by
  by_cases reads : ∃ o w₁, Reads env k w o w₁
  · obtain ⟨o, w₁, reads⟩ := reads
    rcases h.of_reads reads with ⟨-, silent, -⟩ | ⟨need, -⟩ | ⟨need, s, m, v, b, course, -⟩
    · rw [silent] at hx
      cases hx
    · rw [(h.farewell reads need).written_eq_none hx] at written
      cases written
    · rcases course.talk_cases reads need with ⟨silent, -⟩ |
        ⟨o₂, w₂, ok, id, w₃, prepares, spoken, -⟩
      · rw [silent] at hx
        cases hx
      · exact ⟨o, o₂, w₂, prepares, spoken.of_written hx written⟩
  · rw [(h.of_unread fun o w₁ h => reads ⟨o, w₁, h⟩).1] at hx
    cases hx

/-- A route, key or credential is written only against live objects. Whatever was stored in its status
before, every call that writes its entity names the parent that its reference came to, and no parent if
there is no reference. A parent that is named by a reference is stored in the namespace of the child, is
live, and lives in the control plane of the call as far as its own is known. A control plane that is
named by a reference is stored there and live as well, and the call goes to it. -/
theorem child_written_against_live_references (env : Environment σ) (settings : OperatorSettings)
    {kind parentKind : ManagedKind} (child : kind.parentKind? = some parentKind) (ns name : String)
    (w : World σ) {x : Exchange} {p : EntityPath} {body : Json}
    (said : x ∈ (visit env settings kind ns name w).talk) (written : x.written? = some (p, body)) :
    ∃ o, w.store.findObject? ⟨kind, ns, name⟩ = some o ∧
      (∀ parentName parentNs, o.linkTo parentKind = some (.object parentName parentNs) →
        ∃ parent, w.store.findObject? ⟨parentKind, ns, parentName⟩ = some parent ∧
          parentNs.getD ns = ns ∧ parent.Live ∧ NamesParent kind p body parent.konnectId ∧
          (parent.controlPlaneId ≠ "" → p.controlPlaneId? = some parent.controlPlaneId)) ∧
      (o.linkTo parentKind = none → body.member? "service" = none ∧ body.member? "set" = none) ∧
      ∀ planeName planeNs, o.spec.controlPlaneRef = some (.object planeName planeNs) →
        ∃ plane, w.store.findObject? ⟨ManagedKind.controlPlane, ns, planeName⟩ = some plane ∧
          planeNs.getD ns = ns ∧ plane.Live ∧ p.controlPlaneId? = some plane.konnectId := by
  obtain ⟨o, o₂, w₂, ⟨w₀, o₁, w₁, reads, -, resolved, prepared⟩, path, rfl⟩ :=
    (visit_course env settings kind ns name w).of_written said written
  have stored : w.store.findObject? ⟨kind, ns, name⟩ = some o := reads.stored.1
  have key := reads.key
  obtain ⟨rfl, rfl, -⟩ : o.kind = kind ∧ o.metadata.namespaceText = ns ∧ _ := by
    simpa [Object.key, Visit.key, visit] using key
  have same := prepared_of_resolved resolved prepared
  obtain ⟨version, memory⟩ := persistMetadata_memory prepared
  have kind : o₂.kind = o.kind := Kind.managed.inj (congrArg Key.kind same.key)
  have parentId : o₂.parentId = o₁.parentId := by rw [memory]; rfl
  have home : o₂.controlPlaneId = o₁.controlPlaneId := by rw [memory]; rfl
  have resolving := Resolve.resolving_of_references resolved
  have inPlane : o.kind.controlPlaneScoped := by
    cases kind : o.kind <;> rw [kind] at child <;> cases child <;> rfl
  have homed := (Object.controlPlaneId?_of_path path (kind ▸ inPlane)).2
  have parent := Resolve.parent_of_ready child resolving
  refine ⟨o, stored, fun parentName parentNs link => ?_, fun link => ?_, fun planeName planeNs ref => ?_⟩
  · rw [link] at parent
    obtain ⟨parent, ⟨near, found, live⟩, id, agrees⟩ := parent
    rw [reads.stored.2] at found
    have named : o₂.parentId = parent.konnectId := parentId.trans id
    have names := Object.namesParent (kind ▸ child) path (named ▸ live.known)
    rw [kind, named] at names
    refine ⟨parent, found, near, live, names, fun known => ?_⟩
    rw [homed, home, agrees known]
  · rw [link] at parent
    exact Object.namesNoParent (kind ▸ child) (parentId.trans parent) path
  · obtain ⟨plane, ⟨near, found, live⟩, id⟩ :=
      Resolve.controlPlane_of_ready inPlane resolving ref
    rw [reads.stored.2] at found
    refine ⟨plane, found, near, live, ?_⟩
    rw [homed, home, id]

section

open Scene

/-- A route to the service, in the control plane. -/
def way : Object where
  metadata := { (default : Metadata) with name := some "way", ns := some "shop", uid := some "u-3" }
  spec := .route ⟨some (.object "main" none), some (.object "web" none), none, [], [], [], [], none, []⟩
  status := none

def routing : Visit Cloud :=
  visit calm OperatorSettings.default .route "shop" "way"
    { joining.after with store := joining.after.store.put (.managed way) }

/-- The route is created for the entity of its service, in its control plane. -/
theorem way_written_against_service :
    ∃ x ∈ routing.talk, ∃ p body, x.written? = some (p, body) ∧
      (∃ parent, routing.before.store.findObject? webKey = some parent ∧ parent.Live ∧
        NamesParent .route p body "ee") ∧ p.controlPlaneId? = some "e" := by
  obtain ⟨x, said, writes⟩ : ∃ x ∈ routing.talk, x.written?.isSome :=
    List.any_eq_true.mp (by decide +kernel)
  obtain ⟨⟨p, body⟩, written⟩ := Option.isSome_iff_exists.mp writes
  obtain ⟨o, stored, parents, -, planes⟩ := child_written_against_live_references calm
    OperatorSettings.default rfl "shop" "way" _ said written
  obtain ⟨way, found, refs⟩ : ∃ o, routing.before.store.findObject? ⟨ManagedKind.route, "shop", "way"⟩ =
      some o ∧ decide (o.linkTo .service = some (.object "web" none) ∧
        o.spec.controlPlaneRef = some (.object "main" none)) :=
    (Option.any_eq_true _ _).mp (by decide +kernel)
  obtain rfl : way = o := Option.some.inj (found.symm.trans stored)
  obtain ⟨link, ref⟩ := of_decide_eq_true refs
  obtain ⟨service, there, known⟩ : ∃ o, routing.before.store.findObject? webKey = some o ∧
      decide (o.konnectId = "ee") := (Option.any_eq_true _ _).mp (by decide +kernel)
  obtain ⟨plane, home, placed⟩ : ∃ o, routing.before.store.findObject? planeKey = some o ∧
      decide (o.konnectId = "e") := (Option.any_eq_true _ _).mp (by decide +kernel)
  obtain ⟨parent, storedParent, -, live, names, -⟩ := parents _ _ link
  obtain rfl : service = parent := Option.some.inj (there.symm.trans storedParent)
  obtain ⟨_, storedPlane, -, -, path⟩ := planes _ _ ref
  obtain rfl := Option.some.inj (home.symm.trans storedPlane)
  rw [of_decide_eq_true known] at names
  rw [of_decide_eq_true placed] at path
  exact ⟨x, said, p, body, written, ⟨service, storedParent, live, names⟩, path⟩

end

end Reconcile

end GatewaySync
