import GatewaySync.Proofs.LiveReferences
/-!
# What a binding is written for

A binding puts a plugin on up to three targets. What it applies is found anew on every pass, kept in memory
only, and is what the body of its entity is made of. So the body says what the plugin and the targets are
when the pass reads them, and all of them live in the control plane that the entity is written to.
-/
namespace GatewaySync

open Json (always)

namespace Json

variable {key : String} {rest : List (Option (String × Json))}

theorem member?_object_set {α : Type} {write : α → Json} {value : Option α} :
    (object (whenSet key write value :: rest)).member? key =
      (value.map write).or ((object rest).member? key) := by
  cases value with
  | none => exact member?_object_skip (by simp [whenSet])
  | some v => exact (member?_object_always _).trans (if_pos rfl)

theorem member?_object_list {items : List String} :
    (object (listUnlessEmpty key items :: rest)).member? key =
      if items = [] then (object rest).member? key else some (ofStrings items) := by
  unfold listUnlessEmpty
  split_ifs
  · exact member?_object_skip (by simp)
  · exact (member?_object_always _).trans (if_pos rfl)

end Json

def Resource.plugin? : Resource → Option Plugin
  | .plugin p => some p
  | .managed _ => none

def Spec.binding? : Spec → Option PluginBindingSpec
  | .pluginBinding s => some s
  | _ => none

/-- What a binding of the plugin to the targets applies. -/
def Plugin.appliedTo (p : Plugin) (service route consumer : Resolve.Target) : ResolvedBinding where
  pluginName := p.spec.pluginName
  config := p.spec.config
  enabled := !p.spec.disabled
  protocols := p.spec.protocols
  serviceId := service.id?
  routeId := route.id?
  consumerId := consumer.id?

theorem Spec.withResolved_resolved {s : Spec} (r : Option ResolvedBinding) (binding : s.kind = .pluginBinding) :
    (s.withResolved r).resolved = r := by
  cases s <;> first | rfl | cases binding

namespace Resolve

open Pass

/-- Targets that do not disagree live in the control plane of the first one. -/
theorem shared_of_agreement {shared : Option String} {targets : List Target}
    (agree : disagreement shared targets = none) {kind : ManagedKind} {id controlPlaneId : String}
    (mem : .ready kind id controlPlaneId ∈ targets) :
    shared.or (firstControlPlane targets) = some controlPlaneId := by
  induction targets generalizing shared with
  | nil => cases mem
  | cons t rest ih =>
    cases t with
    | unset => exact ih agree (by simpa using mem)
    | notReady => exact ih agree (by simpa using mem)
    | ready kind' id' first =>
      cases shared with
      | none =>
        rcases List.mem_cons.mp mem with same | mem
        · cases same
          rfl
        · exact ih agree mem
      | some own =>
        rw [disagreement] at agree
        split_ifs at agree with same
        rcases List.mem_cons.mp mem with here | mem
        · cases here
          exact congrArg some same
        · exact ih agree mem

variable {σ : Type} {env : Environment σ} {o o' : Object} {w w' : World σ}

/-- What a target came to, if it does not keep the binding waiting. -/
inductive Aimed (o : Object) (w : World σ) (kind : ManagedKind) : Option String → Target → Prop
  | unset : Aimed o w kind none .unset
  | ready {name : String} {found : Object} (refers : Refers o w kind name none found) :
      Aimed o w kind (some name) (.ready kind found.konnectId found.controlPlaneId)

theorem Aimed.of_leaves {kind : ManagedKind} {name : Option String} {t : Target}
    (leaves : Leaves env (o, w) (o', w')) (h : Aimed o' w' kind name t) : Aimed o w kind name t := by
  cases h with
  | unset => exact .unset
  | ready refers => exact .ready (refers.of_leaves leaves)

theorem plugin_ok {ns name : String} {p : Plugin}
    (run : (plugin env ns name).onObject o w = (.ok p, o', w')) :
    w.store.find? ⟨.plugin, ns, name⟩ = some (.plugin p) ∧ p.metadata.deletionTimestamp = none := by
  obtain ⟨found, o₁, w₁, read, rest⟩ := onObject_bind_eq_ok run
  rw [onObject_tryWorld] at read
  rcases World.get_cases env ⟨.plugin, ns, name⟩ w with ⟨a, got⟩ | got <;> rw [got] at read <;> cases read
  dsimp only at rest
  split at rest
  · rename_i q stored
    split at rest
    · rw [onObject_refuse] at rest
      cases rest
    · rename_i kept
      obtain ⟨-, o₂, w₂, -, last⟩ := onObject_bind_eq_ok rest
      cases last
      exact ⟨stored, by simpa [Metadata.isDeleting] using kept⟩
  · rw [onObject_refuse] at rest
    cases rest

theorem target_ok {kind : ManagedKind} {name : Option String} {t : Target}
    (run : (target env kind name).onObject o w = (.ok t, o', w')) (settled : t ≠ .notReady) :
    Aimed o w kind name t := by
  cases name with
  | none =>
    cases run
    exact .unset
  | some name =>
    obtain ⟨found, o₁, w₁, looked, rest⟩ := onObject_bind_eq_ok run
    obtain ⟨r, o₂, w₂, run', sought⟩ := lookup_sought env o w kind.linkCondition kind name none
    cases looked.symm.trans run'
    cases found with
    | none =>
      cases rest
      exact absurd rfl settled
    | some found =>
      obtain ⟨-, o₃, w₃, -, last⟩ := onObject_bind_eq_ok rest
      cases last
      cases sought with
      | invalid _ _ failed => exact absurd rfl (failed found)
      | usable refers => exact .ready refers

/-- The plugin and the targets that a binding was resolved to: all are there, and the targets do not
disagree about their control plane. -/
structure Bound (o : Object) (w : World σ) (s : PluginBindingSpec) (p : Plugin)
    (service route consumer : Target) : Prop where
  agree : disagreement none [service, route, consumer] = none
  stored : w.store.find? ⟨.plugin, o.metadata.namespaceText, s.plugin⟩ = some (.plugin p)
  kept : p.metadata.deletionTimestamp = none
  service : Aimed o w .service s.service service
  route : Aimed o w .route s.route route
  consumer : Aimed o w .consumer s.consumer consumer

/-- The control plane that the targets of a binding pass on. -/
def sharedControlPlane (targets : List Target) : Option String :=
  (firstControlPlane targets).filter (· ≠ "")

/-- A binding that is resolved applies what it was resolved to in this pass, whatever it applied before. -/
theorem binding_ok {s : PluginBindingSpec} {q : Resolution} (spec : o.spec = .pluginBinding s)
    (run : (binding env s).onObject o w = (.ok q, o', w')) (settled : q ≠ .notReady) :
    ∃ p service route consumer, Bound o w s p service route consumer ∧
      q = .resolved none (sharedControlPlane [service, route, consumer]) ∧
      o'.spec.resolved = some (p.appliedTo service route consumer) := by
  rw [binding, onObject_bind_ok (onObject_modifyObject _ o w), onObject_bind_ok (onObject_object _ w)] at run
  obtain ⟨p, o₁, w₁, applied, run⟩ := onObject_bind_eq_ok run
  obtain ⟨service, o₂, w₂, first, run⟩ := onObject_bind_eq_ok run
  obtain ⟨route, o₃, w₃, second, run⟩ := onObject_bind_eq_ok run
  obtain ⟨consumer, o₄, w₄, third, run⟩ := onObject_bind_eq_ok run
  have cleared : Leaves env (o, w) (o.withResolved none, w) := leaves_withResolved none o w
  have leaves₁ := (frame env).trans cleared ((plugin_keeps frame_admits _ _).rel applied)
  have leaves₂ := (frame env).trans leaves₁ ((target_keeps frame_admits (by decide) _).rel first)
  have leaves₃ := (frame env).trans leaves₂ ((target_keeps frame_admits (by decide) _).rel second)
  have leaves₄ := (frame env).trans leaves₃ ((target_keeps frame_admits (by decide) _).rel third)
  dsimp only at run
  split at run
  · cases run
    exact absurd rfl settled
  · rename_i ready
    simp only [List.any_cons, List.any_nil, Bool.or_false, Bool.or_eq_true, decide_eq_true_eq, not_or] at ready
    split at run
    · rw [onObject_refuse] at run
      cases run
    · rename_i agree
      rw [onObject_bind_ok (onObject_modifyObject _ o₄ w₄)] at run
      cases run
      obtain ⟨stored, kept⟩ := plugin_ok applied
      have kind : o₄.spec.kind = .pluginBinding := by
        have same : o₄.kind = o.kind := Object.kind_of_key_eq leaves₄.key
        exact same.trans (congrArg Spec.kind spec)
      refine ⟨p, service, route, consumer, ⟨agree, stored, kept, ?_, ?_, ?_⟩, rfl,
        Spec.withResolved_resolved _ kind⟩
      · exact (target_ok first ready.1).of_leaves leaves₁
      · exact (target_ok second ready.2.1).of_leaves leaves₂
      · exact (target_ok third ready.2.2).of_leaves leaves₃

/-- An object of a kind without a parent takes no owner from it, nor an empty id of a control plane. -/
theorem inherits_of_parentless {q : Resolution} (parentless : o.kind.parentKind? = none)
    (run : (parentOf env).onObject o w = (.ok q, o', w')) (resolved : q ≠ .notReady) :
    q.owner? = none ∧ q.inherited? ≠ some "" := by
  by_cases binding : ∃ s, o.spec = .pluginBinding s
  · obtain ⟨s, spec⟩ := binding
    rw [parentOf_eq_binding spec] at run
    obtain ⟨p, service, route, consumer, -, rfl, -⟩ := binding_ok spec run resolved
    simp [Resolution.owner?, Resolution.inherited?, sharedControlPlane, Option.filter_eq_some_iff]
  · rw [parentOf_eq_unset parentless fun s spec => binding ⟨s, spec⟩] at run
    cases run
    simp [Resolution.owner?, Resolution.inherited?]

theorem bound_of_ready {s : PluginBindingSpec} (spec : o.spec = .pluginBinding s)
    (h : Resolving env o w (.ok .ready) o') :
    ∃ p service route consumer, Bound o w s p service route consumer ∧
      (∀ id ∈ sharedControlPlane [service, route, consumer], o'.controlPlaneId = id) ∧
      o'.spec.resolved = some (p.appliedTo service route consumer) := by
  obtain ⟨q, q', o₁, o₂, w₁, parent, resolved, -, -, kept, agrees, rfl⟩ := h.of_ready
  rw [parentOf_eq_binding spec] at parent
  obtain ⟨p, service, route, consumer, bound, rfl, applies⟩ := binding_ok spec parent resolved
  refine ⟨p, service, route, consumer, bound, fun id shared => ?_, ?_⟩
  · rw [Object.ownedBy_controlPlaneId]
    exact (agrees id shared).symm
  · rw [Object.ownedBy_spec, kept.spec]
    exact applies

end Resolve

theorem Object.body_of_resolved {o : Object} {r : ResolvedBinding} (applies : o.spec.resolved = some r) :
    o.body = r.body o.tags := by
  cases spec : o.spec with
  | pluginBinding s =>
    rw [spec] at applies
    have known : s.resolved = some r := applies
    simp only [body, bodyWith, spec, known, Option.getD_some]
  | _ =>
    rw [spec] at applies
    cases applies

def idValue (id : Option String) : Option Json :=
  if id.getD "" = "" then none else some (.object [always "id" (.str (id.getD ""))])

namespace ResolvedBinding

variable (r : ResolvedBinding) (tags : List String)

theorem member?_body :
    (r.body tags).member? "name" = some (.str r.pluginName) ∧
      (r.body tags).member? "config" = r.config ∧
      (r.body tags).member? "enabled" = some (.bool r.enabled) ∧
      (r.body tags).member? "protocols" = if r.protocols = [] then none else some (.ofStrings r.protocols) := by
  simp [body, tagsMember, Json.member?_object_always, Json.member?_object_set, Json.member?_object_whenSet,
    Json.member?_object_list, Json.member?_object_listUnlessEmpty, Json.member?_object_idMember]

theorem member?_body_target :
    (r.body tags).member? "service" = idValue r.serviceId ∧
      (r.body tags).member? "route" = idValue r.routeId ∧
      (r.body tags).member? "consumer" = idValue r.consumerId := by
  simp [body, idValue, tagsMember, Json.member?_object_always, Json.member?_object_whenSet,
    Json.member?_object_listUnlessEmpty, Json.member?_object_idMember, Json.member?_object_id]

end ResolvedBinding

namespace Reconcile

open Pass World

/-- A member of a body names the target of a reference: a live object of the kind, stored under that name
and living in the shared control plane. Without a reference there is no such member. -/
def NamesTarget (store : Store) (ns : String) (kind : ManagedKind) (shared : String) (body : Json)
    (member : String) : Option String → Prop
  | none => body.member? member = none
  | some name => ∃ target, store.findObject? ⟨kind, ns, name⟩ = some target ∧ target.Live ∧
      target.controlPlaneId = shared ∧ body.member? member = some (.object [always "id" (.str target.konnectId)])

/-- What is written for a binding of the namespace says what is stored of its plugin and its targets, and goes
to the control plane that they share and that the binding asks for. -/
structure MirrorsBinding (store : Store) (ns : String) (s : PluginBindingSpec) (p : EntityPath)
    (body : Json) : Prop where
  plugin : ∃ applied : Plugin, store.find? ⟨.plugin, ns, s.plugin⟩ = some (.plugin applied) ∧
    applied.metadata.deletionTimestamp = none ∧
    body.member? "name" = some (.str applied.spec.pluginName) ∧
    body.member? "config" = applied.spec.config ∧
    body.member? "enabled" = some (.bool (!applied.spec.disabled)) ∧
    body.member? "protocols" =
      if applied.spec.protocols = [] then none else some (.ofStrings applied.spec.protocols)
  targets : ∃ shared, NamesTarget store ns .service shared body "service" s.service ∧
    NamesTarget store ns .route shared body "route" s.route ∧
    NamesTarget store ns .consumer shared body "consumer" s.consumer ∧
    (shared ≠ "" → p.controlPlaneId? = some shared)
  home : match s.controlPlaneRef with
    | none => True
    | some (.konnectId id) => p.controlPlaneId? = some id
    | some (.object name planeNs) => ∃ plane, planeNs.getD ns = ns ∧
        store.findObject? ⟨ManagedKind.controlPlane, ns, name⟩ = some plane ∧ plane.Live ∧
        p.controlPlaneId? = some plane.konnectId

section

variable {σ : Type} {env : Environment σ} {settings : OperatorSettings} {o : Object} {w : World σ}

/-- A target that a binding was resolved to is the one that the body names. -/
theorem namesTarget_of_aimed {kind : ManagedKind} {name : Option String} {t : Resolve.Target}
    (h : Resolve.Aimed o w kind name t) {shared member : String} {body : Json}
    (sharing : ∀ kind id plane, t = .ready kind id plane → plane = shared)
    (said : body.member? member = idValue t.id?) :
    NamesTarget w.store o.metadata.namespaceText kind shared body member name := by
  cases h with
  | unset => exact said
  | @ready name found refers =>
    exact ⟨found, refers.stored, refers.live, sharing _ _ _ rfl, said.trans (if_neg refers.live.known)⟩

theorem mirrorsBinding_of_ready {s : PluginBindingSpec} {o₁ o₂ : Object} {p : EntityPath}
    (spec : o.spec = .pluginBinding s) (resolving : Resolve.Resolving env o w (.ok .ready) o₁)
    (same : o₂.spec = o₁.spec ∧ o₂.controlPlaneId = o₁.controlPlaneId) (path : o₂.path .create = .ok p)
    (binding : o₂.kind = .pluginBinding) :
    MirrorsBinding w.store o.metadata.namespaceText s p o₂.body := by
  obtain ⟨applied, service, route, consumer, bound, shares, applies⟩ := Resolve.bound_of_ready spec resolving
  rw [Object.body_of_resolved ((congrArg Spec.resolved same.1).trans applies)]
  have there := (Object.controlPlaneId?_of_path path (by rw [binding]; rfl)).2
  rw [same.2] at there
  have sharing {t : Resolve.Target} (mem : t ∈ [service, route, consumer]) :
      ∀ kind id plane, t = .ready kind id plane →
        plane = (Resolve.firstControlPlane [service, route, consumer]).getD "" := by
    rintro kind id plane rfl
    have first := Resolve.shared_of_agreement bound.agree mem
    rw [Option.none_or] at first
    rw [first, Option.getD_some]
  obtain ⟨names, configures, enables, speaks⟩ := (applied.appliedTo service route consumer).member?_body o₂.tags
  obtain ⟨toService, toRoute, toConsumer⟩ :=
    (applied.appliedTo service route consumer).member?_body_target o₂.tags
  refine ⟨⟨applied, bound.stored, bound.kept, names, configures, enables, speaks⟩,
    ⟨(Resolve.firstControlPlane [service, route, consumer]).getD "", ?_, ?_, ?_, fun known => ?_⟩, ?_⟩
  · exact namesTarget_of_aimed bound.service (sharing (by simp)) toService
  · exact namesTarget_of_aimed bound.route (sharing (by simp)) toRoute
  · exact namesTarget_of_aimed bound.consumer (sharing (by simp)) toConsumer
  · obtain ⟨shared, first⟩ : ∃ shared, Resolve.firstControlPlane [service, route, consumer] = some shared := by
      cases first : Resolve.firstControlPlane [service, route, consumer] with
      | none => simp [first] at known
      | some shared => exact ⟨shared, rfl⟩
    rw [first, Option.getD_some] at known ⊢
    rw [there, shares shared (by simp [Resolve.sharedControlPlane, first, known])]
  · have home := Resolve.home_of_ready (by rw [Object.kind, spec]; rfl) resolving
    have ref : o.spec.controlPlaneRef = s.controlPlaneRef := by rw [spec]; rfl
    rw [ref] at home
    cases asked : s.controlPlaneRef with
    | none => trivial
    | some reference =>
      rw [asked] at home
      cases reference with
      | konnectId id => exact there.trans (congrArg some home)
      | object name planeNs =>
        obtain ⟨plane, ⟨near, stored, live⟩, known⟩ := home
        exact ⟨plane, near, stored, live, there.trans (congrArg some known)⟩

/-- A binding is written as its plugin and its targets stand. Whatever the binding applied before and
whatever its status tells, the body of every call that writes its entity is that of the plugin, which nobody
deletes, on the targets, which are live. The targets share a control plane that is the one of the call as far
as it is known, and so is the control plane that the binding asks for. -/
theorem binding_written_as_it_stands (env : Environment σ) (settings : OperatorSettings) (ns name : String)
    (w : World σ) {x : Exchange} {p : EntityPath} {body : Json}
    (said : x ∈ (visit env settings .pluginBinding ns name w).talk) (written : x.written? = some (p, body)) :
    ∃ o s, w.store.findObject? ⟨ManagedKind.pluginBinding, ns, name⟩ = some o ∧ o.spec = .pluginBinding s ∧
      MirrorsBinding w.store ns s p body := by
  obtain ⟨o, o₂, w₂, ⟨w₀, o₁, w₁, reads, -, resolved, prepared⟩, path, rfl⟩ :=
    (visit_course env settings .pluginBinding ns name w).of_written said written
  obtain ⟨binding, rfl, -⟩ : o.kind = .pluginBinding ∧ o.metadata.namespaceText = ns ∧ _ := by
    simpa [Object.key, Visit.key, visit] using reads.key
  obtain ⟨s, spec⟩ := Object.kind_pluginBinding binding
  obtain ⟨version, memory⟩ := persistMetadata_memory prepared
  have kind : o₂.kind = o.kind := Object.kind_of_key_eq (prepared_of_resolved resolved prepared).key
  have mirrors := mirrorsBinding_of_ready spec (Resolve.resolving_of_references resolved)
    (by rw [memory]; exact ⟨rfl, rfl⟩) path (kind.trans binding)
  rw [reads.stored.2] at mirrors
  exact ⟨o, s, reads.stored.1, spec, mirrors⟩

end

section

open Scene

/-- A plugin, and a binding that puts it on the service and on the route, in their control plane. -/
def limit : Plugin where
  metadata := { (default : Metadata) with name := some "limit", ns := some "shop", uid := some "u-8" }
  spec := ⟨"rate-limiting", none, true, ["http"]⟩

def limiting : Object where
  metadata := { (default : Metadata) with name := some "limiting", ns := some "shop", uid := some "u-9" }
  spec := .pluginBinding ⟨some (.object "main" none), "limit", some "web", some "way", none, none⟩
  status := none

def limited : World Cloud :=
  { routing.after with store := (routing.after.store.put (.plugin limit)).put (.managed limiting) }

def limitation : Visit Cloud := visit calm OperatorSettings.default .pluginBinding "shop" "limiting" limited

/-- The binding is created in the control plane, for the entities of service and route. -/
theorem limiting_written_as_it_stands :
    ∃ x ∈ limitation.talk, ∃ p body, x.written? = some (p, body) ∧ p.controlPlaneId? = some "e" ∧
      body.member? "name" = some (.str "rate-limiting") ∧ body.member? "enabled" = some (.bool false) ∧
      body.member? "service" = some (.object [always "id" (.str "ee")]) ∧
      body.member? "route" = some (.object [always "id" (.str "eee")]) ∧ body.member? "consumer" = none := by
  have known (k : Key) (id : String) {a : Object} (stored : limited.store.findObject? k = some a)
      (holds : (limited.store.findObject? k).any fun a => decide (a.konnectId = id)) : a.konnectId = id := by
    rw [stored] at holds
    exact of_decide_eq_true holds
  obtain ⟨x, said, writes⟩ : ∃ x ∈ limitation.talk, x.written?.isSome :=
    List.any_eq_true.mp (by decide +kernel)
  obtain ⟨⟨p, body⟩, written⟩ := Option.isSome_iff_exists.mp writes
  obtain ⟨o, s, stored, spec, ⟨applied, found, -, names, -, enables, -⟩, ⟨shared, service, route, consumer, -⟩,
    home⟩ := binding_written_as_it_stands calm OperatorSettings.default "shop" "limiting" limited said written
  have asks : (limited.store.findObject? ⟨ManagedKind.pluginBinding, "shop", "limiting"⟩).any
      fun o => o.spec.binding?.any fun s => decide (s.controlPlaneRef = some (.object "main" none) ∧
        s.plugin = "limit" ∧ s.service = some "web" ∧ s.route = some "way" ∧ s.consumer = none) := by
    decide +kernel
  rw [stored, Option.any_some, spec, Spec.binding?, Option.any_some] at asks
  obtain ⟨ref, plugin, toService, toRoute, toConsumer⟩ := of_decide_eq_true asks
  have applies : (limited.store.find? ⟨.plugin, "shop", "limit"⟩).any fun r => r.plugin?.any fun q =>
      decide (q.spec.pluginName = "rate-limiting" ∧ q.spec.disabled = true) := by decide +kernel
  rw [plugin] at found
  rw [found, Option.any_some, Resource.plugin?, Option.any_some] at applies
  obtain ⟨called, disabled⟩ := of_decide_eq_true applies
  rw [toService] at service
  rw [toRoute] at route
  rw [toConsumer] at consumer
  rw [ref] at home
  obtain ⟨web, storedWeb, -, -, named⟩ := service
  obtain ⟨way, storedWay, -, -, named'⟩ := route
  obtain ⟨plane, -, storedPlane, -, path⟩ := home
  rw [known _ "ee" storedWeb (by decide +kernel)] at named
  rw [known _ "eee" storedWay (by decide +kernel)] at named'
  rw [known _ "e" storedPlane (by decide +kernel)] at path
  rw [called] at names
  rw [disabled] at enables
  exact ⟨x, said, p, body, written, path, names, enables, named, named', consumer⟩

end

end Reconcile

end GatewaySync
