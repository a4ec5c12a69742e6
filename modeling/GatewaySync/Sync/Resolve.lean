import GatewaySync.Resource.Owner
import GatewaySync.Sync.Links
import GatewaySync.Sync.World
/-!
# Resolving references

A reference by name is looked up in the namespace of the object that holds it. What is found there has
to be programmed as it stands; its remote id is copied into the status, and a condition tells how it
went. Whatever is not resolved leaves no id behind.
-/
namespace GatewaySync

inductive Resolution where
  | unset
  /-- The owner is set if the target is an object of the cluster, the control plane if it is known. -/
  | resolved (owner : Option OwnerReference) (controlPlaneId : Option String)
  | notReady
  deriving DecidableEq, Repr

inductive Readiness where
  | ready
  | notReady
  deriving DecidableEq, Repr

inductive Standing where
  | missing
  | deleting
  | notProgrammed
  | usable (target : Object)

/-- A target is usable if it is not being deleted and is programmed as it stands. -/
def Standing.of : Option Object → Standing
  | none => .missing
  | some target =>
    if target.metadata.isDeleting then .deleting
    else if !target.isProgrammed || target.konnectId = "" then .notProgrammed
    else .usable target

def Resource.object? : Resource → Option Object
  | .managed o => some o
  | .plugin _ => none

namespace Resolve

variable {σ : Type} (env : Environment σ)

def refuse {α : Type} (condition reason : String) (e : SyncError) : Pass σ α := do
  Pass.record ⟨condition, .false, reason, e.message⟩
  throw e

/-- Looks up the target of a reference by name; `none` if it is not programmed yet. -/
def lookup (condition : String) (kind : ManagedKind) (name : String) (ns : Option String) :
    Pass σ (Option Object) := do
  let child ← Pass.object
  let here := child.metadata.namespaceText
  if (ns.getD here) ≠ here then
    refuse condition Reason.invalid
      (.crossNamespaceRef child.kind.name child.keyText kind.name (ns.getD "" ++ "/" ++ name))
  else
    let found ← Pass.tryWorld (World.get env ⟨kind, here, name⟩)
    let key := here ++ "/" ++ name
    match Standing.of (found.bind Resource.object?) with
    | .missing => refuse condition Reason.notFound (.refNotFound kind.name key)
    | .deleting => refuse condition Reason.beingDeleted (.refBeingDeleted kind.name key)
    | .notProgrammed =>
      Pass.record ⟨condition, .false, Reason.notReady,
        "referenced " ++ kind.name ++ " " ++ key ++ " is not programmed yet"⟩
      return none
    | .usable target => return some target

/-- A lookup that forgets the id of an earlier resolution unless it succeeds. -/
def lookupOrForget (forget : Object → Object) (condition : String) (kind : ManagedKind)
    (name : String) (ns : Option String) : Pass σ (Option Object) := do
  match ← (lookup env condition kind name ns).attempt with
  | .ok (some target) => return some target
  | .ok none =>
    Pass.modifyObject forget
    return none
  | .error e =>
    Pass.modifyObject forget
    throw e

def parent (kind : ManagedKind) : Pass σ Resolution := do
  let child ← Pass.object
  let condition := kind.linkCondition
  match child.linkTo kind with
  | none =>
    Pass.modifyObject (·.withParentId "")
    Pass.record (.valid condition)
    return .unset
  | some (.konnectId id) =>
    Pass.modifyObject (·.withParentId id)
    Pass.record (.valid condition)
    return .resolved none none
  | some (.object name ns) =>
    match ← lookupOrForget env (·.withParentId "") condition kind name ns with
    | none => return .notReady
    | some target =>
      Pass.modifyObject (·.withParentId target.konnectId)
      Pass.record (.valid condition)
      return .resolved target.ownerReference?
        (if target.controlPlaneId = "" then none else some target.controlPlaneId)

inductive Target where
  | unset
  | notReady
  | ready (kind : ManagedKind) (id controlPlaneId : String)
  deriving DecidableEq, Repr

def Target.id? : Target → Option String
  | .ready _ id _ => some id
  | _ => none

def plugin (ns name : String) : Pass σ Plugin := do
  let key := ns ++ "/" ++ name
  let condition := ConditionType.pluginRefValid
  match ← Pass.tryWorld (World.get env ⟨.plugin, ns, name⟩) with
  | some (.plugin p) =>
    if p.metadata.isDeleting then
      refuse condition Reason.beingDeleted (.refBeingDeleted Kind.plugin.name key)
    else
      Pass.record (.valid condition)
      return p
  | _ => refuse condition Reason.notFound (.refNotFound Kind.plugin.name key)

def target (kind : ManagedKind) : Option String → Pass σ Target
  | none => return .unset
  | some name => do
    match ← lookup env kind.linkCondition kind name none with
    | none => return .notReady
    | some found =>
      Pass.record (.valid kind.linkCondition)
      return .ready kind found.konnectId found.controlPlaneId

/-- The control plane that all targets have in common; `some` answers the first target that lives in
another one, with both control planes. -/
def disagreement (shared : Option String) : List Target → Option (ManagedKind × String × String)
  | [] => none
  | .ready kind _ controlPlaneId :: rest =>
    match shared with
    | none => disagreement (some controlPlaneId) rest
    | some own =>
      if own = controlPlaneId then disagreement shared rest else some (kind, own, controlPlaneId)
  | _ :: rest => disagreement shared rest

def firstControlPlane : List Target → Option String
  | [] => none
  | .ready _ _ controlPlaneId :: _ => some controlPlaneId
  | _ :: rest => firstControlPlane rest

/-- Resolves the plugin and the targets of a binding, which have to share a control plane. -/
def binding (s : PluginBindingSpec) : Pass σ Resolution := do
  Pass.modifyObject (·.withResolved none)
  let o ← Pass.object
  let applied ← plugin env o.metadata.namespaceText s.plugin
  let service ← target env .service s.service
  let route ← target env .route s.route
  let consumer ← target env .consumer s.consumer
  let targets := [service, route, consumer]
  if targets.any (· = .notReady) then return .notReady
  match disagreement none targets with
  | some (kind, own, other) =>
    refuse kind.linkCondition Reason.controlPlaneMismatch
      (.controlPlaneMismatch o.kind.name o.keyText kind.name own other)
  | none =>
    Pass.modifyObject (·.withResolved (some {
      pluginName := applied.spec.pluginName
      config := applied.spec.config
      enabled := !applied.spec.disabled
      protocols := applied.spec.protocols
      serviceId := service.id?
      routeId := route.id?
      consumerId := consumer.id? }))
    return .resolved none ((firstControlPlane targets).filter (· ≠ ""))

/-- Resolves the parent of an object, or what a binding applies and to what. -/
def parentOf : Pass σ Resolution := do
  let o ← Pass.object
  match o.spec, o.kind.parentKind? with
  | .pluginBinding s, _ => binding env s
  | _, some kind => parent env kind
  | _, none => return .unset

/-- Resolves the control plane, or takes that of the parent where none is asked for. -/
def controlPlane (inherited : Option String) : Pass σ Resolution := do
  let o ← Pass.object
  let condition := ConditionType.controlPlaneRefValid
  if !o.kind.controlPlaneScoped then return .unset
  match o.spec.controlPlaneRef, inherited with
  | none, some id =>
    Pass.modifyObject (·.withControlPlaneId id)
    return .unset
  | none, none =>
    Pass.modifyObject (·.withControlPlaneId "")
    throw (.missingControlPlaneId (if o.konnectId = "" then .create else .update) o.kind.name o.keyText)
  | some (.konnectId id), _ =>
    Pass.modifyObject (·.withControlPlaneId id)
    Pass.record (.valid condition)
    return .resolved none (some id)
  | some (.object name ns), _ =>
    match ← lookupOrForget env (·.withControlPlaneId "") condition .controlPlane name ns with
    | none => return .notReady
    | some found =>
      Pass.modifyObject (·.withControlPlaneId found.konnectId)
      Pass.record (.valid condition)
      return .resolved found.ownerReference? (some found.konnectId)

/-- Fails because the object asks for another control plane than its parent lives in. -/
def mismatch {α : Type} (parentControlPlane : String) : Pass σ α := do
  let o ← Pass.object
  let info := o.kind.parentInfo?.getD ⟨"ControlPlane", ConditionType.controlPlaneRefValid⟩
  refuse info.condition Reason.controlPlaneMismatch
    (.controlPlaneMismatch o.kind.name o.keyText info.kind o.controlPlaneId parentControlPlane)

def own (desired : Option OwnerReference) : Pass σ Unit :=
  Pass.modifyObject fun o =>
    let next := OwnerReference.reconcile o.metadata.ownerList desired
    if next = o.metadata.ownerList then o
    else { o with metadata := { o.metadata with ownerReferences := some next } }

def references : Pass σ Readiness := do
  match ← parentOf env with
  | .notReady => return .notReady
  | .unset => viaControlPlane none none
  | .resolved owner controlPlaneId => viaControlPlane owner controlPlaneId
where
  /-- What is left once the parent is resolved. -/
  viaControlPlane (parentOwner : Option OwnerReference) (inherited : Option String) :
      Pass σ Readiness := do
    match ← controlPlane env inherited with
    | .notReady => return .notReady
    | .unset => finish parentOwner none inherited
    | .resolved owner _ => finish parentOwner owner inherited
  finish (parentOwner controlPlaneOwner : Option OwnerReference) (inherited : Option String) :
      Pass σ Readiness := do
    let o ← Pass.object
    match inherited with
    | some id => if id ≠ o.controlPlaneId then mismatch id
    | none => pure ()
    own (parentOwner.or controlPlaneOwner)
    return .ready

end Resolve

end GatewaySync
