import GatewaySync.Resource.Conditions
/-!
# References between objects

Routes may have a service, keys a key set, credentials have a consumer, and a binding applies to
services, routes and consumers. Each kind of link has a condition that tells whether it holds.
-/
namespace GatewaySync

/-- What a kind calls its parent, and the condition that a wrong control plane is recorded on. -/
structure ParentInfo where
  kind : String
  condition : String
  deriving DecidableEq, Repr

namespace ManagedKind

def parentKind? : ManagedKind → Option ManagedKind
  | route => some service
  | apiKey => some consumer
  | basicAuth => some consumer
  | key => some keySet
  | _ => none

def linkCondition : ManagedKind → String
  | service => ConditionType.serviceRefValid
  | route => ConditionType.routeRefValid
  | consumer => ConditionType.consumerRefValid
  | keySet => ConditionType.keySetRefValid
  | _ => ConditionType.controlPlaneRefValid

/-- The kinds that objects of a kind may be linked to, as parent or as target. -/
def linkedKinds : ManagedKind → List ManagedKind
  | pluginBinding => [service, route, consumer]
  | kind => kind.parentKind?.toList

def parentInfo? : ManagedKind → Option ParentInfo
  | pluginBinding => some ⟨"target", ConditionType.controlPlaneRefValid⟩
  | kind => kind.parentKind?.map fun parent => ⟨parent.name, parent.linkCondition⟩

end ManagedKind

namespace Object

def linkTo (o : Object) (target : ManagedKind) : Option Reference :=
  match o.spec, target with
  | .route s, .service => s.serviceRef
  | .key s, .keySet => s.keySetRef
  | .apiKey s, .consumer => some (.named s.consumer)
  | .basicAuth s, .consumer => some (.named s.consumer)
  | .pluginBinding s, .service => s.service.map .named
  | .pluginBinding s, .route => s.route.map .named
  | .pluginBinding s, .consumer => s.consumer.map .named
  | _, _ => none

/-- Whether the object is linked by name to an object of the given kind and name. -/
def linksTo (o : Object) (target : ManagedKind) (name : String) : Bool :=
  match o.linkTo target with
  | some (.object n _) => n = name
  | _ => false

end Object

end GatewaySync
