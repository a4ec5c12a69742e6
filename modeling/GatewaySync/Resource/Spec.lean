import GatewaySync.Resource.Kind
import GatewaySync.Resource.Reference
/-!
# Desired states

One structure for each kind holds what its objects ask for. Options are written only if they are set,
lists, maps and flags always.
-/
namespace GatewaySync

structure ControlPlaneSpec where
  name : String
  description : Option String
  clusterType : Option String
  labels : List (String × String)
  deriving DecidableEq, Repr

structure ServiceSpec where
  controlPlaneRef : Option Reference
  name : Option String
  host : String
  port : Option Int
  protocol : Option String
  path : Option String
  enabled : Option Bool
  tags : List String
  deriving DecidableEq, Repr

structure RouteSpec where
  controlPlaneRef : Option Reference
  serviceRef : Option Reference
  name : Option String
  paths : List String
  hosts : List String
  methods : List String
  protocols : List String
  stripPath : Option Bool
  tags : List String
  deriving DecidableEq, Repr

structure ConsumerSpec where
  controlPlaneRef : Option Reference
  username : Option String
  customId : Option String
  tags : List String
  deriving DecidableEq, Repr

structure ConsumerGroupSpec where
  controlPlaneRef : Option Reference
  name : String
  tags : List String
  deriving DecidableEq, Repr

structure ApiKeySpec where
  consumer : String
  key : String
  tags : List String
  deriving DecidableEq, Repr

structure BasicAuthSpec where
  consumer : String
  username : String
  password : String
  tags : List String
  deriving DecidableEq, Repr

structure UpstreamSpec where
  controlPlaneRef : Option Reference
  name : String
  algorithm : Option String
  slots : Option Int
  hostHeader : Option String
  tags : List String
  deriving DecidableEq, Repr

structure CertificateSpec where
  controlPlaneRef : Option Reference
  cert : String
  key : String
  tags : List String
  deriving DecidableEq, Repr

structure CaCertificateSpec where
  controlPlaneRef : Option Reference
  cert : String
  tags : List String
  deriving DecidableEq, Repr

structure KeySetSpec where
  controlPlaneRef : Option Reference
  name : String
  tags : List String
  deriving DecidableEq, Repr

structure KeyPair where
  privateKey : String
  publicKey : String
  deriving DecidableEq, Repr

structure KeySpec where
  controlPlaneRef : Option Reference
  keySetRef : Option Reference
  kid : String
  name : Option String
  jwk : Option String
  pem : Option KeyPair
  tags : List String
  deriving DecidableEq, Repr

/-- What a binding applies, as its references were resolved in one pass. It is never stored. -/
structure ResolvedBinding where
  pluginName : String
  config : Option Json
  enabled : Bool
  protocols : List String
  serviceId : Option String
  routeId : Option String
  consumerId : Option String
  deriving Repr

/-- The names of the plugin and of its targets, all in the namespace of the binding. -/
structure PluginBindingSpec where
  controlPlaneRef : Option Reference
  plugin : String
  service : Option String
  route : Option String
  consumer : Option String
  resolved : Option ResolvedBinding
  deriving Repr

structure PluginSpec where
  pluginName : String
  config : Option Json
  disabled : Bool
  protocols : List String
  deriving Repr

/-- The desired state of a managed object; it fixes the kind. -/
inductive Spec where
  | controlPlane (spec : ControlPlaneSpec)
  | service (spec : ServiceSpec)
  | route (spec : RouteSpec)
  | consumer (spec : ConsumerSpec)
  | consumerGroup (spec : ConsumerGroupSpec)
  | apiKey (spec : ApiKeySpec)
  | basicAuth (spec : BasicAuthSpec)
  | upstream (spec : UpstreamSpec)
  | certificate (spec : CertificateSpec)
  | caCertificate (spec : CaCertificateSpec)
  | keySet (spec : KeySetSpec)
  | key (spec : KeySpec)
  | pluginBinding (spec : PluginBindingSpec)
  deriving Repr

namespace Spec

def kind : Spec → ManagedKind
  | controlPlane _ => .controlPlane
  | service _ => .service
  | route _ => .route
  | consumer _ => .consumer
  | consumerGroup _ => .consumerGroup
  | apiKey _ => .apiKey
  | basicAuth _ => .basicAuth
  | upstream _ => .upstream
  | certificate _ => .certificate
  | caCertificate _ => .caCertificate
  | keySet _ => .keySet
  | key _ => .key
  | pluginBinding _ => .pluginBinding

/-- The tags that the user asks for; control planes carry labels and bindings no tags of their own. -/
def tags : Spec → List String
  | controlPlane _ => []
  | service s => s.tags
  | route s => s.tags
  | consumer s => s.tags
  | consumerGroup s => s.tags
  | apiKey s => s.tags
  | basicAuth s => s.tags
  | upstream s => s.tags
  | certificate s => s.tags
  | caCertificate s => s.tags
  | keySet s => s.tags
  | key s => s.tags
  | pluginBinding _ => []

/-- The control plane that the object asks for itself; credentials take that of their consumer. -/
def controlPlaneRef : Spec → Option Reference
  | controlPlane _ => none
  | service s => s.controlPlaneRef
  | route s => s.controlPlaneRef
  | consumer s => s.controlPlaneRef
  | consumerGroup s => s.controlPlaneRef
  | apiKey _ => none
  | basicAuth _ => none
  | upstream s => s.controlPlaneRef
  | certificate s => s.controlPlaneRef
  | caCertificate s => s.controlPlaneRef
  | keySet s => s.controlPlaneRef
  | key s => s.controlPlaneRef
  | pluginBinding s => s.controlPlaneRef

def resolved : Spec → Option ResolvedBinding
  | pluginBinding s => s.resolved
  | _ => none

/-- Sets what a binding applies; other kinds have no such part. -/
def withResolved (r : Option ResolvedBinding) : Spec → Spec
  | pluginBinding s => pluginBinding { s with resolved := r }
  | other => other

@[simp] theorem withResolved_kind (s : Spec) (r : Option ResolvedBinding) :
    (s.withResolved r).kind = s.kind := by
  cases s <;> rfl

@[simp] theorem withResolved_withResolved (s : Spec) (r t : Option ResolvedBinding) :
    (s.withResolved r).withResolved t = s.withResolved t := by
  cases s <;> rfl

def stored (s : Spec) : Spec := s.withResolved none

@[simp] theorem stored_kind (s : Spec) : s.stored.kind = s.kind := s.withResolved_kind none

end Spec

end GatewaySync
