/-!
# Kinds of custom resources

Thirteen kinds are managed: their objects are kept in Konnect. A fourteenth, the plugin, is only read, and
gets there through its bindings. Each kind has its place in the cluster API, a managed kind also one in the
Konnect API.
-/
namespace GatewaySync

inductive ManagedKind where
  | controlPlane
  | service
  | route
  | consumer
  | consumerGroup
  | apiKey
  | basicAuth
  | upstream
  | certificate
  | caCertificate
  | keySet
  | key
  | pluginBinding
  deriving DecidableEq, Repr

inductive Kind where
  | managed (kind : ManagedKind)
  | plugin
  deriving DecidableEq, Repr

instance : Coe ManagedKind Kind := ⟨Kind.managed⟩

def konnectGroup : String := "konnect.konghq.com"

def configurationGroup : String := "configuration.konghq.com"

namespace ManagedKind

def all : List ManagedKind :=
  [.controlPlane, .service, .route, .consumer, .consumerGroup, .apiKey, .basicAuth, .upstream,
    .certificate, .caCertificate, .keySet, .key, .pluginBinding]

def name : ManagedKind → String
  | controlPlane => "KonnectGatewayControlPlane"
  | service => "KongService"
  | route => "KongRoute"
  | consumer => "KongConsumer"
  | consumerGroup => "KongConsumerGroup"
  | apiKey => "KongCredentialAPIKey"
  | basicAuth => "KongCredentialBasicAuth"
  | upstream => "KongUpstream"
  | certificate => "KongCertificate"
  | caCertificate => "KongCACertificate"
  | keySet => "KongKeySet"
  | key => "KongKey"
  | pluginBinding => "KongPluginBinding"

/-- The collection segment in paths of the Konnect API. -/
def collection : ManagedKind → String
  | controlPlane => "control-planes"
  | service => "services"
  | route => "routes"
  | consumer => "consumers"
  | consumerGroup => "consumer_groups"
  | apiKey => "key-auth"
  | basicAuth => "basic-auth"
  | upstream => "upstreams"
  | certificate => "certificates"
  | caCertificate => "ca_certificates"
  | keySet => "key-sets"
  | key => "keys"
  | pluginBinding => "plugins"

/-- Every managed entity but a control plane lives in a control plane. -/
def controlPlaneScoped (kind : ManagedKind) : Bool := kind != controlPlane

def group (kind : ManagedKind) : String :=
  if kind = controlPlane then konnectGroup else configurationGroup

def version : ManagedKind → String
  | consumer => "v1"
  | consumerGroup => "v1beta1"
  | _ => "v1alpha1"

def plural : ManagedKind → String
  | controlPlane => "konnectgatewaycontrolplanes"
  | service => "kongservices"
  | route => "kongroutes"
  | consumer => "kongconsumers"
  | consumerGroup => "kongconsumergroups"
  | apiKey => "kongcredentialapikeys"
  | basicAuth => "kongcredentialbasicauths"
  | upstream => "kongupstreams"
  | certificate => "kongcertificates"
  | caCertificate => "kongcacertificates"
  | keySet => "kongkeysets"
  | key => "kongkeys"
  | pluginBinding => "kongpluginbindings"

end ManagedKind

namespace Kind

def all : List Kind := ManagedKind.all.map .managed ++ [.plugin]

def name : Kind → String
  | managed kind => kind.name
  | plugin => "KongPlugin"

def group : Kind → String
  | managed kind => kind.group
  | plugin => configurationGroup

def version : Kind → String
  | managed kind => kind.version
  | plugin => "v1"

def plural : Kind → String
  | managed kind => kind.plural
  | plugin => "kongplugins"

/-- Group and version as objects carry them. -/
def apiVersion (kind : Kind) : String := kind.group ++ "/" ++ kind.version

def ofName? (name : String) : Option Kind := all.find? (·.name = name)

end Kind

end GatewaySync
