import GatewaySync.Resource.Spec
/-!
# Desired states in JSON

Decoding takes a record from an object or from an array of its fields in order; encoding writes an
object.
-/
namespace GatewaySync

open Json (Decoder whenSet always)

def decodeName : Decoder String := fun v => do
  (← Json.fields ["name"] v).required "name" Decoder.string

def encodeName (name : String) : Json := .object [always "name" (.str name)]

def stringList : Decoder (List String) := Decoder.list Decoder.string

def writeRef := whenSet "controlPlaneRef" Reference.encode

def writeTags (tags : List String) : Option (String × Json) := always "tags" (.ofStrings tags)

def Json.Fields.ref (fs : Json.Fields) (name : String) : Option (Option Reference) :=
  fs.optional name Reference.decode

def Json.Fields.text (fs : Json.Fields) (name : String) : Option String := fs.required name Decoder.string

def Json.Fields.textIfSet (fs : Json.Fields) (name : String) : Option (Option String) :=
  fs.optional name Decoder.string

def Json.Fields.strings (fs : Json.Fields) (name : String) : Option (List String) :=
  fs.defaulted name [] stringList

namespace ControlPlaneSpec

def decode : Decoder ControlPlaneSpec := fun v => do
  let fs ← Json.fields ["name", "description", "clusterType", "labels"] v
  some {
    name := ← fs.text "name"
    description := ← fs.textIfSet "description"
    clusterType := ← fs.textIfSet "clusterType"
    labels := ← fs.defaulted "labels" [] (Decoder.map Decoder.string) }

def encode (s : ControlPlaneSpec) : Json :=
  .object [always "name" (.str s.name), whenSet "description" .str s.description,
    whenSet "clusterType" .str s.clusterType,
    always "labels" (.obj (s.labels.map fun (k, v) => (k, .str v)))]

end ControlPlaneSpec

namespace ServiceSpec

def decode : Decoder ServiceSpec := fun v => do
  let fs ← Json.fields
    ["controlPlaneRef", "name", "host", "port", "protocol", "path", "enabled", "tags"] v
  some {
    controlPlaneRef := ← fs.ref "controlPlaneRef"
    name := ← fs.textIfSet "name"
    host := ← fs.text "host"
    port := ← fs.optional "port" Decoder.int64
    protocol := ← fs.textIfSet "protocol"
    path := ← fs.textIfSet "path"
    enabled := ← fs.optional "enabled" Decoder.bool
    tags := ← fs.strings "tags" }

def encode (s : ServiceSpec) : Json :=
  .object [writeRef s.controlPlaneRef, whenSet "name" .str s.name, always "host" (.str s.host),
    whenSet "port" .int s.port, whenSet "protocol" .str s.protocol, whenSet "path" .str s.path,
    whenSet "enabled" .bool s.enabled, writeTags s.tags]

end ServiceSpec

namespace RouteSpec

def decode : Decoder RouteSpec := fun v => do
  let fs ← Json.fields ["controlPlaneRef", "serviceRef", "name", "paths", "hosts", "methods",
    "protocols", "stripPath", "tags"] v
  some {
    controlPlaneRef := ← fs.ref "controlPlaneRef"
    serviceRef := ← fs.ref "serviceRef"
    name := ← fs.textIfSet "name"
    paths := ← fs.strings "paths"
    hosts := ← fs.strings "hosts"
    methods := ← fs.strings "methods"
    protocols := ← fs.strings "protocols"
    stripPath := ← fs.optional "stripPath" Decoder.bool
    tags := ← fs.strings "tags" }

def encode (s : RouteSpec) : Json :=
  .object [writeRef s.controlPlaneRef, whenSet "serviceRef" Reference.encode s.serviceRef,
    whenSet "name" .str s.name, always "paths" (.ofStrings s.paths),
    always "hosts" (.ofStrings s.hosts), always "methods" (.ofStrings s.methods),
    always "protocols" (.ofStrings s.protocols), whenSet "stripPath" .bool s.stripPath,
    writeTags s.tags]

end RouteSpec

namespace ConsumerSpec

def decode : Decoder ConsumerSpec := fun v => do
  let fs ← Json.fields ["controlPlaneRef", "username", "customId", "tags"] v
  some {
    controlPlaneRef := ← fs.ref "controlPlaneRef"
    username := ← fs.textIfSet "username"
    customId := ← fs.textIfSet "customId"
    tags := ← fs.strings "tags" }

def encode (s : ConsumerSpec) : Json :=
  .object [writeRef s.controlPlaneRef, whenSet "username" .str s.username,
    whenSet "customId" .str s.customId, writeTags s.tags]

end ConsumerSpec

namespace ConsumerGroupSpec

def decode : Decoder ConsumerGroupSpec := fun v => do
  let fs ← Json.fields ["controlPlaneRef", "name", "tags"] v
  some {
    controlPlaneRef := ← fs.ref "controlPlaneRef"
    name := ← fs.text "name"
    tags := ← fs.strings "tags" }

def encode (s : ConsumerGroupSpec) : Json :=
  .object [writeRef s.controlPlaneRef, always "name" (.str s.name), writeTags s.tags]

end ConsumerGroupSpec

namespace ApiKeySpec

def decode : Decoder ApiKeySpec := fun v => do
  let fs ← Json.fields ["consumerRef", "key", "tags"] v
  some {
    consumer := ← fs.required "consumerRef" decodeName
    key := ← fs.text "key"
    tags := ← fs.strings "tags" }

def encode (s : ApiKeySpec) : Json :=
  .object [always "consumerRef" (encodeName s.consumer), always "key" (.str s.key),
    writeTags s.tags]

end ApiKeySpec

namespace BasicAuthSpec

def decode : Decoder BasicAuthSpec := fun v => do
  let fs ← Json.fields ["consumerRef", "username", "password", "tags"] v
  some {
    consumer := ← fs.required "consumerRef" decodeName
    username := ← fs.text "username"
    password := ← fs.text "password"
    tags := ← fs.strings "tags" }

def encode (s : BasicAuthSpec) : Json :=
  .object [always "consumerRef" (encodeName s.consumer), always "username" (.str s.username),
    always "password" (.str s.password), writeTags s.tags]

end BasicAuthSpec

namespace UpstreamSpec

def decode : Decoder UpstreamSpec := fun v => do
  let fs ← Json.fields ["controlPlaneRef", "name", "algorithm", "slots", "hostHeader", "tags"] v
  some {
    controlPlaneRef := ← fs.ref "controlPlaneRef"
    name := ← fs.text "name"
    algorithm := ← fs.textIfSet "algorithm"
    slots := ← fs.optional "slots" Decoder.int64
    hostHeader := ← fs.textIfSet "hostHeader"
    tags := ← fs.strings "tags" }

def encode (s : UpstreamSpec) : Json :=
  .object [writeRef s.controlPlaneRef, always "name" (.str s.name),
    whenSet "algorithm" .str s.algorithm, whenSet "slots" .int s.slots,
    whenSet "hostHeader" .str s.hostHeader, writeTags s.tags]

end UpstreamSpec

namespace CertificateSpec

def decode : Decoder CertificateSpec := fun v => do
  let fs ← Json.fields ["controlPlaneRef", "cert", "key", "tags"] v
  some {
    controlPlaneRef := ← fs.ref "controlPlaneRef"
    cert := ← fs.text "cert"
    key := ← fs.text "key"
    tags := ← fs.strings "tags" }

def encode (s : CertificateSpec) : Json :=
  .object [writeRef s.controlPlaneRef, always "cert" (.str s.cert), always "key" (.str s.key),
    writeTags s.tags]

end CertificateSpec

namespace CaCertificateSpec

def decode : Decoder CaCertificateSpec := fun v => do
  let fs ← Json.fields ["controlPlaneRef", "cert", "tags"] v
  some {
    controlPlaneRef := ← fs.ref "controlPlaneRef"
    cert := ← fs.text "cert"
    tags := ← fs.strings "tags" }

def encode (s : CaCertificateSpec) : Json :=
  .object [writeRef s.controlPlaneRef, always "cert" (.str s.cert), writeTags s.tags]

end CaCertificateSpec

namespace KeySetSpec

def decode : Decoder KeySetSpec := fun v => do
  let fs ← Json.fields ["controlPlaneRef", "name", "tags"] v
  some {
    controlPlaneRef := ← fs.ref "controlPlaneRef"
    name := ← fs.text "name"
    tags := ← fs.strings "tags" }

def encode (s : KeySetSpec) : Json :=
  .object [writeRef s.controlPlaneRef, always "name" (.str s.name), writeTags s.tags]

end KeySetSpec

namespace KeyPair

def decode : Decoder KeyPair := fun v => do
  let fs ← Json.fields ["privateKey", "publicKey"] v
  some { privateKey := ← fs.text "privateKey", publicKey := ← fs.text "publicKey" }

def encode (p : KeyPair) : Json :=
  .object [always "privateKey" (.str p.privateKey), always "publicKey" (.str p.publicKey)]

end KeyPair

namespace KeySpec

def decode : Decoder KeySpec := fun v => do
  let fs ← Json.fields ["controlPlaneRef", "keySetRef", "kid", "name", "jwk", "pem", "tags"] v
  some {
    controlPlaneRef := ← fs.ref "controlPlaneRef"
    keySetRef := ← fs.ref "keySetRef"
    kid := ← fs.text "kid"
    name := ← fs.textIfSet "name"
    jwk := ← fs.textIfSet "jwk"
    pem := ← fs.optional "pem" KeyPair.decode
    tags := ← fs.strings "tags" }

def encode (s : KeySpec) : Json :=
  .object [writeRef s.controlPlaneRef, whenSet "keySetRef" Reference.encode s.keySetRef,
    always "kid" (.str s.kid), whenSet "name" .str s.name, whenSet "jwk" .str s.jwk,
    whenSet "pem" KeyPair.encode s.pem, writeTags s.tags]

end KeySpec

namespace PluginBindingSpec

def decodeTargets : Decoder (Option String × Option String × Option String) := fun v => do
  let fs ← Json.fields ["serviceRef", "routeRef", "consumerRef"] v
  some (← fs.optional "serviceRef" decodeName, ← fs.optional "routeRef" decodeName,
    ← fs.optional "consumerRef" decodeName)

def decode : Decoder PluginBindingSpec := fun v => do
  let fs ← Json.fields ["controlPlaneRef", "pluginRef", "targets"] v
  let controlPlaneRef ← fs.ref "controlPlaneRef"
  let plugin ← fs.required "pluginRef" decodeName
  let (service, route, consumer) ← fs.defaulted "targets" (none, none, none) decodeTargets
  some ⟨controlPlaneRef, plugin, service, route, consumer, none⟩

def encode (s : PluginBindingSpec) : Json :=
  .object [writeRef s.controlPlaneRef, always "pluginRef" (encodeName s.plugin),
    always "targets" (.object [whenSet "serviceRef" encodeName s.service,
      whenSet "routeRef" encodeName s.route, whenSet "consumerRef" encodeName s.consumer])]

end PluginBindingSpec

namespace PluginSpec

def decode : Decoder PluginSpec := fun v => do
  let fs ← Json.fields ["pluginName", "config", "disabled", "protocols"] v
  some {
    pluginName := ← fs.text "pluginName"
    config := ← fs.optional "config" Decoder.document
    disabled := ← fs.defaulted "disabled" false Decoder.bool
    protocols := ← fs.strings "protocols" }

def encode (s : PluginSpec) : Json :=
  .object [always "pluginName" (.str s.pluginName), whenSet "config" id s.config,
    always "disabled" (.bool s.disabled), always "protocols" (.ofStrings s.protocols)]

end PluginSpec

namespace Spec

def decode (kind : ManagedKind) (v : Json) : Option Spec :=
  match kind with
  | .controlPlane => (ControlPlaneSpec.decode v).map controlPlane
  | .service => (ServiceSpec.decode v).map service
  | .route => (RouteSpec.decode v).map route
  | .consumer => (ConsumerSpec.decode v).map consumer
  | .consumerGroup => (ConsumerGroupSpec.decode v).map consumerGroup
  | .apiKey => (ApiKeySpec.decode v).map apiKey
  | .basicAuth => (BasicAuthSpec.decode v).map basicAuth
  | .upstream => (UpstreamSpec.decode v).map upstream
  | .certificate => (CertificateSpec.decode v).map certificate
  | .caCertificate => (CaCertificateSpec.decode v).map caCertificate
  | .keySet => (KeySetSpec.decode v).map keySet
  | .key => (KeySpec.decode v).map key
  | .pluginBinding => (PluginBindingSpec.decode v).map pluginBinding

def encode : Spec → Json
  | controlPlane s => s.encode
  | service s => s.encode
  | route s => s.encode
  | consumer s => s.encode
  | consumerGroup s => s.encode
  | apiKey s => s.encode
  | basicAuth s => s.encode
  | upstream s => s.encode
  | certificate s => s.encode
  | caCertificate s => s.encode
  | keySet s => s.encode
  | key s => s.encode
  | pluginBinding s => s.encode

end Spec

end GatewaySync
