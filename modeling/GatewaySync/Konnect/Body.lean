import GatewaySync.Resource.Tags
/-!
# Request bodies

What is sent to Konnect for an object: its desired state, the ids of resolved references, and its
identity as tags or, for a control plane, as labels that win over the user's.
-/
namespace GatewaySync

open Json (always whenSet)

/-- A reference to a remote entity, absent while the id is not known. -/
def idMember (key id : String) : Option (String × Json) :=
  if id = "" then none else some (key, .object [always "id" (.str id)])

def listUnlessEmpty (key : String) (items : List String) : Option (String × Json) :=
  if items = [] then none else some (key, .ofStrings items)

def tagsMember (tags : List String) : Option (String × Json) := always "tags" (.ofStrings tags)

namespace ControlPlaneSpec

/-- User labels and, over them, the given ones. -/
def labelsWith (s : ControlPlaneSpec) (identity : List (String × String)) : List (String × String) :=
  identity.foldl (fun sorted (key, value) => Json.Decoder.insertSorted key value sorted) s.labels

def body (s : ControlPlaneSpec) (identity : List (String × String)) : Json :=
  .object [always "name" (.str s.name), whenSet "description" .str s.description,
    whenSet "cluster_type" .str s.clusterType, always "labels" (ofTextMap (s.labelsWith identity))]

end ControlPlaneSpec

def ServiceSpec.body (s : ServiceSpec) (tags : List String) : Json :=
  .object [whenSet "name" .str s.name, always "host" (.str s.host), whenSet "port" .int s.port,
    whenSet "protocol" .str s.protocol, whenSet "path" .str s.path,
    whenSet "enabled" .bool s.enabled, tagsMember tags]

def RouteSpec.body (s : RouteSpec) (parentId : String) (tags : List String) : Json :=
  .object [whenSet "name" .str s.name, listUnlessEmpty "paths" s.paths,
    listUnlessEmpty "hosts" s.hosts, listUnlessEmpty "methods" s.methods,
    listUnlessEmpty "protocols" s.protocols, whenSet "strip_path" .bool s.stripPath,
    idMember "service" parentId, tagsMember tags]

def ConsumerSpec.body (s : ConsumerSpec) (tags : List String) : Json :=
  .object [whenSet "username" .str s.username, whenSet "custom_id" .str s.customId, tagsMember tags]

def ConsumerGroupSpec.body (s : ConsumerGroupSpec) (tags : List String) : Json :=
  .object [always "name" (.str s.name), tagsMember tags]

def ApiKeySpec.body (s : ApiKeySpec) (tags : List String) : Json :=
  .object [always "key" (.str s.key), tagsMember tags]

def BasicAuthSpec.body (s : BasicAuthSpec) (tags : List String) : Json :=
  .object [always "username" (.str s.username), always "password" (.str s.password), tagsMember tags]

def UpstreamSpec.body (s : UpstreamSpec) (tags : List String) : Json :=
  .object [always "name" (.str s.name), whenSet "algorithm" .str s.algorithm,
    whenSet "slots" .int s.slots, whenSet "host_header" .str s.hostHeader, tagsMember tags]

def CertificateSpec.body (s : CertificateSpec) (tags : List String) : Json :=
  .object [always "cert" (.str s.cert), always "key" (.str s.key), tagsMember tags]

def CaCertificateSpec.body (s : CaCertificateSpec) (tags : List String) : Json :=
  .object [always "cert" (.str s.cert), tagsMember tags]

def KeySetSpec.body (s : KeySetSpec) (tags : List String) : Json :=
  .object [always "name" (.str s.name), tagsMember tags]

def KeyPair.body (p : KeyPair) : Json :=
  .object [always "private_key" (.str p.privateKey), always "public_key" (.str p.publicKey)]

def KeySpec.body (s : KeySpec) (parentId : String) (tags : List String) : Json :=
  .object [always "kid" (.str s.kid), whenSet "name" .str s.name, whenSet "jwk" .str s.jwk,
    whenSet "pem" KeyPair.body s.pem, idMember "set" parentId, tagsMember tags]

def ResolvedBinding.nothing : ResolvedBinding := ⟨"", none, false, [], none, none, none⟩

def ResolvedBinding.body (r : ResolvedBinding) (tags : List String) : Json :=
  .object [always "name" (.str r.pluginName), whenSet "config" id r.config,
    always "enabled" (.bool r.enabled), listUnlessEmpty "protocols" r.protocols,
    idMember "service" (r.serviceId.getD ""), idMember "route" (r.routeId.getD ""),
    idMember "consumer" (r.consumerId.getD ""), tagsMember tags]

def Object.bodyWith (o : Object) (tags : List String) : Json :=
  match o.spec with
  | .controlPlane s => s.body (o.metadata.identityLabels o.kind)
  | .service s => s.body tags
  | .route s => s.body o.parentId tags
  | .consumer s => s.body tags
  | .consumerGroup s => s.body tags
  | .apiKey s => s.body tags
  | .basicAuth s => s.body tags
  | .upstream s => s.body tags
  | .certificate s => s.body tags
  | .caCertificate s => s.body tags
  | .keySet s => s.body tags
  | .key s => s.body o.parentId tags
  | .pluginBinding s => (s.resolved.getD ResolvedBinding.nothing).body tags

/-- The body that create and update calls send. -/
def Object.body (o : Object) : Json := o.bodyWith o.tags

end GatewaySync
