import GatewaySync.Resource.SpecCodec
import GatewaySync.Resource.Status
/-!
# Objects of the cluster

A managed object has metadata, a desired state and, once it was looked at, a status. A plugin has no
status. A resource is either of them; its key names it in the cluster.
-/
namespace GatewaySync

structure Object where
  metadata : Metadata
  spec : Spec
  status : Option Status
  deriving Repr

structure Plugin where
  metadata : Metadata
  spec : PluginSpec
  deriving Repr

structure Key where
  kind : Kind
  ns : String
  name : String
  deriving DecidableEq, Repr

def Key.text (k : Key) : String := k.kind.name ++ "/" ++ k.ns ++ "/" ++ k.name

inductive Resource where
  | managed (object : Object)
  | plugin (plugin : Plugin)
  deriving Repr

open Json (Decoder whenSet always)

namespace Object

def kind (o : Object) : ManagedKind := o.spec.kind

def key (o : Object) : Key := ⟨o.kind, o.metadata.namespaceText, o.metadata.nameText⟩

theorem kind_of_key {o : Object} {kind : ManagedKind} {ns name : String} (h : o.key = ⟨kind, ns, name⟩) :
    o.kind = kind := Kind.managed.inj (congrArg Key.kind h)

theorem kind_of_key_eq {o o' : Object} (h : o.key = o'.key) : o.kind = o'.kind :=
  kind_of_key h

def keyText (o : Object) : String := o.metadata.keyText

/-- The coordinates, all empty before there is a status. -/
def konnect (o : Object) : Coordinates := (o.status.map (·.konnect)).getD Coordinates.none

def konnectId (o : Object) : String := o.konnect.id

def controlPlaneId (o : Object) : String := o.konnect.controlPlaneId

def parentId (o : Object) : String := o.konnect.parentId

def conditions (o : Object) : List Condition := (o.status.map (·.conditions)).getD []

/-- Changes the coordinates; the status is there afterwards. -/
def withKonnect (o : Object) (f : Coordinates → Coordinates) : Object :=
  let status := o.status.getD Status.empty
  { o with status := some { status with konnect := f status.konnect } }

@[simp] theorem withKonnect_konnect (o : Object) (f : Coordinates → Coordinates) :
    (o.withKonnect f).konnect = f o.konnect := by
  rcases o with ⟨m, s, _ | status⟩ <;> rfl

def withId (o : Object) (id : String) : Object := o.withKonnect ({ · with id := id })

def withControlPlaneId (o : Object) (id : String) : Object :=
  o.withKonnect ({ · with controlPlaneId := id })

def withParentId (o : Object) (id : String) : Object := o.withKonnect ({ · with parentId := id })

def withResolved (o : Object) (r : Option ResolvedBinding) : Object :=
  { o with spec := o.spec.withResolved r }

def stored (o : Object) : Object :=
  { o with metadata := o.metadata.stored, spec := o.spec.stored }

@[simp] theorem stored_kind (o : Object) : o.stored.kind = o.kind := o.spec.stored_kind

@[simp] theorem stored_key (o : Object) : o.stored.key = o.key := by
  simp only [key, stored_kind]
  rfl

def decode (kind : ManagedKind) : Decoder Object := fun v => do
  let fs ← Json.fields ["metadata", "spec", "status"] v
  some {
    metadata := ← fs.required "metadata" Metadata.decode
    spec := ← fs.required "spec" (Spec.decode kind)
    status := ← fs.nullable "status" Status.decode }

def encode (o : Object) : Json :=
  .object [always "apiVersion" (.str (Kind.managed o.kind).apiVersion),
    always "kind" (.str o.kind.name), always "metadata" o.metadata.encode,
    always "spec" o.spec.encode, whenSet "status" Status.encode o.status]

end Object

namespace Plugin

def key (p : Plugin) : Key := ⟨.plugin, p.metadata.namespaceText, p.metadata.nameText⟩

def decode : Decoder Plugin := fun v => do
  let fs ← Json.fields ["metadata", "spec"] v
  some {
    metadata := ← fs.required "metadata" Metadata.decode
    spec := ← fs.required "spec" PluginSpec.decode }

def encode (p : Plugin) : Json :=
  .object [always "apiVersion" (.str Kind.plugin.apiVersion),
    always "kind" (.str Kind.plugin.name), always "metadata" p.metadata.encode,
    always "spec" p.spec.encode]

end Plugin

namespace Resource

def kind : Resource → Kind
  | managed o => o.kind
  | plugin _ => .plugin

def metadata : Resource → Metadata
  | managed o => o.metadata
  | plugin p => p.metadata

def key : Resource → Key
  | managed o => o.key
  | plugin p => p.key

def withMetadata (r : Resource) (m : Metadata) : Resource :=
  match r with
  | managed o => managed { o with metadata := m }
  | plugin p => plugin { p with metadata := m }

def stored : Resource → Resource
  | managed o => managed o.stored
  | plugin p => plugin { p with metadata := p.metadata.stored }

def decode (kind : Kind) (v : Json) : Option Resource :=
  match kind with
  | .managed k => (Object.decode k v).map managed
  | .plugin => (Plugin.decode v).map plugin

def encode : Resource → Json
  | managed o => o.encode
  | plugin p => p.encode

end Resource

end GatewaySync
