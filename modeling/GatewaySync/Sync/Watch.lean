import GatewaySync.Sync.Links
/-!
# Who is woken up

When an object changes, the objects of its namespace that refer to it by name are looked at again.
-/
namespace GatewaySync.Watch

/-- The candidates that live in the namespace of the changed object and refer to it. -/
def wokenBy (changed : Metadata) (refersTo : Object → String → Bool) (candidates : List Object) :
    List Object :=
  candidates.filter fun c => c.metadata.ns = changed.ns && refersTo c changed.nameText

def inControlPlaneNamed (c : Object) (name : String) : Bool :=
  match c.spec.controlPlaneRef with
  | some (.object n _) => n = name
  | _ => false

def appliesPluginNamed (c : Object) (name : String) : Bool :=
  match c.spec with
  | .pluginBinding s => s.plugin = name
  | _ => false

def inControlPlane (controlPlane : Metadata) (candidates : List Object) : List Object :=
  wokenBy controlPlane inControlPlaneNamed candidates

def linkedTo (target : ManagedKind) (changed : Metadata) (candidates : List Object) : List Object :=
  wokenBy changed (·.linksTo target) candidates

def bindingsOf (plugin : Metadata) (candidates : List Object) : List Object :=
  wokenBy plugin appliesPluginNamed candidates

end GatewaySync.Watch
