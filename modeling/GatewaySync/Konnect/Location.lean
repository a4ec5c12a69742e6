import GatewaySync.Konnect.Path
import GatewaySync.Resource.Tags
import GatewaySync.Sync.Error
/-!
# Where an entity lives

The path of an object's collection, which is only known once its references are resolved, and the
filter that finds its entity again.
-/
namespace GatewaySync

namespace Object

def controlPlanePath (o : Object) (op : Operation) : Except SyncError EntityPath :=
  if o.controlPlaneId = "" then .error (.missingControlPlaneId op o.kind.name o.keyText)
  else .ok (.controlPlane o.controlPlaneId o.kind.collection)

def nestedPath (o : Object) (op : Operation) (parent : ManagedKind) : Except SyncError EntityPath :=
  if o.controlPlaneId = "" then .error (.missingControlPlaneId op o.kind.name o.keyText)
  else if o.parentId = "" then .error (.missingParent op o.kind.name o.keyText parent.name)
  else .ok (.nested o.controlPlaneId parent.collection o.parentId o.kind.collection)

/-- Whether a write needs what a binding applies and it is not resolved. -/
def lacksPlugin (o : Object) (op : Operation) : Bool :=
  o.kind = .pluginBinding && (op = .create || op = .update) && o.spec.resolved.isNone

def path (o : Object) (op : Operation) : Except SyncError EntityPath :=
  match o.kind with
  | .controlPlane => .ok (.global ManagedKind.controlPlane.collection)
  | .apiKey => o.nestedPath op .consumer
  | .basicAuth => o.nestedPath op .consumer
  | .pluginBinding =>
    if o.lacksPlugin op then .error (.missingParent op o.kind.name o.keyText Kind.plugin.name)
    else o.controlPlanePath op
  | _ => o.controlPlanePath op

/-- What finds the entity of the object: its uid as a tag, or as a label of a control plane. -/
def listFilter (o : Object) : ListFilter :=
  if o.kind = .controlPlane then .label o.metadata.uidTag else .tag o.metadata.uidTag

end Object

end GatewaySync
