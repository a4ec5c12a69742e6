import GatewaySync.Konnect.RemoteError
import GatewaySync.Text.Quoted
/-!
# Why a pass fails

Each cause is a constructor of its own; `message` is the one place that words them.
-/
namespace GatewaySync

inductive Operation where
  | create
  | update
  | delete
  | list
  deriving DecidableEq, Repr

def Operation.name : Operation → String
  | create => "create"
  | update => "update"
  | delete => "delete"
  | list => "list"

structure ApiError where
  status : String
  message : String
  reason : String
  code : Nat
  deriving DecidableEq, Repr

def ApiError.text (e : ApiError) : String :=
  "ApiError: " ++ e.message ++ ": " ++ e.reason ++ " (ErrorResponse \x7b status: " ++
    Text.quoted e.status ++ ", message: " ++ Text.quoted e.message ++ ", reason: " ++
    Text.quoted e.reason ++ ", code: " ++ toString e.code ++ " \x7d)"

inductive SyncError where
  | runtime (cause : String)
  | api (error : ApiError)
  /-- The cluster could not be asked, or its answer not be read. -/
  | cluster (cause : String)
  | missingControlPlaneId (op : Operation) (kind key : String)
  | missingParent (op : Operation) (kind key parent : String)
  | missingKonnectId (op : Operation) (kind key : String)
  | remote (op : Operation) (kind key : String) (source : RemoteError)
  | emptyResponse (op : Operation) (kind key : String)
  | identityNotFound (kind tag : String)
  | ambiguousIdentity (kind tag : String) (count : Nat)
  | refNotFound (kind key : String)
  | refBeingDeleted (kind key : String)
  | crossNamespaceRef (kind key refKind refKey : String)
  | controlPlaneMismatch (kind key refKind own parent : String)
  deriving DecidableEq, Repr

namespace SyncError

def message : SyncError → String
  | runtime cause => "Runtime error: " ++ cause
  | api error => "Kubernetes reported error: " ++ error.text
  | cluster cause => "Kubernetes reported error: " ++ cause
  | missingControlPlaneId op kind key =>
    "can't " ++ op.name ++ " " ++ kind ++ " " ++ key ++ " without a Konnect ControlPlane ID"
  | missingParent op kind key parent =>
    "can't " ++ op.name ++ " " ++ kind ++ " " ++ key ++ " without a resolved " ++ parent ++ " ID"
  | missingKonnectId op kind key =>
    "can't " ++ op.name ++ " " ++ kind ++ " " ++ key ++ " without a Konnect ID"
  | remote op kind key source =>
    "failed to " ++ op.name ++ " " ++ kind ++ " " ++ key ++ ": " ++ source.message
  | emptyResponse op kind key =>
    "failed to " ++ op.name ++ " " ++ kind ++ " " ++ key ++ ": empty response from Konnect"
  | identityNotFound kind tag => "no " ++ kind ++ " found in Konnect with tag " ++ tag
  | ambiguousIdentity kind tag count =>
    "found " ++ toString count ++ " " ++ kind ++ " entities in Konnect with tag " ++ tag ++
      ", expected one"
  | refNotFound kind key => "referenced " ++ kind ++ " " ++ key ++ " not found"
  | refBeingDeleted kind key => "referenced " ++ kind ++ " " ++ key ++ " is being deleted"
  | crossNamespaceRef kind key refKind refKey =>
    kind ++ " " ++ key ++ " references " ++ refKind ++ " " ++ refKey ++
      " across namespaces, which is not allowed"
  | controlPlaneMismatch kind key refKind own parent =>
    kind ++ " " ++ key ++ " uses ControlPlane " ++ own ++ " but its " ++ refKind ++
      " belongs to ControlPlane " ++ parent

/-- Konnect has the entity already. -/
def isRemoteConflict : SyncError → Bool
  | remote _ _ _ source => source.isConflict
  | _ => false

/-- Konnect does not have the entity. -/
def isRemoteNotFound : SyncError → Bool
  | remote _ _ _ source => source.isNotFound
  | _ => false

/-- The object was written by somebody else since it was read. -/
def isWriteConflict : SyncError → Bool
  | api error => error.code = 409
  | _ => false

/-- There is nothing to retry until the referenced object changes. -/
def awaitsReferenceChange : SyncError → Bool
  | refNotFound .. => true
  | refBeingDeleted .. => true
  | crossNamespaceRef .. => true
  | _ => false

end SyncError

end GatewaySync
