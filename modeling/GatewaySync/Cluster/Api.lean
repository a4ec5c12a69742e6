import GatewaySync.Cluster.Store
import GatewaySync.Http.Message
import GatewaySync.Http.Status
import GatewaySync.Http.Target
import GatewaySync.Json.Reader
/-!
# The cluster API

A resource is read by its path and patched with merge patches. A patch carries the resource version
of the object at hand, so that the API refuses it if the object was written since. It names every
member that it is meant to replace: finalizers and owners are always lists, and of the status all
members are always written, so nothing of the old value survives the merge.
-/
namespace GatewaySync.Cluster

open Json (always)

/-- The path of a resource. The namespace and the name stand in it as they are. -/
def resourcePath (kind : Kind) (ns name : String) : String :=
  "/apis/" ++ kind.apiVersion ++ "/namespaces/" ++ ns ++ "/" ++ kind.plural ++ "/" ++ name

def statusPatch (o : Object) : Json :=
  .object [
    always "metadata" (.object [
      always "resourceVersion" ((o.metadata.resourceVersion.map Json.str).getD .null)]),
    always "status" ((o.status.map Status.encode).getD .null)]

def metadataPatch (o : Object) : Json :=
  .object [
    always "metadata" (.object [
      always "resourceVersion" ((o.metadata.resourceVersion.map Json.str).getD .null),
      always "finalizers" (Json.ofStrings o.metadata.finalizerList),
      always "ownerReferences" (.arr (o.metadata.ownerList.map OwnerReference.encode))])]

inductive ApiCall where
  | get (kind : Kind) (ns name : String)
  | patchStatus (object : Object)
  | patchMetadata (object : Object)

namespace ApiCall

def name : ApiCall → String
  | get _ _ name => name
  | patchStatus o => o.metadata.nameText
  | patchMetadata o => o.metadata.nameText

/-- The text of the target. A patch ends in an empty query. -/
def targetText : ApiCall → String
  | get kind ns name => resourcePath kind ns name
  | patchStatus o =>
    resourcePath o.kind o.metadata.namespaceText o.metadata.nameText ++ "/status?"
  | patchMetadata o => resourcePath o.kind o.metadata.namespaceText o.metadata.nameText ++ "?"

def method : ApiCall → Http.Method
  | get .. => .get
  | _ => .patch

def mergePatch (patch : Json) : Http.Content := ⟨"application/merge-patch+json", patch⟩

def content : ApiCall → Option Http.Content
  | get .. => none
  | patchStatus o => some (mergePatch (statusPatch o))
  | patchMetadata o => some (mergePatch (metadataPatch o))

/-- The request of a call; there is none without a name or with a target that is not valid. -/
def request (call : ApiCall) : Except SyncError (Http.Request Http.Target) :=
  if call.name = "" then .error (.cluster "a non-empty name is required")
  else
    match Http.Target.ofText? call.targetText with
    | none => .error (.cluster "invalid request target")
    | some target => .ok ⟨call.method, target, none, call.content⟩

end ApiCall

def decodeError : Json.Decoder ApiError := fun v => do
  let fs ← Json.fields ["status", "message", "reason", "code"] v
  some {
    status := ← fs.required "status" Json.Decoder.string
    message := ← fs.defaulted "message" "" Json.Decoder.string
    reason := ← fs.defaulted "reason" "" Json.Decoder.string
    code := ← fs.required "code" (Json.Decoder.nat 16) }

/-- The error of a failed response: its document, or else what its status and text tell. -/
def failure (r : Http.Response) : ApiError :=
  ((Json.read? r.body).bind decodeError).getD
    ⟨Http.failureLine r.status, Text.quoted r.body, "Failed to parse error data", r.status⟩

def resource (kind : Kind) (r : Http.Response) : Except SyncError Resource :=
  if Http.isFailure r.status then .error (.api (failure r))
  else
    match (Json.read? r.body).bind (Resource.decode kind) with
    | some resource => .ok resource
    | none => .error (.cluster "the response is not a resource of the kind")

/-- What a read found. An error with the reason `NotFound` means that nothing is there. -/
def found (kind : Kind) (r : Http.Response) : Except SyncError (Option Resource) :=
  match resource kind r with
  | .ok resource => .ok (some resource)
  | .error (.api e) => if e.reason = "NotFound" then .ok none else .error (.api e)
  | .error e => .error e

/-- What a patch of finalizers and owners leaves. The object is gone if the API does not know it, or
if it is being deleted and has no finalizer left. -/
def remaining (kind : Kind) (r : Http.Response) : Except SyncError (Option Resource) :=
  match resource kind r with
  | .ok resource =>
    if resource.metadata.isDeleting ∧ resource.metadata.finalizerList = [] then .ok none
    else .ok (some resource)
  | .error (.api e) => if e.code = 404 then .ok none else .error (.api e)
  | .error e => .error e

namespace ApiCall

def answer (call : ApiCall) (r : Http.Response) : Except SyncError (Option Resource) :=
  match call with
  | get kind _ _ => found kind r
  | patchStatus o => (resource o.kind r).map some
  | patchMetadata o => remaining o.kind r

end ApiCall

end GatewaySync.Cluster
