import GatewaySync.Resource.Metadata
/-!
# The status of a managed object

It holds the coordinates of the remote entity and a list of conditions. A condition counts only for
the generation that it was observed at. Every field of a status is written, whatever it holds.
-/
namespace GatewaySync

inductive ConditionStatus where
  | true
  | false
  | unknown
  deriving DecidableEq, Repr

namespace ConditionStatus

def text : ConditionStatus → String
  | .true => "True"
  | .false => "False"
  | .unknown => "Unknown"

def ofText? (s : String) : Option ConditionStatus :=
  [ConditionStatus.true, .false, .unknown].find? (·.text = s)

end ConditionStatus

structure Condition where
  type : String
  status : ConditionStatus
  reason : String
  message : String
  observedGeneration : Int
  lastTransitionTime : Instant
  deriving DecidableEq, Repr

/-- Where the remote entity of an object is. Unknown parts are empty. -/
structure Coordinates where
  id : String
  serverUrl : String
  orgId : String
  controlPlaneId : String
  parentId : String
  deriving DecidableEq, Repr

structure Status where
  konnect : Coordinates
  conditions : List Condition
  deriving DecidableEq, Repr

open Json (Decoder always)

namespace Condition

def fieldNames : List String :=
  ["type", "status", "reason", "message", "observedGeneration", "lastTransitionTime"]

def decode : Decoder Condition := fun v => do
  let fs ← Json.fields fieldNames v
  some {
    type := ← fs.required "type" Decoder.string
    status := ← fs.required "status" fun v => (Decoder.alternative v).bind ConditionStatus.ofText?
    reason := ← fs.required "reason" Decoder.string
    message := ← fs.defaulted "message" "" Decoder.string
    observedGeneration := ← fs.defaulted "observedGeneration" 0 Decoder.int64
    lastTransitionTime := ← fs.required "lastTransitionTime" Instant.decode }

def encode (c : Condition) : Json :=
  .object [always "type" (.str c.type), always "status" (.str c.status.text),
    always "reason" (.str c.reason), always "message" (.str c.message),
    always "observedGeneration" (.int c.observedGeneration),
    always "lastTransitionTime" (.str c.lastTransitionTime.text)]

end Condition

namespace Coordinates

def none : Coordinates := ⟨"", "", "", "", ""⟩

def fieldNames : List String := ["id", "serverURL", "orgID", "controlPlaneID", "parentID"]

def decode : Decoder Coordinates := fun v => do
  let fs ← Json.fields fieldNames v
  some {
    id := ← fs.defaulted "id" "" Decoder.string
    serverUrl := ← fs.defaulted "serverURL" "" Decoder.string
    orgId := ← fs.defaulted "orgID" "" Decoder.string
    controlPlaneId := ← fs.defaulted "controlPlaneID" "" Decoder.string
    parentId := ← fs.defaulted "parentID" "" Decoder.string }

def encode (c : Coordinates) : Json :=
  .object [always "id" (.str c.id), always "serverURL" (.str c.serverUrl),
    always "orgID" (.str c.orgId), always "controlPlaneID" (.str c.controlPlaneId),
    always "parentID" (.str c.parentId)]

end Coordinates

namespace Status

def empty : Status := ⟨Coordinates.none, []⟩

def decode : Decoder Status := fun v => do
  let fs ← Json.fields ["konnect", "conditions"] v
  some {
    konnect := ← fs.defaulted "konnect" Coordinates.none Coordinates.decode
    conditions := ← fs.defaulted "conditions" [] (Decoder.list Condition.decode) }

def encode (s : Status) : Json :=
  .object [always "konnect" s.konnect.encode,
    always "conditions" (.arr (s.conditions.map Condition.encode))]

end Status

end GatewaySync
