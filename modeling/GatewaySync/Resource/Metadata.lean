import GatewaySync.Json.Decode
import GatewaySync.Time.Reader
/-!
# Object metadata

Every field may be unset; an empty list or map is set. Times are written in whole seconds. A repeated
member is no error here: each occurrence has to fit and the last one counts.
-/
namespace GatewaySync

structure OwnerReference where
  apiVersion : String
  blockOwnerDeletion : Option Bool
  controller : Option Bool
  kind : String
  name : String
  uid : String
  deriving DecidableEq, Repr

structure ManagedFields where
  apiVersion : Option String
  fieldsType : Option String
  fields : Option Json
  manager : Option String
  operation : Option String
  subresource : Option String
  time : Option Instant
  deriving Repr

structure Metadata where
  annotations : Option (List (String × String))
  creationTimestamp : Option Instant
  deletionGracePeriodSeconds : Option Int
  deletionTimestamp : Option Instant
  finalizers : Option (List String)
  generateName : Option String
  generation : Option Int
  labels : Option (List (String × String))
  managedFields : Option (List ManagedFields)
  name : Option String
  ns : Option String
  ownerReferences : Option (List OwnerReference)
  resourceVersion : Option String
  selfLink : Option String
  uid : Option String
  deriving Repr, Inhabited

open Json (Decoder whenSet always repeatedField)

def Instant.decode : Decoder Instant := fun v => (Decoder.string v).bind Instant.ofString?

/-- A member that may be missing or `null`. -/
def optionalMember {α : Type} (name : String) (d : Decoder α) (members : List (String × Json)) :
    Option (Option α) :=
  (repeatedField name (Decoder.optional d) members).map Option.join

/-- A string member that stands for the empty string if it is missing. -/
def stringMember (name : String) (members : List (String × Json)) : Option String :=
  (optionalMember name Decoder.string members).map (·.getD "")

def ofTextMap (entries : List (String × String)) : Json := .obj (entries.map fun (k, v) => (k, .str v))

namespace OwnerReference

def decode : Decoder OwnerReference
  | .obj members => do
    some {
      apiVersion := ← stringMember "apiVersion" members
      blockOwnerDeletion := ← optionalMember "blockOwnerDeletion" Decoder.bool members
      controller := ← optionalMember "controller" Decoder.bool members
      kind := ← stringMember "kind" members
      name := ← stringMember "name" members
      uid := ← stringMember "uid" members }
  | _ => none

def encode (r : OwnerReference) : Json :=
  .object [always "apiVersion" (.str r.apiVersion),
    whenSet "blockOwnerDeletion" .bool r.blockOwnerDeletion,
    whenSet "controller" .bool r.controller,
    always "kind" (.str r.kind), always "name" (.str r.name), always "uid" (.str r.uid)]

end OwnerReference

namespace ManagedFields

def decode : Decoder ManagedFields
  | .obj members => do
    some {
      apiVersion := ← optionalMember "apiVersion" Decoder.string members
      fieldsType := ← optionalMember "fieldsType" Decoder.string members
      fields := ← optionalMember "fieldsV1" Decoder.document members
      manager := ← optionalMember "manager" Decoder.string members
      operation := ← optionalMember "operation" Decoder.string members
      subresource := ← optionalMember "subresource" Decoder.string members
      time := ← optionalMember "time" Instant.decode members }
  | _ => none

def encode (m : ManagedFields) : Json :=
  .object [whenSet "apiVersion" .str m.apiVersion, whenSet "fieldsType" .str m.fieldsType,
    whenSet "fieldsV1" id m.fields, whenSet "manager" .str m.manager,
    whenSet "operation" .str m.operation, whenSet "subresource" .str m.subresource,
    whenSet "time" (fun t => .str t.wholeText) m.time]

/-- The entry as it is stored: its time in whole seconds. -/
def stored (m : ManagedFields) : ManagedFields := { m with time := m.time.map Instant.whole }

end ManagedFields

namespace Metadata

def decode : Decoder Metadata
  | .obj members => do
    let textMap := Decoder.map Decoder.string
    some {
      annotations := ← optionalMember "annotations" textMap members
      creationTimestamp := ← optionalMember "creationTimestamp" Instant.decode members
      deletionGracePeriodSeconds :=
        ← optionalMember "deletionGracePeriodSeconds" Decoder.int64 members
      deletionTimestamp := ← optionalMember "deletionTimestamp" Instant.decode members
      finalizers := ← optionalMember "finalizers" (Decoder.list Decoder.string) members
      generateName := ← optionalMember "generateName" Decoder.string members
      generation := ← optionalMember "generation" Decoder.int64 members
      labels := ← optionalMember "labels" textMap members
      managedFields := ← optionalMember "managedFields" (Decoder.list ManagedFields.decode) members
      name := ← optionalMember "name" Decoder.string members
      ns := ← optionalMember "namespace" Decoder.string members
      ownerReferences :=
        ← optionalMember "ownerReferences" (Decoder.list OwnerReference.decode) members
      resourceVersion := ← optionalMember "resourceVersion" Decoder.string members
      selfLink := ← optionalMember "selfLink" Decoder.string members
      uid := ← optionalMember "uid" Decoder.string members }
  | _ => none

def encode (m : Metadata) : Json :=
  let time := fun (t : Instant) => Json.str t.wholeText
  .object [whenSet "annotations" ofTextMap m.annotations,
    whenSet "creationTimestamp" time m.creationTimestamp,
    whenSet "deletionGracePeriodSeconds" .int m.deletionGracePeriodSeconds,
    whenSet "deletionTimestamp" time m.deletionTimestamp,
    whenSet "finalizers" .ofStrings m.finalizers,
    whenSet "generateName" .str m.generateName,
    whenSet "generation" .int m.generation,
    whenSet "labels" ofTextMap m.labels,
    whenSet "managedFields" (fun entries => .arr (entries.map ManagedFields.encode)) m.managedFields,
    whenSet "name" .str m.name,
    whenSet "namespace" .str m.ns,
    whenSet "ownerReferences" (fun refs => .arr (refs.map OwnerReference.encode)) m.ownerReferences,
    whenSet "resourceVersion" .str m.resourceVersion,
    whenSet "selfLink" .str m.selfLink,
    whenSet "uid" .str m.uid]

/-- The metadata as they are stored: times in whole seconds. -/
def stored (m : Metadata) : Metadata :=
  { m with
    creationTimestamp := m.creationTimestamp.map Instant.whole
    deletionTimestamp := m.deletionTimestamp.map Instant.whole
    managedFields := m.managedFields.map (·.map ManagedFields.stored) }

/-- The namespace, empty if unset. -/
def namespaceText (m : Metadata) : String := m.ns.getD ""

/-- The name, or else the start that a name is generated from. -/
def nameText (m : Metadata) : String := (m.name.or m.generateName).getD ""

def uidText (m : Metadata) : String := m.uid.getD ""

def generationValue (m : Metadata) : Int := m.generation.getD 0

def finalizerList (m : Metadata) : List String := m.finalizers.getD []

def ownerList (m : Metadata) : List OwnerReference := m.ownerReferences.getD []

def isDeleting (m : Metadata) : Bool := m.deletionTimestamp.isSome

/-- `namespace/name`, as messages name an object. -/
def keyText (m : Metadata) : String := m.namespaceText ++ "/" ++ m.nameText

end Metadata

end GatewaySync
