/-!
# Paths of the Konnect API

A collection lies in the organization, in a control plane, or under another entity of a control plane.
-/
namespace GatewaySync

inductive EntityPath where
  | global (collection : String)
  | controlPlane (controlPlaneId collection : String)
  | nested (controlPlaneId parentCollection parentId collection : String)
  deriving DecidableEq, Repr

namespace EntityPath

def segments : EntityPath → List String
  | global collection => ["v2", collection]
  | controlPlane id collection => ["v2", "control-planes", id, "core-entities", collection]
  | nested id parentCollection parentId collection =>
    ["v2", "control-planes", id, "core-entities", parentCollection, parentId, collection]

def join (segments : List String) : String := String.join (segments.map ("/" ++ ·))

def collectionPath (p : EntityPath) : String := join p.segments

def entityPath (p : EntityPath) (id : String) : String := join (p.segments ++ [id])

def controlPlaneId? : EntityPath → Option String
  | global _ => none
  | controlPlane id _ => some id
  | nested id _ _ _ => some id

end EntityPath

/-- What a list call asks for: entities with a tag, or with a label. -/
inductive ListFilter where
  | tag (tag : String)
  | label (label : String)
  deriving DecidableEq, Repr

def ListFilter.query : ListFilter → String × String
  | tag t => ("tags", t)
  | label l => ("labels", l)

end GatewaySync
