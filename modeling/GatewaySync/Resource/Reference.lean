import GatewaySync.Json.Decode
/-!
# References

An object names another one in the cluster, by default in its own namespace, or gives the Konnect id
of an entity outright. The member `type` tells the two apart.
-/
namespace GatewaySync

inductive Reference where
  | object (name : String) (ns : Option String)
  | konnectId (id : String)
  deriving DecidableEq, Repr

namespace Reference

open Json (Decoder whenSet always)

/-- A reference by name in the namespace of the object that holds it. -/
def named (name : String) : Reference := .object name none

def ofFields (type : String) (rest : Json) : Option Reference :=
  if type = "namespacedRef" then do
    let fs ← Json.fields ["name", "namespace"] rest
    some (.object (← fs.required "name" Decoder.string) (← fs.optional "namespace" Decoder.string))
  else if type = "konnectID" then do
    let fs ← Json.fields ["id"] rest
    some (.konnectId (← fs.required "id" Decoder.string))
  else none

/-- Reads a reference from an object with one member `type`, or from an array that starts with it.
The whole value has to be readable, skipped members too. -/
def decode : Decoder Reference := fun v => do
  guard v.isReadable
  match v with
  | .obj members =>
    match members.filter (·.1 = "type") with
    | [(_, .str type)] => ofFields type (.obj (Json.without "type" members))
    | _ => none
  | .arr (.str type :: rest) => ofFields type (.arr rest)
  | _ => none

def encode : Reference → Json
  | .object name ns =>
    .object [always "type" (.str "namespacedRef"), always "name" (.str name),
      whenSet "namespace" .str ns]
  | .konnectId id => .object [always "type" (.str "konnectID"), always "id" (.str id)]

end Reference

end GatewaySync
