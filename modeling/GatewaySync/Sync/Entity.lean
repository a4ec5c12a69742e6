import GatewaySync.Konnect.Body
import GatewaySync.Konnect.Location
import GatewaySync.Sync.World
/-!
# Operations on the remote entity

They check what they need first, make at most one call each, and change the object only by the id of
an entity that was created.
-/
namespace GatewaySync.Entity

variable {σ : Type} (env : Environment σ)

def failed (op : Operation) (o : Object) (e : RemoteError) : SyncError :=
  .remote op o.kind.name o.keyText e

/-- Calls Konnect and gives its answer, or the failure of the operation. -/
def call (op : Operation) (o : Object) (c : RemoteCall) : Pass σ c.Answer := do
  match ← Pass.onWorld (World.ask env c) with
  | .ok answer => return answer
  | .error e => throw (failed op o e)

/-- An id that was given and is not empty. -/
def usableId (e : RemoteEntity) : Option String := e.id.filter (· ≠ "")

def create : Pass σ Unit := do
  let o ← Pass.object
  let path ← Pass.ofExcept (o.path .create)
  let created ← call env .create o (.create path o.body)
  match usableId created with
  | some id => Pass.modifyObject (·.withId id)
  | none => throw (.emptyResponse .create o.kind.name o.keyText)

/-- Writes the entity under the id that the object has. -/
def update : Pass σ Unit := do
  let o ← Pass.object
  let path ← Pass.ofExcept (o.path .update)
  if o.konnectId = "" then throw (.missingKonnectId .update o.kind.name o.keyText)
  let _ ← call env .update o (.upsert path o.konnectId o.body)

/-- Deletes the entity; that it is not there, or never was, is fine. -/
def delete : Pass σ Unit := do
  let o ← Pass.object
  if o.konnectId = "" then return
  let path ← Pass.ofExcept (o.path .delete)
  match ← Pass.onWorld (World.ask env (.delete path o.konnectId)) with
  | .ok _ => return
  | .error e => if e.isNotFound then return else throw (failed .delete o e)

def onlyId (o : Object) (found : List RemoteEntity) : Except SyncError String :=
  match found.filterMap usableId with
  | [] => .error (.identityNotFound o.kind.name o.metadata.uidTag)
  | [id] => .ok id
  | ids => .error (.ambiguousIdentity o.kind.name o.metadata.uidTag ids.length)

/-- The id of the entity that carries the uid of the object. -/
def findByIdentity : Pass σ String := do
  let o ← Pass.object
  let path ← Pass.ofExcept (o.path .list)
  let found ← call env .list o (.list path o.listFilter)
  Pass.ofExcept (onlyId o found)

/-- Creates the entity. If Konnect has one already, the one with the uid of the object is adopted;
without one the failure of the creation stands. -/
def createOrAdopt : Pass σ Unit := do
  match ← (create env).attempt with
  | .ok () => return
  | .error e =>
    if e.isRemoteConflict then
      match ← (findByIdentity env).attempt with
      | .ok id => Pass.modifyObject (·.withId id)
      | .error _ => throw e
    else throw e

/-- Writes the entity. If Konnect lost it, its id is forgotten and it is created again. -/
def updateOrRecreate : Pass σ Unit := do
  match ← (update env).attempt with
  | .ok () => return
  | .error e =>
    if e.isRemoteNotFound then do
      Pass.modifyObject (·.withId "")
      createOrAdopt env
    else throw e

end GatewaySync.Entity
