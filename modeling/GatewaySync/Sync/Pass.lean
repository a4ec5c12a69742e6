import GatewaySync.Settings.Basic
import GatewaySync.Sync.Finalizer
import GatewaySync.Sync.Entity
import GatewaySync.Sync.Resolve
/-!
# A reconcile pass

A pass reads the object afresh, resolves its references, makes sure that the cleanup finalizer and the
controlling owner are stored before anything is created remotely, brings the entity up to date, and stores what
it learned in the status. An object that is being deleted has its remote entity deleted first and its
finalizer released after that.
-/
namespace GatewaySync

inductive Action where
  | awaitChange
  | requeue (seconds : UInt64)
  deriving DecidableEq, Repr

inductive Need where
  | sync
  | cleanup
  | nothing
  deriving DecidableEq, Repr

def Object.need (o : Object) : Need :=
  if !o.metadata.isDeleting then .sync
  else if o.metadata.hasCleanup then .cleanup
  else .nothing

theorem Object.need_eq_sync {o : Object} : o.need = .sync ↔ o.metadata.isDeleting = false := by
  unfold need
  split <;> simp_all
  split <;> simp

theorem Object.need_eq_cleanup {o : Object} :
    o.need = .cleanup ↔ o.metadata.isDeleting = true ∧ o.metadata.hasCleanup = true := by
  unfold need
  split <;> simp_all

namespace Reconcile

variable {σ : Type} (env : Environment σ) (settings : OperatorSettings)

/-- A write that the cluster refused because the object changed is tried again this soon. -/
def writeConflictDelay : UInt64 := 1

def persistStatus (fetched : Option Status) : Pass σ Unit := do
  let o ← Pass.object
  if o.status ≠ fetched then Pass.tryWorld (World.patchStatus env o)

/-- Keeps the organization and the server that the entity lives in. An organization that can not be
learned stays as it was. -/
def recordOrigin : Pass σ Unit := do
  let answer ← Pass.onWorld (World.ask env .organizationId)
  Pass.modifyObject fun o => o.withKonnect fun k =>
    { k with
      serverUrl := env.serverUrl
      orgId := match answer with
        | .ok id => id
        | .error _ => k.orgId }

def failureReason (e : SyncError) (creating : Bool) : String :=
  match e with
  | .remote .create .. => Reason.failedToCreate
  | .emptyResponse .create .. => Reason.failedToCreate
  | _ => if creating then Reason.failedToCreate else Reason.failedToUpdate

/-- Records a failed resolution on the object, if it is about its own control plane. -/
def recordMissingControlPlane (e : SyncError) : Pass σ Unit :=
  match e with
  | .missingControlPlaneId .. =>
    Pass.record ⟨ConditionType.programmed, .unknown, Reason.missingControlPlaneId, e.message⟩
  | _ => pure ()

/-- Stores finalizer and owner if they changed; `false` if the object went away meanwhile. The object
at hand moves to the new resource version and keeps its status. -/
def persistMetadata (fetched : Metadata) : Pass σ Bool := do
  let o ← Pass.object
  let added := !o.metadata.hasCleanup
  Pass.modifyObject fun o => { o with metadata := o.metadata.withCleanup }
  if added || o.metadata.ownerList ≠ fetched.ownerList then
    let o ← Pass.object
    match ← Pass.tryWorld (World.patchMetadata env o) with
    | some written =>
      Pass.modifyObject fun o =>
        { o with metadata := { o.metadata with
            resourceVersion := written.metadata.resourceVersion } }
      return true
    | none => return false
  else return true

/-- How a sync that did not fail ended. -/
inductive Outcome where
  | synced
  | waiting
  | gone
  deriving DecidableEq, Repr

/-- Writes the entity of an object whose references are resolved and stores how it went. -/
def writeEntity (fetched : Option Status) : Pass σ Unit := do
  let o ← Pass.object
  let creating : Bool := o.konnectId = ""
  let result ← (if creating then Entity.createOrAdopt env else Entity.updateOrRecreate env).attempt
  match result with
  | .ok () =>
    recordOrigin env
    let now ← Pass.now
    Pass.modifyObject (·.recordProgrammed now)
  | .error e =>
    Pass.record ⟨ConditionType.programmed, .false, failureReason e creating, e.message⟩
  persistStatus env fetched
  Pass.ofExcept result

/-- Brings the remote entity up to date. -/
def sync : Pass σ Outcome := do
  let fetched ← Pass.object
  match ← (Resolve.references env).attempt with
  | .ok .notReady =>
    persistStatus env fetched.status
    return .waiting
  | .error e =>
    recordMissingControlPlane e
    persistStatus env fetched.status
    throw e
  | .ok .ready =>
    if ← persistMetadata env fetched.metadata then
      writeEntity env fetched.status
      return .synced
    else return .gone

def cleanup : Pass σ Unit := do
  Entity.delete env
  Pass.modifyObject fun o => { o with metadata := o.metadata.withoutCleanup }
  let o ← Pass.object
  let _ ← Pass.tryWorld (World.patchMetadata env o)

def runOn {α : Type} (p : Pass σ α) (o : Object) (w : World σ) : Except SyncError α × World σ :=
  ((p.onObject o w).1, (p.onObject o w).2.2)

/-- Forgets the failures of an object. -/
def settle (key : Key) (w : World σ) : World σ := { w with backoff := w.backoff.reset key.text }

def pass (kind : ManagedKind) (ns name : String) (w : World σ) :
    Except SyncError Action × World σ :=
  let key : Key := ⟨kind, ns, name⟩
  match w.get env key with
  | (.error e, w) => (.error e, w)
  | (.ok found, w) =>
    match found.bind Resource.object? with
    | none => (.ok .awaitChange, settle key w)
    | some o =>
      match o.need with
      | .nothing => (.ok .awaitChange, settle key w)
      | .cleanup =>
        match runOn (cleanup env) o w with
        | (.ok (), w) => (.ok .awaitChange, settle key w)
        | (.error e, w) => (.error e, w)
      | .sync =>
        match runOn (sync env) o w with
        | (.ok .synced, w) => (.ok (.requeue settings.syncPeriod), settle o.key w)
        | (.ok .waiting, w) => (.ok (.requeue settings.notReadyRequeue), w)
        | (.ok .gone, w) => (.ok .awaitChange, w)
        | (.error e, w) => (.error e, w)

def onError (key : Key) (e : SyncError) (b : Backoff) : Action × Backoff :=
  if e.isWriteConflict then (.requeue writeConflictDelay, b)
  else if e.awaitsReferenceChange then (.awaitChange, b)
  else
    let (delay, b) := b.next settings.errorBackoffInitial settings.errorBackoffMax key.text
    (.requeue delay, b)

end Reconcile

end GatewaySync
