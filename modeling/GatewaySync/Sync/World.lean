import GatewaySync.Cluster.Store
import GatewaySync.Konnect.Path
import GatewaySync.Sync.Backoff
/-!
# What a pass acts on

A pass reads and patches the store and calls Konnect. Both are behind an environment that may fail a
store call, let other writers change the store at a Konnect call, and answers the call. The world keeps
the store, the state of the environment, the clock and a log of all that was asked.
-/
namespace GatewaySync

/-- The part of a remote entity that matters here. -/
structure RemoteEntity where
  id : Option String
  tags : List String
  deriving DecidableEq, Repr

inductive RemoteCall where
  | create (path : EntityPath) (body : Json)
  | upsert (path : EntityPath) (id : String) (body : Json)
  | delete (path : EntityPath) (id : String)
  | list (path : EntityPath) (filter : ListFilter)
  | organizationId
  deriving Repr

abbrev RemoteCall.Answer : RemoteCall → Type
  | create _ _ => RemoteEntity
  | upsert _ _ _ => RemoteEntity
  | delete _ _ => Unit
  | list _ _ => List RemoteEntity
  | organizationId => String

/-- A call, what the cluster held when it was made, and what it was answered with. -/
structure Exchange where
  store : Store
  call : RemoteCall
  answer : Except RemoteError call.Answer

inductive StoreCall where
  | get (key : Key)
  | patchStatus (key : Key)
  | patchMetadata (key : Key)
  deriving DecidableEq, Repr

/-- A failure of the store that does not come from its content. -/
inductive StoreFault where
  | refuse (error : ApiError)
  /-- The object is removed by somebody else while its metadata are written. -/
  | vanish
  deriving DecidableEq, Repr

structure Environment (σ : Type) where
  serverUrl : String
  fault : StoreCall → σ → Option StoreFault × σ
  /-- What other writers make of the store when Konnect is called, before it answers. -/
  disturb : RemoteCall → Store → σ → Store × σ
  answer : (call : RemoteCall) → σ → Except RemoteError call.Answer × σ

/-- Reads a remote entity; what else Konnect tells of it is skipped. -/
def RemoteEntity.decode : Json.Decoder RemoteEntity := fun v => do
  let fs ← Json.fields ["id", "tags"] v
  some {
    id := ← fs.optional "id" Json.Decoder.string
    tags := ← fs.defaulted "tags" [] (Json.Decoder.list Json.Decoder.string) }

structure World (σ : Type) where
  store : Store
  outside : σ
  now : Instant
  backoff : Backoff
  storeCalls : List StoreCall
  exchanges : List Exchange

/-- An action on the world that may fail. -/
abbrev Run (σ : Type) := ExceptT SyncError (StateM (World σ))

/-- An action on the world and on the object at hand, in memory, that may fail; what it did to the
object stays done. -/
abbrev Pass (σ : Type) := ExceptT SyncError (StateT Object (StateM (World σ)))

variable {σ : Type}

namespace World

/-- Logs a store call and asks the environment whether it fails. -/
def attempt (env : Environment σ) (call : StoreCall) (w : World σ) : Option StoreFault × World σ :=
  let (fault, outside) := env.fault call w.outside
  (fault, { w with outside := outside, storeCalls := w.storeCalls ++ [call] })

def get (env : Environment σ) (key : Key) (w : World σ) :
    Except SyncError (Option Resource) × World σ :=
  match w.attempt env (.get key) with
  | (some (.refuse e), w) => (.error (.api e), w)
  | (_, w) => (.ok (w.store.find? key), w)

def patchStatus (env : Environment σ) (o : Object) (w : World σ) : Except SyncError Unit × World σ :=
  match w.attempt env (.patchStatus o.key) with
  | (some (.refuse e), w) => (.error (.api e), w)
  | (_, w) =>
    let (answer, store) := w.store.patchStatus o
    (answer.mapError .api, { w with store := store })

/-- Writes finalizers and owners of an object; `none` if it is gone. -/
def patchMetadata (env : Environment σ) (o : Object) (w : World σ) :
    Except SyncError (Option Object) × World σ :=
  match w.attempt env (.patchMetadata o.key) with
  | (some (.refuse e), w) => (.error (.api e), w)
  | (some .vanish, w) => (.ok none, { w with store := w.store.erase o.key })
  | (none, w) =>
    let (answer, store) := w.store.patchMetadata o
    (answer.mapError .api, { w with store := store })

def ask (env : Environment σ) (call : RemoteCall) (w : World σ) :
    Except RemoteError call.Answer × World σ :=
  let (store, outside) := env.disturb call w.store w.outside
  let (answer, outside) := env.answer call outside
  (answer, { w with store, outside, exchanges := w.exchanges ++ [⟨w.store, call, answer⟩] })

def remoteCalls (w : World σ) : List RemoteCall := w.exchanges.map (·.call)

end World

namespace Pass

def object : Pass σ Object := getThe Object

def modifyObject (f : Object → Object) : Pass σ Unit := modifyThe Object f

def now : Pass σ Instant := do return (← getThe (World σ)).now

/-- A result that was found without the world. -/
def ofExcept {α : Type} : Except SyncError α → Pass σ α
  | .ok a => return a
  | .error e => throw e

def onWorld {α : Type} (f : World σ → α × World σ) : Pass σ α :=
  ExceptT.lift fun o => StateT.lift (f : StateM (World σ) α) o

def tryWorld {α : Type} (f : World σ → Except SyncError α × World σ) : Pass σ α := do
  match ← onWorld f with
  | .ok a => return a
  | .error e => throw e

/-- Whether an action fails becomes its result. -/
def attempt {α : Type} (p : Pass σ α) : Pass σ (Except SyncError α) := ExceptT.lift p.run

/-- Runs a pass on an object: its result, the object afterwards and the world. -/
def onObject {α : Type} (p : Pass σ α) (o : Object) (w : World σ) :
    Except SyncError α × Object × World σ :=
  let ((result, o), w) := (p.run.run o).run w
  (result, o, w)

def record (v : Verdict) : Pass σ Unit := do
  let now ← now
  modifyObject (·.record v now)

end Pass

end GatewaySync
