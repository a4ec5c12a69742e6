import GatewaySync.Json.Reader
import GatewaySync.Json.Decode
/-!
# Failures of the Konnect API

An answer without success is sorted by its status. An entity that is there already is reported as 409,
or as 400 with a body of a certain form; a missing entity is reported as 404.
-/
namespace GatewaySync

inductive RemoteError where
  | notFound (body : String)
  | badRequest (status : Nat) (body : String)
  | conflict (body : String)
  | api (status : Nat) (message body : String)
  | transport (message : String)
  deriving DecidableEq, Repr

namespace RemoteError

/-- What is said of a status that has no class of its own. -/
def statusText (status : Nat) : String :=
  if status = 401 then "Unauthorized"
  else if status = 403 then "Forbidden"
  else if status = 429 then "Too Many Requests"
  else if 500 ≤ status ∧ status ≤ 599 then "Server Error"
  else "Unexpected Status"

def ofStatus (status : Nat) (body : String) : RemoteError :=
  if status = 404 then .notFound body
  else if status = 409 then .conflict body
  else if status = 400 then .badRequest status body
  else .api status (statusText status) body

def message : RemoteError → String
  | notFound body => "not found: " ++ body
  | badRequest _ body => body
  | conflict body => body
  | api status message _ => "API error occurred: Status " ++ toString status ++ ": " ++ message
  | transport message => "transport error: " ++ message

def status? : RemoteError → Option Nat
  | notFound _ => some 404
  | badRequest status _ => some status
  | conflict _ => some 409
  | api status _ _ => some status
  | transport _ => none

def isNotFound (e : RemoteError) : Bool := e.status? = some 404

/-- The body of a violated uniqueness constraint: code 3 and a fixed message. -/
def isConstraintBody (body : String) : Bool :=
  match (do
    let fs ← Json.fields ["code", "message"] (← Json.read? body)
    let code ← fs.nullable "code" Json.Decoder.int64
    let message ← fs.nullable "message" Json.Decoder.string
    some (code, message)) with
  | some (code, message) => code = some 3 && message = some "data constraint error"
  | none => false

def isConflict : RemoteError → Bool
  | conflict _ => true
  | badRequest _ body => isConstraintBody body
  | api status _ body => status = 409 || isConstraintBody body
  | _ => false

end RemoteError

end GatewaySync
