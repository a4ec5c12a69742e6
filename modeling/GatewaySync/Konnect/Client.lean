import GatewaySync.Http.Form
import GatewaySync.Http.Message
import GatewaySync.Http.Status
import GatewaySync.Sync.World
/-!
# The client of the Konnect API

Each call is one request below the base URL, with the token as bearer. The organization is asked for
once and then remembered.
-/
namespace GatewaySync.Konnect

structure Client where
  baseUrl : String
  token : String
  /-- The organization, once it was answered. -/
  organization : Option String
  deriving DecidableEq, Repr

namespace Client

/-- A client of the server at a URL, whose trailing slashes are dropped. -/
def ofUrl? (url token : String) : Except RemoteError Client :=
  if url.startsWith "http://" || url.startsWith "https://" then
    let base := (url.toList.reverse.dropWhile (· = '/')).reverse
    .ok ⟨String.ofList base, token, none⟩
  else
    .error (.transport ("server URL must start with http:// or https://, got: " ++ url))

def organizationPath : String := "/v3/organizations/me"

def target : RemoteCall → String
  | .create p _ => p.collectionPath
  | .upsert p id _ => p.entityPath id
  | .delete p id => p.entityPath id
  | .list p filter => p.collectionPath ++ "?" ++ Http.Form.pair filter.query.1 filter.query.2
  | .organizationId => organizationPath

/-- The method of a call. A control plane is updated in part, any other entity is replaced. -/
def method : RemoteCall → Http.Method
  | .create _ _ => .post
  | .upsert (.global _) _ _ => .patch
  | .upsert _ _ _ => .put
  | .delete _ _ => .delete
  | .list _ _ => .get
  | .organizationId => .get

def content : RemoteCall → Option Http.Content
  | .create _ body => some ⟨"application/json", body⟩
  | .upsert _ _ body => some ⟨"application/json", body⟩
  | _ => none

def request (c : Client) (call : RemoteCall) : Http.Request String :=
  ⟨method call, c.baseUrl ++ target call, some ("Bearer " ++ c.token), content call⟩

def decodePage : Json.Decoder (List RemoteEntity) := fun v => do
  let fs ← Json.fields ["data"] v
  fs.defaulted "data" [] (Json.Decoder.list RemoteEntity.decode)

def decodeOrganization : Json.Decoder String := fun v => do
  let fs ← Json.fields ["id"] v
  fs.required "id" Json.Decoder.string

def decodeAnswer (call : RemoteCall) (body : String) : Option call.Answer :=
  match call with
  | .create _ _ => (Json.read? body).bind RemoteEntity.decode
  | .upsert _ _ _ => (Json.read? body).bind RemoteEntity.decode
  | .delete _ _ => some ()
  | .list _ _ => (Json.read? body).bind decodePage
  | .organizationId => (Json.read? body).bind decodeOrganization

def answer (call : RemoteCall) : Http.Reply → Except RemoteError call.Answer
  | .unreached cause => .error (.transport cause)
  | .response r =>
    if Http.isSuccess r.status then
      match decodeAnswer call r.body with
      | some a => .ok a
      | none => .error (.transport "error decoding response body")
    else .error (.ofStatus r.status r.body)

variable {σ : Type}

/-- Calls Konnect over a connection, unless the answer is remembered. -/
def ask (send : Http.Request String → σ → Http.Reply × σ) (call : RemoteCall) (c : Client) (s : σ) :
    Except RemoteError call.Answer × Client × σ :=
  match call, c.organization with
  | .organizationId, some organization => (.ok organization, c, s)
  | .organizationId, none =>
    let (reply, s) := send (c.request .organizationId) s
    match answer .organizationId reply with
    | .ok organization => (.ok organization, { c with organization := some organization }, s)
    | .error e => (.error e, c, s)
  | call, _ =>
    let (reply, s) := send (c.request call) s
    (answer call reply, c, s)

end Client

end GatewaySync.Konnect
