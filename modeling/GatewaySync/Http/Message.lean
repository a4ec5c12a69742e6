import GatewaySync.Json.Basic
/-!
# Requests and responses

A request carries at most one JSON document. A call ends with a response, or with none because the
server was not reached.
-/
namespace GatewaySync.Http

inductive Method where
  | get
  | post
  | put
  | patch
  | delete
  deriving DecidableEq, Repr

def Method.name : Method → String
  | get => "GET"
  | post => "POST"
  | put => "PUT"
  | patch => "PATCH"
  | delete => "DELETE"

/-- A JSON document and the media type it is sent as. -/
structure Content where
  type : String
  document : Json
  deriving Repr

structure Request (τ : Type) where
  method : Method
  target : τ
  authorization : Option String
  content : Option Content
  deriving Repr

structure Response where
  status : Nat
  body : String
  deriving DecidableEq, Repr

inductive Reply where
  | response (response : Response)
  | unreached (cause : String)
  deriving DecidableEq, Repr

end GatewaySync.Http
