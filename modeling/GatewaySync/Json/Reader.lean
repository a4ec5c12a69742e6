import GatewaySync.Json.Token
/-!
# Reading JSON

Tokens are folded over a stack of open containers, so no nesting is too deep to be checked. A
container that lies deeper than the limit becomes `unreadable` once it is closed.
-/
namespace GatewaySync.Json

/-- An open container with what it holds so far, in reverse. -/
inductive Frame where
  | items (rev : List Json)
  /-- The members so far, whether all keys were readable, and the key of the member at hand. -/
  | members (rev : List (String × Json)) (sound : Bool) (key : String)

inductive Expect where
  | value
  | valueOrEnd
  | key
  | keyOrEnd
  | colon
  | separator
  deriving DecidableEq

/-- The reader between two tokens: the open containers, inside first, and what may come next. -/
structure Cursor where
  frames : List Frame
  expect : Expect
  result : Option Json

def Cursor.start : Cursor := ⟨[], .value, none⟩

/-- Puts a finished value into the innermost open container, or makes it the result. -/
def Cursor.accept (frames : List Frame) (value : Json) : Cursor :=
  match frames with
  | [] => ⟨[], .separator, some value⟩
  | .items rev :: outer => ⟨.items (value :: rev) :: outer, .separator, none⟩
  | .members rev sound key :: outer =>
    ⟨.members ((key, value) :: rev) sound key :: outer, .separator, none⟩

def closed (limit depth : Nat) (value : Json) : Json := if depth ≤ limit then value else unreadable

def Cursor.next (limit : Nat) (c : Cursor) (token : Token) : Option Cursor :=
  let atValue := c.result.isNone && (c.expect = .value || c.expect = .valueOrEnd)
  match token, c.frames with
  | .openObject, frames =>
    if atValue then some ⟨.members [] true "" :: frames, .keyOrEnd, none⟩ else none
  | .openArray, frames =>
    if atValue then some ⟨.items [] :: frames, .valueOrEnd, none⟩ else none
  | .closeArray, .items rev :: outer =>
    if c.expect = .separator ∨ c.expect = .valueOrEnd then
      some (accept outer (closed limit c.frames.length (arr rev.reverse)))
    else none
  | .closeObject, .members rev sound _ :: outer =>
    if c.expect = .separator ∨ c.expect = .keyOrEnd then
      some (accept outer (closed limit c.frames.length (if sound then obj rev.reverse else unreadable)))
    else none
  | .comma, .items rev :: outer =>
    if c.expect = .separator then some ⟨.items rev :: outer, .value, none⟩ else none
  | .comma, .members rev sound key :: outer =>
    if c.expect = .separator then some ⟨.members rev sound key :: outer, .key, none⟩ else none
  | .colon, frames => if c.expect = .colon then some ⟨frames, .value, none⟩ else none
  | .text s, frames =>
    if atValue then some (accept frames (s.elim unreadable str))
    else
      match frames with
      | .members rev sound _ :: outer =>
        if c.expect = .key ∨ c.expect = .keyOrEnd then
          some ⟨.members rev (sound && s.isSome) (s.getD "") :: outer, .colon, none⟩
        else none
      | _ => none
  | .word value, frames => if atValue then some (accept frames value) else none
  | _, _ => none

def Cursor.run (limit : Nat) (c : Cursor) : List Token → Option Cursor
  | [] => some c
  | token :: rest => (c.next limit token).bind fun c => c.run limit rest

def defaultDepth : Nat := 127

/-- Reads a text that holds one value and nothing else. -/
def read? (text : String) : Option Json := do
  let tokens ← tokens text
  let cursor ← Cursor.start.run defaultDepth tokens
  cursor.result

end GatewaySync.Json
