import GatewaySync.Text.Blank
/-!
# Request targets

The path of a request and, after a question mark, its query. A fragment is not sent. Some ASCII
characters cannot stand in a target; characters beyond ASCII can.
-/
namespace GatewaySync.Http

structure Target where
  path : String
  query : Option String
  deriving DecidableEq, Repr

namespace Target

/-- A character that may stand in a path. -/
def inPath (c : Char) : Bool :=
  0x21 ≤ c.toNat && c != '<' && c != '>' && c != Char.ofNat 0x60

/-- A character that may stand in a query. -/
def inQuery (c : Char) : Bool := 0x21 ≤ c.toNat && c != '"' && c != '<' && c != '>'

/-- The size in bytes from which a target is too long. -/
def sizeLimit : Nat := 65535

/-- The text up to a fragment. -/
def withoutFragment (cs : List Char) : List Char := cs.takeWhile (· != '#')

/-- Splits a target that starts with a slash, if it is a valid one. -/
def ofText? (text : String) : Option Target :=
  if sizeLimit ≤ text.utf8ByteSize then none
  else
    let cs := withoutFragment text.toList
    match Text.splitOnce '?' cs with
    | none => if cs.all inPath then some ⟨String.ofList cs, none⟩ else none
    | some (path, query) =>
      if path.all inPath && query.all inQuery then
        some ⟨String.ofList path, some (String.ofList query)⟩
      else none

end Target

end GatewaySync.Http
