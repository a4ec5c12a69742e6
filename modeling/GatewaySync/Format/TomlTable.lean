import GatewaySync.Json.Basic
/-!
# Tables under construction

While a TOML document is read, each table remembers how it came about, since that decides what may
still be added to it: a header opens a table once, a dotted key extends only tables that dotted keys
have made, and values are closed.
-/
namespace GatewaySync.Toml

inductive Origin where
  | passing
  | header
  | dotted
  deriving DecidableEq, Repr

inductive Node where
  | value (v : Json)
  | table (origin : Origin) (entries : List (String × Node))
  /-- The tables of an array, last first. -/
  | tables (rev : List (List (String × Node)))

abbrev Entries := List (String × Node)

namespace Entries

def replace (key : String) (node : Node) (es : Entries) : Entries :=
  es.map fun e => if e.1 = key then (key, node) else e

def assign (v : Json) : List String → Entries → Option Entries
  | [], _ => none
  | [key], es => if (es.lookup key).isSome then none else some (es ++ [(key, .value v)])
  | key :: more, es =>
    match es.lookup key with
    | none => do some (es ++ [(key, .table .dotted (← assign v more []))])
    | some (.table .dotted inner) => do
      some (replace key (.table .dotted (← assign v more inner)) es)
    | some (.table .passing inner) =>
      if more.length = 1 then none
      else do some (replace key (.table .passing (← assign v more inner)) es)
    | some _ => none

/-- Changes the entries of the table that a header's path leads to before its last key. -/
def descend (change : Entries → Option Entries) : List String → Entries → Option Entries
  | [], es => change es
  | key :: more, es =>
    match es.lookup key with
    | none => do some (es ++ [(key, .table .passing (← descend change more []))])
    | some (.table origin inner) => do
      some (replace key (.table origin (← descend change more inner)) es)
    | some (.tables (last :: earlier)) => do
      some (replace key (.tables ((← descend change more last) :: earlier)) es)
    | some _ => none

def openTable (key : String) (es : Entries) : Option Entries :=
  match es.lookup key with
  | none => some (es ++ [(key, .table .header [])])
  | some (.table .passing inner) => some (replace key (.table .header inner) es)
  | some _ => none

def openItem (key : String) (es : Entries) : Option Entries :=
  match es.lookup key with
  | none => some (es ++ [(key, .tables [[]])])
  | some (.tables rev) => some (replace key (.tables ([] :: rev)) es)
  | some _ => none

end Entries

mutual

def Node.toJson : Node → Json
  | .value v => v
  | .table _ entries => .obj (Entries.toMembers entries)
  | .tables rev => .arr (Entries.toItems rev).reverse

def Entries.toMembers : List (String × Node) → List (String × Json)
  | [] => []
  | (key, node) :: rest => (key, node.toJson) :: Entries.toMembers rest

def Entries.toItems : List (List (String × Node)) → List Json
  | [] => []
  | entries :: rest => .obj (Entries.toMembers entries) :: Entries.toItems rest

end

end GatewaySync.Toml
