import GatewaySync.Json.Basic
/-!
# Layers of settings

Values from several sources are put into one table, source after source. Tables are merged key by key,
anything else replaces what was there. Keys do not tell cases of letters apart.
-/
namespace GatewaySync

/-- A value with the source it comes from, or a table of them, which has no single source. -/
inductive Layered where
  | leaf (source : Option String) (value : Json)
  | table (entries : List (String × Layered))

namespace Layered

/-- A letter as keys are compared. Of the capitals beyond ASCII only the Kelvin sign stands for an
ASCII letter, so only it can turn a key into one that is known. -/
def foldLetter (c : Char) : Char := if c.toNat = 0x212A then 'k' else c.toLower

def foldKey (key : String) : String := String.ofList (key.toList.map foldLetter)

mutual

def ofJson (source : String) : Json → Layered
  | .obj members => .table (ofMembers source members)
  | other => .leaf (some source) other

def ofMembers (source : String) : List (String × Json) → List (String × Layered)
  | [] => []
  | (key, value) :: rest => (key, ofJson source value) :: ofMembers source rest

end

def put (key : String) (value : Layered) : List (String × Layered) → List (String × Layered)
  | [] => [(key, value)]
  | e :: rest => if e.1 = key then (key, value) :: rest else e :: put key value rest

/-- The entries of a table; anything else counts as an empty one. -/
def entriesOf : Option Layered → List (String × Layered)
  | some (.table entries) => entries
  | _ => []

mutual

/-- Puts a value under a key; a table is merged into the one that is there. -/
def merge (key : String) (entries : List (String × Layered)) : Layered → List (String × Layered)
  | .leaf source value => put (foldKey key) (.leaf source value) entries
  | .table [] =>
    if (entries.lookup (foldKey key)).isSome then entries else put (foldKey key) (.table []) entries
  | .table (e :: rest) =>
    put (foldKey key)
      (.table (mergeAll (entriesOf (entries.lookup (foldKey key))) (e :: rest))) entries

def mergeAll (entries : List (String × Layered)) :
    List (String × Layered) → List (String × Layered)
  | [] => entries
  | (key, value) :: rest => mergeAll (merge key entries value) rest

end

def isKeyChar (c : Char) : Bool := c.isAlphanum || c = ' ' || c = '_' || c = '-'

/-- The names of a dotted key. A key that is not of this form is a single name. -/
def keyNames (key : String) : List String :=
  let rec go (rev : List Char) : List Char → Option (List String)
    | [] => if rev = [] then none else some [String.ofList rev.reverse]
    | c :: rest =>
      if c = '.' then
        if rev = [] then none else (go [] rest).map (String.ofList rev.reverse :: ·)
      else if isKeyChar c then go (c :: rev) rest
      else none
  (go [] key.toList).getD [key]

/-- Puts a value at the end of a path of names; whatever is in the way becomes a table. -/
def mergeAt (value : Layered) : List String → List (String × Layered) → List (String × Layered)
  | [], entries => entries
  | [key], entries => merge key entries value
  | key :: more, entries =>
    put (foldKey key)
      (.table (mergeAt value more (entriesOf (entries.lookup (foldKey key))))) entries

/-- Adds the entries of one source, whose keys may be dotted. -/
def addSource (entries : List (String × Layered)) (source : List (String × Layered)) :
    List (String × Layered) :=
  source.foldl (fun entries (key, value) => mergeAt value (keyNames key) entries) entries

def variableStart : String := "ksync__"

/-- A text with each occurrence of two underscores replaced by a point. -/
def dotted : List Char → List Char
  | '_' :: '_' :: rest => '.' :: dotted rest
  | c :: rest => c :: dotted rest
  | [] => []

def ofVariable (name value : String) : Option (String × Layered) :=
  let key := (foldKey name).toList
  if variableStart.toList = key.take variableStart.length then
    some (String.ofList (dotted (key.drop variableStart.length)),
      .leaf (some "the environment") (.str value))
  else none

end Layered

end GatewaySync
