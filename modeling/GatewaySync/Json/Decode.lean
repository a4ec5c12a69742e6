import GatewaySync.Json.Basic
import GatewaySync.Number.Range
/-!
# Decoding JSON into records

A decoder answers `none` where the value does not fit. A record is read from an object, whose unknown
members are skipped and whose known members may not repeat, or from an array that lists its fields in
order, where trailing fields with a default may be missing.
-/
namespace GatewaySync.Json

abbrev Decoder (α : Type) := Json → Option α

namespace Decoder

def string : Decoder String
  | .str s => some s
  | _ => none

/-- The name of an alternative: a string, or an object whose only member has that name and is
`null`. -/
def alternative : Decoder String
  | .str s => some s
  | .obj [(name, .null)] => some name
  | _ => none

def bool : Decoder Bool
  | .bool b => some b
  | _ => none

/-- An integer between two bounds, the upper one excluded. -/
def intBetween (low high : Int) : Decoder Int
  | .int n => if low ≤ n ∧ n < high then some n else none
  | _ => none

def int64 : Decoder Int
  | .int n => if isInt64 n then some n else none
  | _ => none

def nat (bits : Nat) (v : Json) : Option Nat := (intBetween 0 (wordCount bits) v).map Int.toNat

def document : Decoder Json := fun v => if v.isReadable then some v else none

def optional {α : Type} (d : Decoder α) : Decoder (Option α)
  | .null => some none
  | v => (d v).map some

def list {α : Type} (d : Decoder α) : Decoder (List α)
  | .arr items => items.mapM d
  | _ => none

/-- Inserts into a map that is sorted by key, replacing the value of an equal key. -/
def insertSorted {α : Type} (key : String) (value : α) : List (String × α) → List (String × α)
  | [] => [(key, value)]
  | (k, v) :: rest =>
    if key = k then (key, value) :: rest
    else if key < k then (key, value) :: (k, v) :: rest
    else (k, v) :: insertSorted key value rest

/-- An object as a map in key order; of a repeated key the last value stays. -/
def map {α : Type} (d : Decoder α) : Decoder (List (String × α))
  | .obj members => members.foldlM (fun sorted (key, v) => (d v).map (insertSorted key · sorted)) []
  | _ => none

end Decoder

/-- The fields of a record as they were found: for each name the value, if there is one. A record
from an array is positional: a missing field counts as missing even if it may be `null`. -/
structure Fields where
  positional : Bool
  values : List (String × Option Json)

def fields (names : List String) : Json → Option Fields
  | .obj members => do
    let values ← names.mapM fun name =>
      match members.filter (·.1 = name) with
      | [] => some (name, none)
      | [(_, v)] => some (name, some v)
      | _ => none
    some ⟨false, values⟩
  | .arr items =>
    if names.length < items.length then none
    else some ⟨true, names.zip (items.map some ++ List.replicate (names.length - items.length) none)⟩
  | _ => none

/-- The fields of an object in which a repeated member counts once: its values are all kept. -/
def repeatedField {α : Type} (name : String) (d : Decoder α) (members : List (String × Json)) :
    Option (Option α) :=
  (members.filter (·.1 = name)).foldlM (fun _ (_, v) => (d v).map some) none

namespace Fields

def find (fs : Fields) (name : String) : Option Json :=
  (fs.values.find? (·.1 = name)).bind (·.2)

def required {α : Type} (fs : Fields) (name : String) (d : Decoder α) : Option α :=
  (fs.find name).bind d

/-- A field with a default, which stands in for a missing field and not for `null`. -/
def defaulted {α : Type} (fs : Fields) (name : String) (default : α) (d : Decoder α) : Option α :=
  match fs.find name with
  | none => some default
  | some v => d v

/-- A field that may be missing or `null`. -/
def optional {α : Type} (fs : Fields) (name : String) (d : Decoder α) : Option (Option α) :=
  fs.defaulted name none (Decoder.optional d)

/-- A field that may be `null`, and may be missing from an object but not from an array. -/
def nullable {α : Type} (fs : Fields) (name : String) (d : Decoder α) : Option (Option α) :=
  match fs.find name with
  | none => if fs.positional then none else some none
  | some v => Decoder.optional d v

end Fields

end GatewaySync.Json
