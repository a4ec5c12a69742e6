import GatewaySync.Number.Shortest
/-!
# JSON values

Object members keep their order and may repeat a key; a reader decides what a repetition means.
`unreadable` is a part of a text that is well formed but has no value here: a number out of range, a
string with a lone surrogate, or a container nested beyond the reader's limit. It may be skipped,
never read.
-/
namespace GatewaySync

inductive Json where
  | null
  | bool (b : Bool)
  | int (n : Int)
  | float (bits : UInt64)
  | str (s : String)
  | arr (items : List Json)
  | obj (members : List (String × Json))
  | unreadable
  deriving Inhabited, Repr

namespace Json

/-- An object of the members that are set. -/
def object (members : List (Option (String × Json))) : Json := obj (members.filterMap id)

/-- A member that is always written. -/
def always (key : String) (value : Json) : Option (String × Json) := some (key, value)

/-- A member that is written only if it is set. -/
def whenSet {α : Type} (key : String) (write : α → Json) (value : Option α) :
    Option (String × Json) :=
  value.map fun v => (key, write v)

def ofStrings (items : List String) : Json := arr (items.map str)

/-- The last value of a key among members. -/
def lookup (key : String) (members : List (String × Json)) : Option Json :=
  (members.reverse.find? (·.1 = key)).map (·.2)

def get? (key : String) : Json → Option Json
  | obj members => lookup key members
  | _ => none

/-- Replaces the value of a key in place, or appends the member. -/
def put (key : String) (value : Json) : List (String × Json) → List (String × Json)
  | [] => [(key, value)]
  | (k, v) :: rest => if k = key then (key, value) :: rest else (k, v) :: put key value rest

def without (key : String) (members : List (String × Json)) : List (String × Json) :=
  members.filter (·.1 != key)

def isNull : Json → Bool
  | null => true
  | _ => false

mutual

def isReadable : Json → Bool
  | unreadable => false
  | arr items => areReadable items
  | obj members => membersReadable members
  | _ => true

def areReadable : List Json → Bool
  | [] => true
  | item :: rest => isReadable item && areReadable rest

def membersReadable : List (String × Json) → Bool
  | [] => true
  | (_, value) :: rest => isReadable value && membersReadable rest

end

mutual

/-- Keeps, of repeated keys in any object, the last value at the place of the first. -/
def lastWins : Json → Json
  | arr items => arr (lastWinsItems items)
  | obj members => obj (lastWinsMembers [] members)
  | other => other

def lastWinsItems : List Json → List Json
  | [] => []
  | item :: rest => lastWins item :: lastWinsItems rest

def lastWinsMembers (seen : List (String × Json)) : List (String × Json) → List (String × Json)
  | [] => seen
  | (key, value) :: rest => lastWinsMembers (put key (lastWins value) seen) rest

end

end Json

end GatewaySync
