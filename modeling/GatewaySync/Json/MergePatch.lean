import GatewaySync.Json.Basic
/-!
# Merge patches

A patch that is an object changes the members it names: `null` removes one, another object is merged
into it, anything else replaces it. A patch that is no object replaces the whole document.
-/
namespace GatewaySync.Json

/-- The members of an object; a value of another form counts as an empty object. -/
def membersOf : Json → List (String × Json)
  | obj members => members
  | _ => []

mutual

def mergePatch (document : Json) : Json → Json
  | obj changes => obj (mergeMembers (membersOf document) changes)
  | replacement => replacement

/-- The members after the changes, applied from left to right. -/
def mergeMembers (members : List (String × Json)) : List (String × Json) → List (String × Json)
  | [] => members
  | (key, null) :: rest => mergeMembers (without key members) rest
  | (key, change) :: rest =>
    mergeMembers (put key (mergePatch ((lookup key members).getD null) change) members) rest

end

end GatewaySync.Json
