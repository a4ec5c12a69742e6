import GatewaySync.Sync.Entity
import GatewaySync.Text.Blank
import Mathlib.Tactic.SplitIfs
/-!
# What Konnect keeps

Konnect keeps entities in collections, each by the body that it was last written with. The laws below
tell its answers from that: a creation collides with an entity that carries a uid mark of the body, an
update needs its entity, and a list call answers with the carriers of its filter.
-/
namespace GatewaySync

namespace Json

/-- The first member of an object with the given key. -/
def member? (key : String) : Json → Option Json
  | obj members => (members.find? (·.1 = key)).map (·.2)
  | _ => none

def entityTags (body : Json) : List String :=
  match body.member? "tags" with
  | some (arr items) => items.filterMap Decoder.string
  | _ => []

def entityLabel? (body : Json) (key : String) : Option String :=
  ((body.member? "labels").bind (member? key)).bind Decoder.string

end Json

namespace ListFilter

/-- Whether an entity with this body is asked for. A label is asked for by its key and its value, with
a colon between them. -/
def finds (f : ListFilter) (body : Json) : Bool :=
  match f with
  | .tag t => body.entityTags.contains t
  | .label l =>
    match Text.splitOnce ':' l.toList with
    | some (key, value) => body.entityLabel? (String.ofList key) = some (String.ofList value)
    | none => false

end ListFilter

def spellsUid (tag : String) : Bool := (Text.stripStart uidTagStart.toList tag.toList).isSome

/-- The uids that a body carries, as tags and as a label. -/
def Json.uidMarks (body : Json) : List ListFilter :=
  (body.entityTags.filter spellsUid).map .tag ++
    ((body.entityLabel? "k8s-uid").map fun uid => ListFilter.label (uidTagStart ++ uid)).toList

/-- The entities of each collection, and the ids that were given out so far. -/
@[ext] structure Inventory where
  body? : EntityPath → String → Option Json
  used : String → Prop
  accounted : ∀ p id, body? p id ≠ none → used id

namespace Inventory

def Carries (i : Inventory) (p : EntityPath) (f : ListFilter) (id : String) : Prop :=
  ∃ body, i.body? p id = some body ∧ f.finds body

def written (i : Inventory) (p : EntityPath) (id : String) (body : Json) : Inventory where
  body? q other := if q = p ∧ other = id then some body else i.body? q other
  used other := other = id ∨ i.used other
  accounted q other there := by
    split_ifs at there with same
    · exact .inl same.2
    · exact .inr (i.accounted q other there)

def Within (i j : Inventory) : Prop :=
  ∀ p id body, i.body? p id = some body → j.body? p id = some body

theorem Within.refl (i : Inventory) : i.Within i := fun _ _ _ there => there

/-- How an environment keeps an inventory and answers from it. -/
structure Laws {σ : Type} (env : Environment σ) (inventory : σ → Inventory) : Prop where
  fault : ∀ call x, inventory (env.fault call x).2 = inventory x
  disturb : ∀ call s x, inventory (env.disturb call s x).2 = inventory x
  /-- A creation collides exactly with an entity of the collection that carries a uid of the body. -/
  create_taken : ∀ p body x, (∃ f ∈ body.uidMarks, ∃ id, (inventory x).Carries p f id) →
    (∃ e, (env.answer (.create p body) x).1 = .error e ∧ e.isConflict) ∧
      inventory (env.answer (.create p body) x).2 = inventory x
  create_free : ∀ p body x, (¬ ∃ f ∈ body.uidMarks, ∃ id, (inventory x).Carries p f id) →
    ∃ r id, (env.answer (.create p body) x).1 = .ok r ∧ Entity.usableId r = some id ∧
      ¬ (inventory x).used id ∧
      inventory (env.answer (.create p body) x).2 = (inventory x).written p id body
  /-- An update fails with 404 exactly if its entity is not there, and writes at most that entity. -/
  upsert_absent : ∀ p id body x, (inventory x).body? p id = none →
    (∃ e, (env.answer (.upsert p id body) x).1 = .error e ∧ e.isNotFound) ∧
      inventory (env.answer (.upsert p id body) x).2 = inventory x
  upsert_present : ∀ p id body x, (inventory x).body? p id ≠ none →
    (∀ e, (env.answer (.upsert p id body) x).1 = .error e → e.isNotFound = false) ∧
      (inventory (env.answer (.upsert p id body) x).2 = inventory x ∨
        inventory (env.answer (.upsert p id body) x).2 = (inventory x).written p id body)
  delete : ∀ p id x, (inventory (env.answer (.delete p id) x).2).Within (inventory x)
  /-- A list call answers with each carrier of its filter once. -/
  list : ∀ p f x, ∃ found, (env.answer (.list p f) x).1 = .ok found ∧
    (found.filterMap Entity.usableId).Nodup ∧
    (∀ id, id ∈ found.filterMap Entity.usableId ↔ (inventory x).Carries p f id) ∧
    inventory (env.answer (.list p f) x).2 = inventory x
  organizationId : ∀ x, inventory (env.answer .organizationId x).2 = inventory x

end Inventory

end GatewaySync
