import GatewaySync.Resource.Object
import GatewaySync.Text.Blank
/-!
# Identity of remote entities

Every remote entity carries tags, or labels where the API takes labels, that tell which object it
belongs to. Only the tag with the uid is ever searched for; a user can not set one of that form.
-/
namespace GatewaySync

/-- The annotation that holds further user tags, separated by commas. -/
def tagsAnnotation : String := "konghq.com/tags"

def uidTagStart : String := "k8s-uid:"

/-- Inserts into a strictly increasing list, unless the element is there. -/
def insertTag (tag : String) : List String → List String
  | [] => [tag]
  | t :: rest =>
    if tag = t then t :: rest
    else if tag < t then tag :: t :: rest
    else t :: insertTag tag rest

/-- The strictly increasing list of the given elements. -/
def tagSet (tags : List String) : List String := tags.foldl (fun set tag => insertTag tag set) []

def Metadata.uidTag (m : Metadata) : String := uidTagStart ++ m.uidText

/-- What identifies an object: names, values. -/
def Metadata.identity (m : Metadata) (kind : Kind) : List (String × String) :=
  [("k8s-kind", kind.name), ("k8s-name", m.nameText), ("k8s-namespace", m.namespaceText),
    ("k8s-uid", m.uidText), ("k8s-generation", toString m.generationValue),
    ("k8s-group", kind.group), ("k8s-version", kind.version)]

def Metadata.identityTags (m : Metadata) (kind : Kind) : List String :=
  (m.identity kind).map fun (name, value) => name ++ ":" ++ value

/-- The identity as labels in key order. -/
def Metadata.identityLabels (m : Metadata) (kind : Kind) : List (String × String) :=
  (m.identity kind).foldl (fun sorted (name, value) => Json.Decoder.insertSorted name value sorted) []

def Metadata.annotatedTags (m : Metadata) : List String :=
  match ((m.annotations.getD []).find? (·.1 = tagsAnnotation)) with
  | some (_, raw) => (Text.splitOn ',' raw.toList).map String.ofList
  | none => []

/-- A user tag without the blanks around it, unless nothing is left or it spells a uid. -/
def userTag? (raw : String) : Option String :=
  let tag := Text.trim raw.toList
  if tag = [] ∨ (Text.stripStart uidTagStart.toList tag).isSome then none else some (String.ofList tag)

/-- The tags that users ask for, in the annotation and in the desired state. -/
def Metadata.userTags (m : Metadata) (specTags : List String) : List String :=
  (m.annotatedTags ++ specTags).filterMap userTag?

/-- All tags of an object, in order and without repetition. -/
def Metadata.tags (m : Metadata) (kind : Kind) (specTags : List String) : List String :=
  tagSet (m.userTags specTags ++ m.identityTags kind)

def Object.tags (o : Object) : List String := o.metadata.tags o.kind o.spec.tags

end GatewaySync
