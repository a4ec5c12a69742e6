import GatewaySync.Resource.Conditions
import GatewaySync.Sync.Error
/-!
# The object store of the cluster

Objects are held under their keys. Every write takes a new revision from one counter and stamps it on
the object as its resource version. A patch is refused if its object is gone or was written since.
-/
namespace GatewaySync

structure Store where
  entries : List (Key × Resource)
  revision : Nat
  /-- Every resource is held under its own key. -/
  keyed : ∀ e ∈ entries, e.2.key = e.1

namespace Store

def empty : Store := ⟨[], 0, by simp⟩

def find? (s : Store) (k : Key) : Option Resource := (s.entries.find? (·.1 = k)).map (·.2)

def findObject? (s : Store) (k : Key) : Option Object :=
  match s.find? k with
  | some (.managed o) => some o
  | _ => none

def set (k : Key) (r : Resource) : List (Key × Resource) → List (Key × Resource)
  | [] => [(k, r)]
  | e :: rest => if e.1 = k then (k, r) :: rest else e :: set k r rest

theorem mem_set {k : Key} {r : Resource} {es : List (Key × Resource)} {e : Key × Resource}
    (h : e ∈ set k r es) : e = (k, r) ∨ e ∈ es := by
  induction es with
  | nil => simpa [set] using h
  | cons d rest ih =>
    unfold set at h
    split at h
    · rcases List.mem_cons.mp h with h | h
      · exact .inl h
      · exact .inr (List.mem_cons_of_mem d h)
    · rcases List.mem_cons.mp h with h | h
      · exact .inr (h ▸ List.mem_cons_self)
      · exact (ih h).imp_right (List.mem_cons_of_mem d)

def erase (s : Store) (k : Key) : Store where
  entries := s.entries.filter (·.1 != k)
  revision := s.revision
  keyed e h := s.keyed e (List.mem_filter.mp h).1

/-- The resource with the resource version of a revision, as it is stored. -/
def stamp (r : Resource) (revision : Nat) : Resource :=
  (r.withMetadata { r.metadata with resourceVersion := some (toString revision) }).stored

@[simp] theorem stamp_key (r : Resource) (revision : Nat) : (stamp r revision).key = r.key := by
  cases r with
  | managed o => exact Object.stored_key _
  | plugin p => rfl

/-- Writes a resource under its key at the next revision. -/
def put (s : Store) (r : Resource) : Store where
  entries := set r.key (stamp r (s.revision + 1)) s.entries
  revision := s.revision + 1
  keyed e h := by
    rcases mem_set h with rfl | h
    · exact stamp_key r _
    · exact s.keyed e h

def absent (k : Key) : ApiError :=
  ⟨"Failure", k.kind.name ++ " " ++ k.ns ++ "/" ++ k.name ++ " not found", "NotFound", 404⟩

def modified : ApiError := ⟨"Failure", "the object has been modified", "Conflict", 409⟩

/-- The stored object that a patch of the given one applies to. -/
def patchTarget (s : Store) (given : Object) : Except ApiError Object :=
  match s.findObject? given.key with
  | none => .error (absent given.key)
  | some stored =>
    if stored.metadata.resourceVersion = given.metadata.resourceVersion then .ok stored
    else .error modified

def statusPatched (stored given : Object) : Object :=
  { stored with status := given.status.or stored.status }

def metadataPatched (stored given : Object) : Object :=
  { stored with
    metadata := { stored.metadata with
      finalizers := given.metadata.finalizers
      ownerReferences := given.metadata.ownerReferences } }

def patchStatus (s : Store) (given : Object) : Except ApiError Unit × Store :=
  match s.patchTarget given with
  | .error e => (.error e, s)
  | .ok stored => (.ok (), s.put (.managed (statusPatched stored given)))

/-- Writes the finalizers and owners of the given object. An object that is being deleted goes away
with its last finalizer; the answer is then `none`. -/
def patchMetadata (s : Store) (given : Object) : Except ApiError (Option Object) × Store :=
  match s.patchTarget given with
  | .error e => (.error e, s)
  | .ok stored =>
    if stored.metadata.isDeleting ∧ given.metadata.finalizerList = [] then
      (.ok none, s.erase given.key)
    else
      let s := s.put (.managed (metadataPatched stored given))
      (.ok (s.findObject? given.key), s)

end Store

end GatewaySync
