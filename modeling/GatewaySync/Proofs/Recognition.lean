import GatewaySync.Proofs.Cloud
import GatewaySync.Proofs.Identity
/-!
# Whose an entity is

Creating and updating send the body of the object, and searching sends its filter. The filter finds an
entity that was written for an object of the same kind exactly if the object has the same uid, whatever
tags and labels users ask for.
-/
namespace GatewaySync

def RemoteCall.body? : RemoteCall → Option Json
  | create _ body => some body
  | upsert _ _ body => some body
  | _ => none

def Pass.asked {σ α : Type} (p : Pass σ α) (o : Object) (w : World σ) : List RemoteCall :=
  (p.onObject o w).2.2.remoteCalls.drop w.remoteCalls.length

theorem Metadata.uidTag_inj {m m' : Metadata} : m.uidTag = m'.uidTag ↔ m.uidText = m'.uidText := by
  constructor
  · intro same
    apply String.toList_injective
    have same := congrArg String.toList same
    rwa [uidTag, uidTag, String.toList_append, String.toList_append, List.append_cancel_left_eq] at same
  · intro same
    rw [uidTag, uidTag, same]

theorem filter_spellsUid (m : Metadata) (kind : Kind) (specTags : List String) :
    (m.tags kind specTags).filter spellsUid = [m.uidTag] :=
  eq_singleton_of_pairwise ((pairwise_tagSet _).filter _) fun _ => mem_filter_spellsUid

theorem InKeyOrder.labelsWith {s : ControlPlaneSpec} (h : InKeyOrder s.labels)
    (identity : List (String × String)) : InKeyOrder (s.labelsWith identity) :=
  h.foldl_insertSorted identity

namespace Object

variable {o other : Object}

theorem splitOnce_uidTag (m : Metadata) :
    Text.splitOnce ':' m.uidTag.toList = some ("k8s-uid".toList, m.uidText.toList) := by
  simp [Metadata.uidTag, uidTagStart, Text.splitOnce]

/-- The filter of an object finds what was written for its uid, and nothing else. -/
theorem finds_body_iff (same : other.kind = o.kind) :
    other.listFilter.finds o.body ↔ other.metadata.uidText = o.metadata.uidText := by
  unfold listFilter
  rw [same]
  by_cases h : o.kind = .controlPlane
  · rw [if_pos h, ListFilter.finds, splitOnce_uidTag]
    simp [entityLabel?_body_controlPlane h, eq_comm]
  · have only : other.metadata.uidTag ∈ (o.metadata.tags o.kind o.spec.tags).filter spellsUid ↔
        other.metadata.uidTag = o.metadata.uidTag := mem_filter_spellsUid
    rw [if_neg h, ListFilter.finds, entityTags_body h, List.contains_iff_mem, ← Metadata.uidTag_inj,
      ← only, List.mem_filter]
    exact ⟨fun mem => ⟨mem, spellsUid_uidTag _⟩, And.left⟩

end Object

namespace Entity

variable {σ : Type} (env : Environment σ)

theorem asked_ask (call : RemoteCall) (w : World σ) :
    (w.ask env call).2.remoteCalls.drop w.remoteCalls.length = [call] := by
  rw [World.remoteCalls, World.remoteCalls, World.ask_exchanges, List.map_append]
  exact List.drop_left

section

variable {o : Object} {p : EntityPath}

theorem asked_create (path : o.path .create = .ok p) (w : World σ) :
    (create env).asked o w = [.create p o.body] := by
  have after : ((create env).onObject o w).2.2 = (w.ask env (.create p o.body)).2 := by
    rw [onObject_create env path w]
    rcases w.ask env (.create p o.body) with ⟨_ | x, w'⟩
    · rfl
    · dsimp only
      cases usableId x <;> rfl
  rw [Pass.asked, after, asked_ask]

theorem asked_update (path : o.path .update = .ok p) (known : o.konnectId ≠ "") (w : World σ) :
    (update env).asked o w = [.upsert p o.konnectId o.body] := by
  have after : ((update env).onObject o w).2.2 = (w.ask env (.upsert p o.konnectId o.body)).2 := by
    rw [onObject_update env path known w]
    rcases w.ask env (.upsert p o.konnectId o.body) with ⟨_ | x, w'⟩ <;> rfl
  rw [Pass.asked, after, asked_ask]

theorem asked_findByIdentity (path : o.path .list = .ok p) (w : World σ) :
    (findByIdentity env).asked o w = [.list p o.listFilter] := by
  rw [Pass.asked, onObject_findByIdentity env path w, asked_ask]

end

theorem body?_of_create (o : Object) (w : World σ) :
    ∀ c ∈ (create env).asked o w, c.body? = some o.body := by
  cases path : o.path .create with
  | error e => simp [Pass.asked, onObject_create_pathless env path w]
  | ok p => simp [asked_create env path w, RemoteCall.body?]

theorem body?_of_update (o : Object) (w : World σ) :
    ∀ c ∈ (update env).asked o w, c.body? = some o.body := by
  cases path : o.path .update with
  | error e => simp [Pass.asked, onObject_update_pathless env path w]
  | ok p =>
    by_cases known : o.konnectId = ""
    · simp [Pass.asked, onObject_update_unknown env path known w]
    · simp [asked_update env path known w, RemoteCall.body?]

theorem filter_of_findByIdentity (o : Object) (w : World σ) :
    ∀ c ∈ (findByIdentity env).asked o w, ∃ p, c = .list p o.listFilter := by
  cases path : o.path .list with
  | error e => simp [Pass.asked, onObject_findByIdentity_pathless env path w]
  | ok p => simp [asked_findByIdentity env path w]

end Entity

namespace Object

open Json

/-- What is written can be found again, and only by its owner. Creating and updating send the body of the
object, and searching sends its filter; they do so whenever the object has a path, and for an update an id.
The labels in the body of a control plane hold the uid under its key,
and repeat no key unless the user's do. Any other body has one tag that starts like a uid. The filter asks for
just that. So of two objects of one kind, the filter of either finds what is written for the other exactly if
they have the same uid. -/
theorem found_by_owner_only {σ : Type} (env : Environment σ) (o : Object) (w : World σ) :
    (∀ c ∈ (Entity.create env).asked o w ++ (Entity.update env).asked o w, c.body? = some o.body) ∧
    (∀ c ∈ (Entity.findByIdentity env).asked o w, ∃ p, c = .list p o.listFilter) ∧
    (∀ p, o.path .create = .ok p → (Entity.create env).asked o w = [.create p o.body]) ∧
    (∀ p, o.path .update = .ok p → o.konnectId ≠ "" →
      (Entity.update env).asked o w = [.upsert p o.konnectId o.body]) ∧
    (∀ p, o.path .list = .ok p → (Entity.findByIdentity env).asked o w = [.list p o.listFilter]) ∧
    (if o.kind = .controlPlane then
      ∃ s labels, o.spec = .controlPlane s ∧ o.body.member? "labels" = some (ofTextMap labels) ∧
        (labels.find? (·.1 = "k8s-uid")).map (·.2) = some o.metadata.uidText ∧
        (InKeyOrder s.labels → InKeyOrder labels) ∧
        o.listFilter = .label ("k8s-uid" ++ ":" ++ o.metadata.uidText)
    else
      ∃ tags, o.body.member? "tags" = some (.ofStrings tags) ∧
        tags.filter (fun tag => "k8s-uid:".toList.isPrefixOf tag.toList) = ["k8s-uid:" ++ o.metadata.uidText] ∧
        o.listFilter = .tag ("k8s-uid:" ++ o.metadata.uidText)) ∧
    ∀ other : Object, other.kind = o.kind →
      (other.listFilter.finds o.body ↔ other.metadata.uidText = o.metadata.uidText) := by
  refine ⟨?_, Entity.filter_of_findByIdentity env o w, fun p path => Entity.asked_create env path w,
    fun p path known => Entity.asked_update env path known w,
    fun p path => Entity.asked_findByIdentity env path w, ?_, fun _ same => finds_body_iff same⟩
  · exact List.forall_mem_append.mpr ⟨Entity.body?_of_create env o w, Entity.body?_of_update env o w⟩
  · split_ifs with h
    · obtain ⟨s, spec, sent⟩ := body_controlPlane h
      refine ⟨s, s.labelsWith (o.metadata.identityLabels o.kind), spec, ?_, ?_, fun map => map.labelsWith _, ?_⟩
      · rw [sent, member?_labels]
      · exact find?_labelsWith_uid s o.metadata o.kind
      · rw [listFilter, if_pos h]
        rfl
    · refine ⟨o.tags, (member?_bodyWith h o.tags).1, ?_, if_neg h⟩
      have spelled := filter_spellsUid o.metadata o.kind o.spec.tags
      rwa [funext spellsUid_eq] at spelled

section

open Scene

/-- The service with the id `e`, whose user asks for the tag of another service; and that one. -/
def spoofing : Object :=
  { web with
    spec := .service ⟨some (.konnectId "cp"), none, "example.org", none, none, none, none, ["k8s-uid:u-2"]⟩
    status := some ⟨⟨"e", "", "", "cp", ""⟩, []⟩ }

def spoofed : Object := { spoofing with metadata := { web.metadata with uid := some "u-2" } }

/-- The tag that the user asks for does not show the service to the other one. -/
theorem spoofing_found_by_owner_only :
    (Entity.create calm).asked spoofing (fresh []) = [.create services spoofing.body] ∧
      (Entity.update calm).asked spoofing (fresh []) = [.upsert services "e" spoofing.body] ∧
      (Entity.findByIdentity calm).asked spoofing (fresh []) = [.list services (.tag "k8s-uid:u-1")] ∧
      spoofing.listFilter.finds spoofing.body ∧ ¬ spoofed.listFilter.finds spoofing.body := by
  obtain ⟨-, -, created, updated, searched, -, found⟩ := found_by_owner_only calm spoofing (fresh [])
  exact ⟨created services rfl, updated services rfl (by decide), searched services rfl,
    (found spoofing rfl).mpr rfl, fun other => absurd ((found spoofed rfl).mp other) (by decide)⟩

end

end Object

end GatewaySync
