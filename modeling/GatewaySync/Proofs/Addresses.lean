import GatewaySync.Konnect.Client
import GatewaySync.Proofs.CallDiscipline
import GatewaySync.Proofs.Cloud
import GatewaySync.Proofs.Operations
import GatewaySync.Proofs.TagSets
/-!
# What a request path addresses

A path is written from ids and fixed words, which may be spelt alike. As long as no slash is in an id or a
name, the text of a path can be read back: the number of its segments tells whether it is of a collection or
of one entity, and how deep the collection lies. So the requests of a pass name the collection of its object
and no other. What a server makes of other marks in an id is not a matter of the text.
-/
namespace GatewaySync

namespace EntityPath

/-- What the path of the collection is written from, apart from the fixed words. -/
def components : EntityPath → List String
  | global collection => [collection]
  | controlPlane id collection => [id, collection]
  | nested id parentCollection parentId collection => [id, parentCollection, parentId, collection]

def collection : EntityPath → String
  | global collection => collection
  | controlPlane _ collection => collection
  | nested _ _ _ collection => collection

def parentId? : EntityPath → Option String
  | nested _ _ parentId _ => some parentId
  | _ => none

theorem toList_join (segments : List String) :
    (join segments).toList = ['/'].intercalate ([] :: segments.map String.toList) := by
  induction segments with
  | nil => rfl
  | cons s rest ih =>
    have joined : join (s :: rest) = "/" ++ s ++ join rest := by simp [join]
    rw [joined, String.toList_append, String.toList_append, ih]
    cases rest <;> simp [List.intercalate]

/-- Segments without a slash are what stands between the slashes of their path. Nothing is before the first. -/
theorem separated_join {segments : List String} (plain : ∀ s ∈ segments, '/' ∉ s.toList) :
    Text.Separated '/' (join segments).toList ([] :: segments.map String.toList) where
  exist := List.cons_ne_nil _ _
  joined := (toList_join segments).symm
  apart := by simpa using plain

end EntityPath

/-- What a request is about: a collection, or one entity of it. -/
inductive Address where
  | collection (path : EntityPath)
  | entity (path : EntityPath) (id : String)
  deriving DecidableEq, Repr

namespace Address

variable {a b : Address}

def path : Address → EntityPath
  | collection p => p
  | entity p _ => p

def text : Address → String
  | collection p => p.collectionPath
  | entity p id => p.entityPath id

def segments : Address → List String
  | collection p => p.segments
  | entity p id => p.segments ++ [id]

def components : Address → List String
  | collection p => p.components
  | entity p id => p.components ++ [id]

/-- No slash is in the ids and the names of collections. They may be empty, or spelt like a fixed word. -/
def Plain (a : Address) : Prop := ∀ c ∈ a.components, '/' ∉ c.toList

instance : DecidablePred Plain := fun a => inferInstanceAs (Decidable (∀ c ∈ a.components, '/' ∉ c.toList))

theorem text_eq (a : Address) : a.text = EntityPath.join a.segments := by
  cases a <;> rfl

theorem plain_iff : a.Plain ↔ ∀ s ∈ a.segments, '/' ∉ s.toList := by
  rcases a with (_ | _ | _) | ⟨_ | _ | _, _⟩ <;>
    simp [Plain, segments, components, EntityPath.segments, EntityPath.components]

/-- The address with the given segments. Each form has its own number of them. -/
def ofSegments? : List String → Option Address
  | ["v2", name] => some (.collection (.global name))
  | ["v2", name, id] => some (.entity (.global name) id)
  | ["v2", "control-planes", plane, "core-entities", name] => some (.collection (.controlPlane plane name))
  | ["v2", "control-planes", plane, "core-entities", name, id] => some (.entity (.controlPlane plane name) id)
  | ["v2", "control-planes", plane, "core-entities", parents, parent, name] =>
    some (.collection (.nested plane parents parent name))
  | ["v2", "control-planes", plane, "core-entities", parents, parent, name, id] =>
    some (.entity (.nested plane parents parent name) id)
  | _ => none

theorem ofSegments?_eq_some_iff {segments : List String} : ofSegments? segments = some a ↔ a.segments = segments := by
  constructor
  · intro read
    unfold ofSegments? at read
    split at read <;> cases read <;> rfl
  · rintro rfl
    rcases a with (_ | _ | _) | ⟨_ | _ | _, _⟩ <;> rfl

/-- The address that a path is read as. A path begins with a slash. -/
def ofText? (text : String) : Option Address :=
  match Text.splitOn '/' text.toList with
  | [] :: pieces => ofSegments? (pieces.map String.ofList)
  | _ => none

/-- Exactly what is written of an address without further slashes is read as that address. -/
theorem ofText?_eq_some_iff {text : String} : ofText? text = some a ↔ a.Plain ∧ a.text = text := by
  rw [plain_iff, text_eq]
  constructor
  · intro read
    unfold ofText? at read
    split at read
    · rename_i pieces split
      obtain ⟨-, joined, apart⟩ := Text.separated_iff.mpr split
      have pieces_eq : a.segments.map String.toList = pieces := by
        simp [ofSegments?_eq_some_iff.mp read, Function.comp_def]
      rw [← pieces_eq] at joined apart
      refine ⟨by simpa using apart, ?_⟩
      rw [← String.toList_inj, EntityPath.toList_join, joined]
    · cases read
  · rintro ⟨plain, rfl⟩
    rw [ofText?, Text.separated_iff.mp (EntityPath.separated_join plain)]
    simp [ofSegments?_eq_some_iff, Function.comp_def]

theorem Plain.text_inj (plain : a.Plain) (plain' : b.Plain) : a.text = b.text ↔ a = b := by
  refine ⟨fun same => ?_, congrArg text⟩
  have read : ofText? a.text = some a := ofText?_eq_some_iff.mpr ⟨plain, rfl⟩
  have read' : ofText? a.text = some b := ofText?_eq_some_iff.mpr ⟨plain', same.symm⟩
  exact Option.some.inj (read.symm.trans read')

end Address

/-- A slash in a name makes another path of it. -/
example : (EntityPath.controlPlane "cp" "consumers/c/key-auth").collectionPath =
    (EntityPath.nested "cp" "consumers" "c" "key-auth").collectionPath := by decide

namespace RemoteCall

/-- What a call is about. Only the organization is asked for apart from any collection. -/
def address? : RemoteCall → Option Address
  | create p _ => some (.collection p)
  | upsert p id _ => some (.entity p id)
  | delete p id => some (.entity p id)
  | list p _ => some (.collection p)
  | organizationId => none

def query : RemoteCall → String
  | list _ filter => "?" ++ Http.Form.pair filter.query.1 filter.query.2
  | _ => ""

theorem target_eq {c : RemoteCall} {a : Address} (about : c.address? = some a) :
    Konnect.Client.target c = a.text ++ c.query := by
  cases c with
  | create | upsert | delete =>
    cases about
    exact String.append_empty.symm
  | list =>
    cases about
    exact String.append_assoc
  | organizationId => cases about

end RemoteCall

section

variable {p : EntityPath} {body : Json} {filter : ListFilter} {talk : List Exchange} {ok : Bool}
  {known id : String} {x : Exchange} {a : Address}

theorem Creation.path_eq (h : Creation p body filter talk ok id) (hx : x ∈ talk)
    (about : x.call.address? = some a) : a.path = p := by
  cases h with
  | created | unnamed | refused =>
    obtain rfl := List.mem_singleton.mp hx
    cases about
    rfl
  | adopted | contested | unlisted =>
    simp only [List.mem_cons, List.not_mem_nil, or_false] at hx
    rcases hx with rfl | rfl <;> cases about <;> rfl

theorem Writing.path_eq (h : Writing p body filter known talk ok id) (hx : x ∈ talk)
    (about : x.call.address? = some a) : a.path = p := by
  cases h with
  | created h => exact h.path_eq hx about
  | updated | refused =>
    obtain rfl := List.mem_singleton.mp hx
    cases about
    rfl
  | recreated _ _ h =>
    rcases List.mem_cons.mp hx with rfl | hx
    · cases about
      rfl
    · exact h.path_eq hx about

theorem Deletion.path_eq (h : Deletion p known talk ok) (hx : x ∈ talk)
    (about : x.call.address? = some a) : a.path = p := by
  obtain ⟨s, answer, rfl⟩ := h.talk_eq
  obtain rfl := List.mem_singleton.mp hx
  cases about
  rfl

end

theorem ManagedKind.find?_collection (kind : ManagedKind) :
    all.find? (·.collection = kind.collection) = some kind := by
  cases kind <;> decide +kernel

theorem ManagedKind.collection_injective : Function.Injective collection := by
  intro kind kind' same
  rw [← Option.some_inj, ← kind.find?_collection, same, kind'.find?_collection]

namespace Object

variable {o other : Object}

/-- The entities of the objects are in one collection: they are of one kind, in one control plane if the kind
lives in any, and under one consumer if they are credentials. -/
structure SharesCollection (o other : Object) : Prop where
  kind : other.kind = o.kind
  controlPlaneId : o.kind.controlPlaneScoped → other.controlPlaneId = o.controlPlaneId
  parentId : o.kind = .apiKey ∨ o.kind = .basicAuth → other.parentId = o.parentId

theorem place_of_path {op : Operation} {p : EntityPath} (path : o.path op = .ok p) : o.place = p := by
  rcases o.path_cases op with ⟨e, -, pathless⟩ | ⟨placed, -⟩
  · rw [pathless] at path
    cases path
  · exact Except.ok.inj (placed.symm.trans path)

theorem collection_place (o : Object) : o.place.collection = o.kind.collection := by
  unfold place
  split <;> rfl

theorem controlPlaneId?_place (o : Object) :
    o.place.controlPlaneId? = if o.kind.controlPlaneScoped then some o.controlPlaneId else none := by
  unfold place
  cases o.kind <;> rfl

theorem parentId?_place (o : Object) :
    o.place.parentId? = if o.kind = .apiKey ∨ o.kind = .basicAuth then some o.parentId else none := by
  unfold place
  cases o.kind <;> rfl

theorem sharesCollection_of_place (same : other.place = o.place) : o.SharesCollection other := by
  have kind : other.kind = o.kind := by
    apply ManagedKind.collection_injective
    rw [← collection_place, same, collection_place]
  refine ⟨kind, fun inPlane => ?_, fun credential => ?_⟩
  · have planes := congrArg EntityPath.controlPlaneId? same
    rwa [controlPlaneId?_place, controlPlaneId?_place, kind, if_pos inPlane, if_pos inPlane,
      Option.some.injEq] at planes
  · have parents := congrArg EntityPath.parentId? same
    rwa [parentId?_place, parentId?_place, kind, if_pos credential, if_pos credential,
      Option.some.injEq] at parents

end Object

namespace Reconcile

section

variable {σ : Type} {env : Environment σ} {settings : OperatorSettings} {k : Key} {o : Object}
  {w w' : World σ} {talk : List Exchange} {x : Exchange} {a : Address}

/-- The object that a pass speaks of: as it was read if it is to be deleted, and with the ids that its
references came to if it is to be written. -/
def SpeaksOf (env : Environment σ) (k : Key) (w : World σ) (o : Object) : Prop :=
  (∃ w₁, Reads env k w o w₁ ∧ o.need = .cleanup) ∨ ∃ found w₂, Prepares env k w found o w₂

theorem SpeaksOf.key (h : SpeaksOf env k w o) : o.key = k := by
  rcases h with ⟨w₁, reads, -⟩ | ⟨found, w₂, w₀, o₁, w₁, reads, -, resolved, prepared⟩
  · exact reads.key
  · exact (prepared_of_resolved resolved prepared).key.trans reads.key

theorem Spoken.path_eq {ok : Bool} {id : String} (h : Spoken o talk ok id) (hx : x ∈ talk)
    (about : x.call.address? = some a) : a.path = o.place := by
  cases h with
  | pathless => cases hx
  | written path spoken =>
    rcases List.mem_append.mp hx with hx | hx
    · exact (spoken.path_eq hx about).trans (Object.place_of_path path).symm
    · obtain rfl := List.mem_singleton.mp hx
      cases about
  | unwritten path spoken => exact (spoken.path_eq hx about).trans (Object.place_of_path path).symm

theorem Farewell.path_eq (h : Farewell o talk) (hx : x ∈ talk) (about : x.call.address? = some a) :
    a.path = o.place := by
  cases h with
  | unknown | pathless => cases hx
  | said _ path spoken => exact (spoken.path_eq hx about).trans (Object.place_of_path path).symm

/-- All that a pass asks is about the collection of the object that it speaks of. -/
theorem Course.path_eq {r : Except SyncError Action} (h : Course env settings k w talk r w') (hx : x ∈ talk)
    (about : x.call.address? = some a) : ∃ o, SpeaksOf env k w o ∧ a.path = o.place := by
  cases h with
  | unread | idle => cases hx
  | cleaned _ reads need course => exact ⟨_, .inl ⟨_, reads, need⟩, course.farewell.path_eq hx about⟩
  | synced _ reads need course =>
    rcases course.talk_cases reads need with ⟨rfl, -⟩ | ⟨o₂, w₂, ok, id, w₃, prepares, spoken, -⟩
    · cases hx
    · exact ⟨o₂, .inr ⟨_, w₂, prepares⟩, spoken.path_eq hx about⟩

end

/-- Two paths without a slash in what they are written from, of collections or of entities, are the same text
only if they have the same form and agree in all ids and names. What a pass asks goes to the path of the
collection of the object that it speaks of, or of an entity in there. Such a path belongs to no other kind of
object, to no other control plane and to no other parent. -/
theorem paths_identify :
    (∀ a b : Address, a.Plain → b.Plain → (a.text = b.text ↔ a = b)) ∧
      ∀ {σ : Type} (env : Environment σ) (settings : OperatorSettings) (kind : ManagedKind) (ns name : String)
        (w : World σ), ∀ x ∈ (visit env settings kind ns name w).talk, ∀ a, x.call.address? = some a →
        Konnect.Client.target x.call = a.text ++ x.call.query ∧
          ∃ o : Object, SpeaksOf env ⟨kind, ns, name⟩ w o ∧ o.key = ⟨kind, ns, name⟩ ∧ a.path = o.place ∧
            (a.Plain → ∀ (other : Object) (b : Address), b.path = other.place → b.Plain → b.text = a.text →
              o.SharesCollection other) := by
  refine ⟨fun a b plain plain' => plain.text_inj plain', ?_⟩
  intro σ env settings kind ns name w x said a about
  obtain ⟨o, own, path⟩ := (visit_course env settings kind ns name w).path_eq said about
  refine ⟨RemoteCall.target_eq about, o, own, own.key, path, fun plain other b there plain' same => ?_⟩
  obtain rfl := (plain'.text_inj plain).mp same
  exact Object.sharesCollection_of_place (there.symm.trans path)

section

open Scene

def lookalike : Address := .entity (.nested "control-planes" "core-entities" "" "services") "v2"

/-- A service in the control plane `cp`, with the id of a parent that services do not have. -/
def neighbour : Object := (web.withControlPlaneId "cp").withParentId "services"

/-- The service is asked for where every service in its control plane is, which is nowhere near the lookalike. -/
theorem web_addressed :
    lookalike.Plain ∧ lookalike.text ≠ services.collectionPath ∧
      ∃ x ∈ (opening calm []).talk, x.call.address? = some (.collection services) ∧
        Konnect.Client.target x.call = services.collectionPath ++ x.call.query ∧
          ∃ o : Object, SpeaksOf calm webKey (fresh []) o ∧ o.place = services ∧ o.controlPlaneId = "cp" := by
  have plain : (Address.collection services).Plain := by decide
  have lookalike_plain : lookalike.Plain := by decide
  have asked : some (Address.collection services) ∈ (opening calm []).talk.map (·.call.address?) := by
    decide +kernel
  obtain ⟨x, said, about⟩ := List.mem_map.mp asked
  obtain ⟨target, o, own, key, path, only⟩ := paths_identify.2 calm OperatorSettings.default .service "shop" "web"
    (fresh []) x said _ about
  have shares := only plain neighbour (.collection services) (by decide +kernel) plain rfl
  refine ⟨lookalike_plain, fun same => ?_, x, said, about, target, o, own, path.symm, ?_⟩
  · cases (paths_identify.1 _ (.collection services) lookalike_plain plain).mp same
  · exact (shares.controlPlaneId (by rw [Object.kind_of_key key]; rfl)).symm

end

end Reconcile

end GatewaySync
