import GatewaySync.Proofs.Execution
import GatewaySync.Proofs.Surroundings
import GatewaySync.Sync.Entity
/-!
# The protocol of a write

Bringing an entity up to date is a short dialogue with Konnect. A creation that collides is followed by
one list call, an update whose entity is gone by one creation, and nothing else follows anything. The
grammar below fixes these dialogues by the answers alone; each write is shown to speak it.
-/
namespace GatewaySync

namespace SyncError

/-- A failure that is found before Konnect is called: an id that a path needs is not there. -/
def isMissingReference : SyncError → Bool
  | missingControlPlaneId .. => true
  | missingParent .. => true
  | _ => false

def isOperational : SyncError → Bool
  | missingControlPlaneId .. => true
  | missingParent .. => true
  | missingKonnectId .. => true
  | remote .. => true
  | emptyResponse .. => true
  | identityNotFound .. => true
  | ambiguousIdentity .. => true
  | _ => false

theorem isOperational_of_isMissingReference {e : SyncError} (h : e.isMissingReference) :
    e.isOperational := by
  cases e <;> simp_all [isMissingReference, isOperational]

theorem isRemoteConflict_of_isMissingReference {e : SyncError} (h : e.isMissingReference) :
    e.isRemoteConflict = false := by
  cases e <;> simp_all [isMissingReference, isRemoteConflict]

theorem isRemoteNotFound_of_isMissingReference {e : SyncError} (h : e.isMissingReference) :
    e.isRemoteNotFound = false := by
  cases e <;> simp_all [isMissingReference, isRemoteNotFound]

end SyncError

namespace Object

variable {o : Object}

theorem controlPlanePath_error {op : Operation} {e : SyncError}
    (h : o.controlPlanePath op = .error e) : e.isMissingReference := by
  unfold controlPlanePath at h
  split_ifs at h
  cases h
  rfl

theorem nestedPath_error {op : Operation} {parent : ManagedKind} {e : SyncError}
    (h : o.nestedPath op parent = .error e) : e.isMissingReference := by
  unfold nestedPath at h
  split_ifs at h <;> cases h <;> rfl

/-- A collection is unknown only for want of an id. -/
theorem path_error {op : Operation} {e : SyncError} (h : o.path op = .error e) :
    e.isMissingReference := by
  unfold path at h
  split at h
  · cases h
  · exact nestedPath_error h
  · exact nestedPath_error h
  · split_ifs at h
    · cases h
      rfl
    · exact controlPlanePath_error h
  · exact controlPlanePath_error h

theorem controlPlanePath_of {op op' : Operation} {p : EntityPath}
    (h : o.controlPlanePath op = .ok p) : o.controlPlanePath op' = .ok p := by
  unfold controlPlanePath at *
  split_ifs at * with hc
  exact h

theorem nestedPath_of {op op' : Operation} {parent : ManagedKind} {p : EntityPath}
    (h : o.nestedPath op parent = .ok p) : o.nestedPath op' parent = .ok p := by
  unfold nestedPath at *
  split_ifs at * with hc hp
  exact h

theorem lacksPlugin_of_path {op : Operation} {p : EntityPath} (h : o.path op = .ok p) :
    o.lacksPlugin op = false := by
  refine Bool.eq_false_iff.mpr fun hl => ?_
  have hk : o.kind = .pluginBinding := by
    simp only [lacksPlugin, Bool.and_eq_true, decide_eq_true_eq] at hl
    exact hl.1.1
  simp [path, hk, hl] at h

/-- All operations on an entity go to the same collection. -/
theorem path_of_path {op op' : Operation} {p : EntityPath} (h : o.path op = .ok p)
    (hl : o.lacksPlugin op' = false) : o.path op' = .ok p := by
  have hl' := lacksPlugin_of_path h
  unfold path at *
  cases hk : o.kind <;> simp only [hk, hl, hl', Bool.false_eq_true, if_false] at h ⊢
  case controlPlane => exact h
  case apiKey => exact nestedPath_of h
  case basicAuth => exact nestedPath_of h
  all_goals exact controlPlanePath_of h

theorem path_list {op : Operation} {p : EntityPath} (h : o.path op = .ok p) :
    o.path .list = .ok p := path_of_path h (by simp [lacksPlugin])

theorem path_delete {op : Operation} {p : EntityPath} (h : o.path op = .ok p) :
    o.path .delete = .ok p := path_of_path h (by simp [lacksPlugin])

theorem lacksPlugin_update (o : Object) : o.lacksPlugin .update = o.lacksPlugin .create := by
  simp [lacksPlugin]

theorem path_update {p : EntityPath} : o.path .update = .ok p ↔ o.path .create = .ok p :=
  ⟨fun h => path_of_path h (o.lacksPlugin_update.symm.trans (lacksPlugin_of_path h)),
    fun h => path_of_path h (o.lacksPlugin_update.trans (lacksPlugin_of_path h))⟩

@[simp] theorem withId_controlPlaneId (o : Object) (id : String) :
    (o.withId id).controlPlaneId = o.controlPlaneId := by
  simp [withId, controlPlaneId]

@[simp] theorem withId_parentId (o : Object) (id : String) : (o.withId id).parentId = o.parentId := by
  simp [withId, parentId]

theorem path_congr {a b : Object} (op : Operation) (kind : a.kind = b.kind)
    (text : a.keyText = b.keyText) (plugin : a.lacksPlugin op = b.lacksPlugin op)
    (controlPlane : a.controlPlaneId = b.controlPlaneId) (parent : a.parentId = b.parentId) :
    a.path op = b.path op := by
  have nested (parent : ManagedKind) : a.nestedPath op parent = b.nestedPath op parent := by
    simp [nestedPath, *]
  have direct : a.controlPlanePath op = b.controlPlanePath op := by
    simp [controlPlanePath, *]
  unfold path
  rw [kind, plugin, nested, direct, text]

theorem path_delete_congr {a b : Object} (key : a.key = b.key)
    (controlPlane : a.controlPlaneId = b.controlPlaneId) (parent : a.parentId = b.parentId) :
    a.path .delete = b.path .delete := by
  have kind : a.kind = b.kind := Object.kind_of_key_eq key
  have ns : a.metadata.namespaceText = b.metadata.namespaceText := congrArg Key.ns key
  have name : a.metadata.nameText = b.metadata.nameText := congrArg Key.name key
  exact path_congr .delete kind (by simp [keyText, Metadata.keyText, ns, name])
    (by simp [lacksPlugin]) controlPlane parent

theorem konnect_congr {a b : Object} (h : a.status = b.status) : a.konnect = b.konnect := by
  simp only [konnect, h]

theorem konnectId_congr {a b : Object} (h : a.status = b.status) : a.konnectId = b.konnectId :=
  congrArg Coordinates.id (konnect_congr h)

theorem body_congr {a b : Object} (hm : a.metadata = b.metadata) (hs : a.spec = b.spec)
    (hp : a.parentId = b.parentId) : a.body = b.body := by
  have hk : a.kind = b.kind := congrArg Spec.kind hs
  simp only [body, bodyWith, tags, hk, hm, hs, hp]

theorem listFilter_congr {a b : Object} (key : a.key = b.key)
    (uid : a.metadata.uid = b.metadata.uid) : a.listFilter = b.listFilter := by
  have kind : a.kind = b.kind := Object.kind_of_key_eq key
  simp only [listFilter, Metadata.uidTag, Metadata.uidText, kind, uid]

end Object

/-- How a creation can go: what is said, whether the entity is there afterwards, and the id that is
known of it. -/
inductive Creation (p : EntityPath) (body : Json) (filter : ListFilter) :
    List Exchange → Bool → String → Prop
  | created {s : Store} {x : RemoteEntity} {id : String} (named : Entity.usableId x = some id) :
      Creation p body filter [⟨s, .create p body, .ok x⟩] true id
  | unnamed {s : Store} {x : RemoteEntity} (unnamed : Entity.usableId x = none) :
      Creation p body filter [⟨s, .create p body, .ok x⟩] false ""
  | refused {s : Store} {e : RemoteError} (other : e.isConflict = false) :
      Creation p body filter [⟨s, .create p body, .error e⟩] false ""
  | adopted {s t : Store} {e : RemoteError} {found : List RemoteEntity} {id : String}
      (conflict : e.isConflict = true) (one : found.filterMap Entity.usableId = [id]) :
      Creation p body filter [⟨s, .create p body, .error e⟩, ⟨t, .list p filter, .ok found⟩] true id
  | contested {s t : Store} {e : RemoteError} {found : List RemoteEntity}
      (conflict : e.isConflict = true) (many : ∀ id, found.filterMap Entity.usableId ≠ [id]) :
      Creation p body filter [⟨s, .create p body, .error e⟩, ⟨t, .list p filter, .ok found⟩] false ""
  | unlisted {s t : Store} {e e' : RemoteError} (conflict : e.isConflict = true) :
      Creation p body filter [⟨s, .create p body, .error e⟩, ⟨t, .list p filter, .error e'⟩] false ""

/-- How a write of the entity with the given id can go; no id means that there is none yet. -/
inductive Writing (p : EntityPath) (body : Json) (filter : ListFilter) :
    String → List Exchange → Bool → String → Prop
  | created {talk : List Exchange} {ok : Bool} {id : String} (h : Creation p body filter talk ok id) :
      Writing p body filter "" talk ok id
  | updated {s : Store} {known : String} {x : RemoteEntity} (hk : known ≠ "") :
      Writing p body filter known [⟨s, .upsert p known body, .ok x⟩] true known
  | refused {s : Store} {known : String} {e : RemoteError} (hk : known ≠ "")
      (there : e.isNotFound = false) :
      Writing p body filter known [⟨s, .upsert p known body, .error e⟩] false known
  | recreated {s : Store} {known : String} {e : RemoteError} {talk : List Exchange} {ok : Bool}
      {id : String} (hk : known ≠ "") (gone : e.isNotFound = true)
      (h : Creation p body filter talk ok id) :
      Writing p body filter known (⟨s, .upsert p known body, .error e⟩ :: talk) ok id

/-- How the deletion of an entity can go; that it is gone already is as good. -/
inductive Deletion (p : EntityPath) (known : String) : List Exchange → Bool → Prop
  | deleted {s : Store} : Deletion p known [⟨s, .delete p known, .ok ()⟩] true
  | gone {s : Store} {e : RemoteError} (gone : e.isNotFound = true) :
      Deletion p known [⟨s, .delete p known, .error e⟩] true
  | refused {s : Store} {e : RemoteError} (there : e.isNotFound = false) :
      Deletion p known [⟨s, .delete p known, .error e⟩] false

theorem usableId_ne_empty {x : RemoteEntity} {id : String} (h : Entity.usableId x = some id) :
    id ≠ "" := by
  simpa using (Option.filter_eq_some_iff.mp h).2

namespace Exchange

def created? : Exchange → Option (EntityPath × String)
  | ⟨_, .create p _, .ok x⟩ => (Entity.usableId x).map (p, ·)
  | _ => none

/-- The entity that an answer tells to be the one of the object: it was created, written or found. -/
def names? : Exchange → Option (EntityPath × String)
  | ⟨_, .create p _, .ok x⟩ => (Entity.usableId x).map (p, ·)
  | ⟨_, .upsert p id _, .ok _⟩ => some (p, id)
  | ⟨_, .list p _, .ok found⟩ =>
    match found.filterMap Entity.usableId with
    | [id] => some (p, id)
    | _ => none
  | _ => none

/-- The entity that an answer tells to be gone: it was deleted, or it is not there. -/
def gone? : Exchange → Option (EntityPath × String)
  | ⟨_, .delete p id, .ok _⟩ => some (p, id)
  | ⟨_, .delete p id, .error e⟩ => if e.isNotFound then some (p, id) else none
  | ⟨_, .upsert p id _, .error e⟩ => if e.isNotFound then some (p, id) else none
  | _ => none

def about? : Exchange → Option (EntityPath × String)
  | ⟨_, .upsert p id _, _⟩ => some (p, id)
  | ⟨_, .delete p id, _⟩ => some (p, id)
  | _ => none

def written? : Exchange → Option (EntityPath × Json)
  | ⟨_, .create p body, _⟩ => some (p, body)
  | ⟨_, .upsert p _ body, _⟩ => some (p, body)
  | _ => none

theorem ne_empty_of_created? {x : Exchange} {p : EntityPath} {id : String}
    (h : x.created? = some (p, id)) : id ≠ "" := by
  unfold created? at h
  split at h
  · obtain ⟨id', named, same⟩ := Option.map_eq_some_iff.mp h
    cases same
    exact usableId_ne_empty named
  · cases h

theorem about?_of_gone? {x : Exchange} {e : EntityPath × String} (h : x.gone? = some e) :
    x.about? = some e := by
  unfold gone? at h
  split at h
  · exact h
  · exact (Option.ite_none_right_eq_some.mp h).2
  · exact (Option.ite_none_right_eq_some.mp h).2
  · cases h

end Exchange

section

variable {p q : EntityPath} {body : Json} {filter : ListFilter} {talk : List Exchange} {ok : Bool}
  {known id other : String} {x : Exchange}

theorem Creation.of_created (h : Creation p body filter talk ok id) (hx : x ∈ talk)
    (created : x.created? = some (q, other)) : q = p ∧ other = id ∧ ok = true := by
  cases h with
  | created named => simp_all [Exchange.created?]
  | unnamed unnamed => simp_all [Exchange.created?]
  | refused => simp_all [Exchange.created?]
  | adopted | contested | unlisted =>
    simp only [List.mem_cons, List.not_mem_nil, or_false] at hx
    rcases hx with rfl | rfl <;> cases created

theorem Creation.of_gone (h : Creation p body filter talk ok id) (hx : x ∈ talk) :
    x.gone? = none := by
  cases h with
  | created | unnamed | refused =>
    obtain rfl := List.mem_singleton.mp hx
    rfl
  | adopted | contested | unlisted =>
    simp only [List.mem_cons, List.not_mem_nil, or_false] at hx
    rcases hx with rfl | rfl <;> rfl

theorem Writing.of_created (h : Writing p body filter known talk ok id) (hx : x ∈ talk)
    (created : x.created? = some (q, other)) : q = p ∧ other = id ∧ ok = true := by
  cases h with
  | created h => exact h.of_created hx created
  | updated => simp_all [Exchange.created?]
  | refused => simp_all [Exchange.created?]
  | recreated _ _ h =>
    rcases List.mem_cons.mp hx with rfl | hx
    · cases created
    · exact h.of_created hx created

/-- A creation names the entity that is known afterwards, if it goes well, and no other. -/
theorem Creation.names (h : Creation p body filter talk ok id) :
    talk.filterMap Exchange.names? = if ok then [(p, id)] else [] := by
  cases h with
  | created named => simp [Exchange.names?, named]
  | unnamed unnamed => simp [Exchange.names?, unnamed]
  | refused => rfl
  | @adopted s t e found id _ one =>
    have named : Exchange.names? ⟨t, .list p filter, .ok found⟩ = some (p, id) := by
      rw [Exchange.names?, one]
    exact (List.filterMap_cons_none rfl).trans (List.filterMap_cons_some named)
  | @contested s t e found _ many =>
    have unnamed : Exchange.names? ⟨t, .list p filter, .ok found⟩ = none := by
      rw [Exchange.names?]
      split
      · rename_i other one
        exact absurd one (many other)
      · rfl
    exact (List.filterMap_cons_none rfl).trans (List.filterMap_cons_none unnamed)
  | unlisted => rfl

theorem only_ne_empty {found : List RemoteEntity} (one : found.filterMap Entity.usableId = [id]) :
    id ≠ "" := by
  have mem : id ∈ found.filterMap Entity.usableId := one ▸ List.mem_singleton_self id
  obtain ⟨x, -, named⟩ := List.mem_filterMap.mp mem
  exact usableId_ne_empty named

theorem Creation.ne_empty (h : Creation p body filter talk true id) : id ≠ "" := by
  cases h with
  | created named => exact usableId_ne_empty named
  | adopted _ one => exact only_ne_empty one

theorem Writing.ne_empty (h : Writing p body filter known talk true id) : id ≠ "" := by
  cases h with
  | created h => exact h.ne_empty
  | updated hk => exact hk
  | recreated _ _ h => exact h.ne_empty

/-- A write that goes wrong leaves the id that was known, or none. -/
theorem Writing.id_of_failed (h : Writing p body filter known talk false id) :
    id = known ∨ id = "" := by
  cases h with
  | created h => cases h <;> exact .inl rfl
  | refused => exact .inl rfl
  | recreated _ _ h => cases h <;> exact .inr rfl

theorem Writing.names (h : Writing p body filter known talk ok id) :
    talk.filterMap Exchange.names? = if ok then [(p, id)] else [] := by
  cases h with
  | created h => exact h.names
  | updated => rfl
  | refused => rfl
  | recreated _ _ h => exact h.names

/-- Only the entity that was known can turn out to be gone. -/
theorem Writing.of_gone (h : Writing p body filter known talk ok id) (hx : x ∈ talk)
    (gone : x.gone? = some (q, other)) : q = p ∧ other = known ∧ known ≠ "" := by
  cases h with
  | created h =>
    rw [h.of_gone hx] at gone
    cases gone
  | updated => simp_all [Exchange.gone?]
  | refused => simp_all [Exchange.gone?]
  | recreated hk _ h =>
    rcases List.mem_cons.mp hx with rfl | hx
    · simp_all [Exchange.gone?]
    · rw [h.of_gone hx] at gone
      cases gone

/-- A known entity is only forgotten once it is gone. -/
theorem Writing.known_or_gone (h : Writing p body filter known talk ok id) (hk : known ≠ "") :
    id = known ∨ ∃ x ∈ talk, x.gone? = some (p, known) := by
  cases h with
  | created => exact absurd rfl hk
  | updated => exact .inl rfl
  | refused => exact .inl rfl
  | recreated _ gone => exact .inr ⟨_, List.mem_cons_self, by simp [Exchange.gone?, gone]⟩

theorem Deletion.talk_eq (h : Deletion p known talk ok) :
    ∃ s answer, talk = [⟨s, .delete p known, answer⟩] := by
  cases h <;> exact ⟨_, _, rfl⟩

theorem Deletion.tells_gone (h : Deletion p known talk true) :
    ∃ x ∈ talk, x.gone? = some (p, known) := by
  cases h with
  | deleted => exact ⟨_, List.mem_singleton_self _, rfl⟩
  | gone gone => exact ⟨_, List.mem_singleton_self _, by simp [Exchange.gone?, gone]⟩

theorem Deletion.names (h : Deletion p known talk ok) : talk.filterMap Exchange.names? = [] := by
  cases h <;> rfl

theorem Deletion.of_gone (h : Deletion p known talk ok) (hx : x ∈ talk)
    (gone : x.gone? = some (q, other)) : other = known := by
  cases h <;> obtain rfl := List.mem_singleton.mp hx <;> simp_all [Exchange.gone?]

end

namespace Entity

open Pass World

variable {σ : Type} (env : Environment σ)

theorem onObject_call (op : Operation) (o o' : Object) (c : RemoteCall) (w : World σ) :
    (call env op o c).onObject o' w =
      ((w.ask env c).1.mapError (failed op o), o', (w.ask env c).2) := by
  rw [call, onObject_bind_ok (onObject_onWorld _ o' w)]
  rcases w.ask env c with ⟨answer, w'⟩
  cases answer <;> rfl

theorem onObject_create {o : Object} {p : EntityPath} (hp : o.path .create = .ok p) (w : World σ) :
    (create env).onObject o w =
      match w.ask env (.create p o.body) with
      | (.ok x, w') =>
        match usableId x with
        | some id => (.ok (), o.withId id, w')
        | none => (.error (.emptyResponse .create o.kind.name o.keyText), o, w')
      | (.error e, w') => (.error (failed .create o e), o, w') := by
  rw [create, onObject_bind_ok (onObject_object o w), hp, onObject_bind_ok (onObject_ofExcept _ o w),
    onObject_bind, onObject_call]
  rcases w.ask env (.create p o.body) with ⟨_ | x, w'⟩
  · rfl
  · simp only [Except.mapError]
    cases usableId x <;> rfl

theorem onObject_create_pathless {o : Object} {e : SyncError} (hp : o.path .create = .error e)
    (w : World σ) : (create env).onObject o w = (.error e, o, w) := by
  rw [create, onObject_bind_ok (onObject_object o w), hp]
  exact onObject_bind_error (onObject_ofExcept _ o w)

theorem onObject_update {o : Object} {p : EntityPath} (hp : o.path .update = .ok p)
    (hk : o.konnectId ≠ "") (w : World σ) :
    (update env).onObject o w =
      match w.ask env (.upsert p o.konnectId o.body) with
      | (.ok _, w') => (.ok (), o, w')
      | (.error e, w') => (.error (failed .update o e), o, w') := by
  rw [update, onObject_bind_ok (onObject_object o w), hp, onObject_bind_ok (onObject_ofExcept _ o w)]
  simp only [hk, if_false]
  rw [onObject_bind, onObject_call]
  rcases w.ask env (.upsert p o.konnectId o.body) with ⟨_ | x, w'⟩ <;> rfl

theorem onObject_update_pathless {o : Object} {e : SyncError} (hp : o.path .update = .error e)
    (w : World σ) : (update env).onObject o w = (.error e, o, w) := by
  rw [update, onObject_bind_ok (onObject_object o w), hp]
  exact onObject_bind_error (onObject_ofExcept _ o w)

theorem onObject_update_unknown {o : Object} {p : EntityPath} (hp : o.path .update = .ok p)
    (hk : o.konnectId = "") (w : World σ) :
    (update env).onObject o w = (.error (.missingKonnectId .update o.kind.name o.keyText), o, w) := by
  rw [update, onObject_bind_ok (onObject_object o w), hp, onObject_bind_ok (onObject_ofExcept _ o w)]
  simp only [hk, if_true]
  rfl

theorem onlyId_eq_ok {o : Object} {found : List RemoteEntity} {id : String} :
    onlyId o found = .ok id ↔ found.filterMap usableId = [id] := by
  unfold onlyId
  rcases found.filterMap usableId with _ | ⟨a, _ | ⟨b, rest⟩⟩ <;> simp

theorem onObject_findByIdentity {o : Object} {p : EntityPath} (hp : o.path .list = .ok p)
    (w : World σ) :
    (findByIdentity env).onObject o w =
      ((w.ask env (.list p o.listFilter)).1.mapError (failed .list o) >>= onlyId o,
        o, (w.ask env (.list p o.listFilter)).2) := by
  rw [findByIdentity, onObject_bind_ok (onObject_object o w), hp,
    onObject_bind_ok (onObject_ofExcept _ o w), onObject_bind, onObject_call]
  rcases w.ask env (.list p o.listFilter) with ⟨_ | found, w'⟩
  · rfl
  · exact onObject_ofExcept _ o w'

theorem onObject_findByIdentity_pathless {o : Object} {e : SyncError} (hp : o.path .list = .error e)
    (w : World σ) : (findByIdentity env).onObject o w = (.error e, o, w) := by
  rw [findByIdentity, onObject_bind_ok (onObject_object o w), hp]
  exact onObject_bind_error (onObject_ofExcept _ o w)

theorem onObject_createOrAdopt {o o' : Object} {w w' : World σ} {r : Except SyncError Unit}
    (h : (create env).onObject o w = (r, o', w')) :
    (createOrAdopt env).onObject o w =
      match r with
      | .ok () => (.ok (), o', w')
      | .error e =>
        if e.isRemoteConflict then
          match (findByIdentity env).onObject o' w' with
          | (.ok id, o, w) => (.ok (), o.withId id, w)
          | (.error _, o, w) => (.error e, o, w)
        else (.error e, o', w') := by
  rw [createOrAdopt, onObject_bind_attempt h]
  rcases r with e | ⟨⟩
  · by_cases hc : e.isRemoteConflict = true
    · rcases hf : (findByIdentity env).onObject o' w' with ⟨_ | id, o'', w''⟩ <;>
        simp only [hc, if_true] <;> rw [onObject_bind_attempt hf] <;> rfl
    · simp [hc]
  · rfl

theorem onObject_updateOrRecreate {o o' : Object} {w w' : World σ} {r : Except SyncError Unit}
    (h : (update env).onObject o w = (r, o', w')) :
    (updateOrRecreate env).onObject o w =
      match r with
      | .ok () => (.ok (), o', w')
      | .error e =>
        if e.isRemoteNotFound then (createOrAdopt env).onObject (o'.withId "") w'
        else (.error e, o', w') := by
  rw [updateOrRecreate, onObject_bind_attempt h]
  rcases r with e | ⟨⟩
  · by_cases hn : e.isRemoteNotFound = true
    · simp only [hn, if_true]
      rw [onObject_bind_ok (onObject_modifyObject _ o' w')]
    · simp [hn]
  · rfl

theorem onObject_delete {o : Object} {p : EntityPath} (hk : o.konnectId ≠ "")
    (hp : o.path .delete = .ok p) (w : World σ) :
    (delete env).onObject o w =
      match w.ask env (.delete p o.konnectId) with
      | (.ok _, w') => (.ok (), o, w')
      | (.error e, w') => (if e.isNotFound then .ok () else .error (failed .delete o e), o, w') := by
  have run := onObject_onWorld (World.ask env (.delete p o.konnectId)) o w
  rw [delete, onObject_bind_ok (onObject_object o w), hp]
  simp only [hk, if_false]
  rw [onObject_bind_ok (onObject_ofExcept _ o w)]
  rcases h : w.ask env (.delete p o.konnectId) with ⟨e | ⟨⟩, w'⟩ <;> rw [h] at run <;>
    rw [onObject_bind_ok run]
  · by_cases hn : e.isNotFound = true <;> simp [hn]
  · rfl

theorem onObject_delete_pathless {o : Object} {e : SyncError} (hk : o.konnectId ≠ "")
    (hp : o.path .delete = .error e) (w : World σ) :
    (delete env).onObject o w = (.error e, o, w) := by
  rw [delete, onObject_bind_ok (onObject_object o w), hp]
  simp only [hk, if_false]
  exact onObject_bind_error (onObject_ofExcept _ o w)

theorem onObject_delete_unknown {o : Object} (hk : o.konnectId = "") (w : World σ) :
    (delete env).onObject o w = (.ok (), o, w) := by
  rw [delete, onObject_bind_ok (onObject_object o w)]
  simp [hk]

/-- Creating an entity speaks the protocol of creations; the object takes over the id, or stays. -/
theorem createOrAdopt_speaks {o : Object} {p : EntityPath} (hp : o.path .create = .ok p)
    (w : World σ) :
    (∃ talk id w', Creation p o.body o.listFilter talk true id ∧ Talks env w talk w' ∧
        (createOrAdopt env).onObject o w = (.ok (), o.withId id, w')) ∨
      ∃ talk e w', Creation p o.body o.listFilter talk false "" ∧ Talks env w talk w' ∧
        (createOrAdopt env).onObject o w = (.error e, o, w') := by
  have created := onObject_create env hp w
  have asked := talks_ask env (.create p o.body) w
  rcases h : w.ask env (.create p o.body) with ⟨e | x, w'⟩ <;> rw [h] at created asked
  · have run := onObject_createOrAdopt env created
    by_cases hc : e.isConflict = true
    · have found := onObject_findByIdentity env (o.path_list hp) w'
      have listed := talks_ask env (.list p o.listFilter) w'
      simp only [failed, SyncError.isRemoteConflict, hc, if_true] at run
      rcases hl : w'.ask env (.list p o.listFilter) with ⟨e' | xs, w''⟩ <;>
        rw [hl] at found listed
      · rw [found] at run
        exact .inr ⟨_, _, w'', .unlisted hc, asked.append listed, run⟩
      · rcases hi : onlyId o xs with e' | id
        · have many : ∀ id, xs.filterMap usableId ≠ [id] := fun id h => by
            rw [onlyId_eq_ok.mpr h] at hi
            cases hi
          rw [found] at run
          simp only [Except.mapError, bind, Except.bind, hi] at run
          exact .inr ⟨_, _, w'', .contested hc many, asked.append listed, run⟩
        · rw [found] at run
          simp only [Except.mapError, bind, Except.bind, hi] at run
          exact .inl ⟨_, id, w'', .adopted hc (onlyId_eq_ok.mp hi), asked.append listed, run⟩
    · have hc' : e.isConflict = false := Bool.eq_false_iff.mpr hc
      simp only [failed, SyncError.isRemoteConflict, hc'] at run
      exact .inr ⟨_, _, w', .refused hc', asked, run⟩
  · rcases hu : usableId x with _ | id <;> simp only [hu] at created
    · exact .inr ⟨_, _, w', .unnamed hu, asked, onObject_createOrAdopt env created⟩
    · exact .inl ⟨_, id, w', .created hu, asked, onObject_createOrAdopt env created⟩

/-- The object after a write. Of what tells where its entity is, only the id may have changed. -/
structure Learns (o o' : Object) (id : String) : Prop where
  metadata : o'.metadata = o.metadata
  spec : o'.spec = o.spec
  id : o'.konnectId = id
  controlPlaneId : o'.controlPlaneId = o.controlPlaneId
  parentId : o'.parentId = o.parentId
  status : o.status.isSome → o'.status.isSome

theorem learns_self (o : Object) : Learns o o o.konnectId := ⟨rfl, rfl, rfl, rfl, rfl, id⟩

theorem learns_withId (o : Object) (id : String) : Learns o (o.withId id) id :=
  ⟨rfl, rfl, by simp [Object.withId, Object.konnectId], o.withId_controlPlaneId id,
    o.withId_parentId id, fun _ => rfl⟩

theorem Learns.trans {a b c : Object} {x y : String} (h : Learns a b x) (h' : Learns b c y) :
    Learns a c y :=
  ⟨h'.metadata.trans h.metadata, h'.spec.trans h.spec, h'.id, h'.controlPlaneId.trans h.controlPlaneId,
    h'.parentId.trans h.parentId, fun hs => h'.status (h.status hs)⟩

theorem learns_record (o : Object) (v : Verdict) (now : Instant) :
    Learns o (o.record v now) o.konnectId :=
  ⟨rfl, rfl, by simp [Object.konnectId], by simp [Object.controlPlaneId],
    by simp [Object.parentId], fun _ => rfl⟩

theorem Learns.key {o o' : Object} {id : String} (h : Learns o o' id) : o'.key = o.key := by
  simp only [Object.key, Object.kind, h.metadata, h.spec]

theorem Learns.path {o o' : Object} {id : String} (h : Learns o o' id) (op : Operation) :
    o'.path op = o.path op :=
  have kind : o'.kind = o.kind := congrArg Spec.kind h.spec
  Object.path_congr op kind (congrArg Metadata.keyText h.metadata)
    (by simp [Object.lacksPlugin, kind, h.spec]) h.controlPlaneId h.parentId

/-- Creates the entity of an object that has no id, or updates the one that it has. -/
def write (known : String) : Pass σ Unit :=
  if known = "" then createOrAdopt env else updateOrRecreate env

/-- Without a path nothing is said and nothing is learned. -/
theorem onObject_write_pathless {o : Object} {e : SyncError} (hp : o.path .create = .error e)
    (w : World σ) :
    ∃ e', (write env o.konnectId).onObject o w = (.error e', o, w) := by
  by_cases hk : o.konnectId = ""
  · have run := onObject_createOrAdopt env (onObject_create_pathless env hp w)
    simp only [SyncError.isRemoteConflict_of_isMissingReference (Object.path_error hp)] at run
    exact ⟨e, by simpa [write, hk] using run⟩
  · cases hu : o.path .update with
    | error e' =>
      have run := onObject_updateOrRecreate env (onObject_update_pathless env hu w)
      simp only [SyncError.isRemoteNotFound_of_isMissingReference (Object.path_error hu)] at run
      exact ⟨e', by simpa [write, hk] using run⟩
    | ok p =>
      rw [Object.path_update.mp hu] at hp
      cases hp

def OwnFailure (e : SyncError) : Prop := ∀ a, e ≠ .api a

theorem ownFailure_of_isOperational {e : SyncError} (h : e.isOperational) : OwnFailure e := by
  rintro a rfl
  cases h

theorem path_failsWith (o : Object) (op : Operation) :
    FailsWith (fun e => e.isOperational) (Pass.ofExcept (o.path op) : Pass σ EntityPath) := by
  apply failsWith_ofExcept
  intro e pathless
  exact SyncError.isOperational_of_isMissingReference (Object.path_error pathless)

theorem call_failsWith (op : Operation) (o : Object) (c : RemoteCall) :
    FailsWith (fun e => e.isOperational) (call env op o c) := by
  refine (failsWith_onWorld _).bind fun answer => ?_
  cases answer with
  | ok x => exact failsWith_pure x
  | error e => exact failsWith_throw rfl

theorem create_failsWith : FailsWith (fun e => e.isOperational) (create env) := by
  refine failsWith_object.bind fun o => ?_
  refine (path_failsWith o _).bind fun p => ?_
  refine (call_failsWith env _ _ _).bind fun x => ?_
  cases usableId x with
  | some id => exact failsWith_modifyObject _
  | none => exact failsWith_throw rfl

theorem update_failsWith : FailsWith (fun e => e.isOperational) (update env) := by
  refine failsWith_object.bind fun o => ?_
  refine (path_failsWith o _).bind fun p => ?_
  dsimp only
  split
  · have missing : FailsWith (fun e => e.isOperational)
        (throw (.missingKonnectId .update o.kind.name o.keyText) : Pass σ Unit) := failsWith_throw rfl
    exact missing.bind fun _ => (call_failsWith env _ _ _).bind fun _ => failsWith_pure _
  · exact (call_failsWith env _ _ _).bind fun _ => failsWith_pure _

theorem delete_failsWith : FailsWith (fun e => e.isOperational) (delete env) := by
  refine failsWith_object.bind fun o => ?_
  split
  · exact failsWith_pure _
  · refine (path_failsWith o _).bind fun p => ?_
    refine (failsWith_onWorld _).bind fun answer => ?_
    cases answer with
    | ok x => exact failsWith_pure _
    | error e =>
      dsimp only
      split
      · exact failsWith_pure _
      · exact failsWith_throw rfl

theorem findByIdentity_failsWith : FailsWith (fun e => e.isOperational) (findByIdentity env) := by
  refine failsWith_object.bind fun o => ?_
  refine (path_failsWith o _).bind fun p => ?_
  refine (call_failsWith env _ _ _).bind fun found => ?_
  apply failsWith_ofExcept
  intro e failed
  unfold onlyId at failed
  split at failed <;> cases failed <;> rfl

theorem createOrAdopt_failsWith : FailsWith (fun e => e.isOperational) (createOrAdopt env) := by
  refine (create_failsWith env).bind_attempt fun r own => ?_
  cases r with
  | ok x => exact failsWith_pure x
  | error e =>
    have again {α : Type} : FailsWith (fun e => e.isOperational) (throw e : Pass σ α) :=
      failsWith_throw (own e rfl)
    dsimp only
    split
    · refine (findByIdentity_failsWith env).bind_attempt fun found _ => ?_
      cases found with
      | ok id => exact failsWith_modifyObject _
      | error _ => exact again
    · exact again

theorem updateOrRecreate_failsWith : FailsWith (fun e => e.isOperational) (updateOrRecreate env) := by
  refine (update_failsWith env).bind_attempt fun r own => ?_
  cases r with
  | ok x => exact failsWith_pure x
  | error e =>
    dsimp only
    split
    · exact (failsWith_modifyObject _).bind fun _ => createOrAdopt_failsWith env
    · exact failsWith_throw (own e rfl)

/-- A write fails because of Konnect or of what the object lacks, never because of the cluster. -/
theorem write_failsWith (known : String) : FailsWith (fun e => e.isOperational) (write env known) := by
  unfold write
  split
  · exact createOrAdopt_failsWith env
  · exact updateOrRecreate_failsWith env

/-- Every write speaks the protocol of its id: it goes well exactly if the dialogue does, and the
object knows afterwards what the dialogue told. -/
theorem write_speaks {o : Object} {p : EntityPath} (hp : o.path .create = .ok p) (w : World σ) :
    ∃ talk ok id r o' w', (write env o.konnectId).onObject o w = (r, o', w') ∧
      Writing p o.body o.listFilter o.konnectId talk ok id ∧ Talks env w talk w' ∧
      Learns o o' id ∧ r.isOk = ok := by
  by_cases hk : o.konnectId = ""
  · simp only [write, hk, if_true]
    rcases createOrAdopt_speaks env hp w with ⟨talk, id, w', hc, ht, h⟩ | ⟨talk, e, w', hc, ht, h⟩
    · exact ⟨talk, true, id, _, _, w', h, .created hc, ht, learns_withId o id, rfl⟩
    · exact ⟨talk, false, "", _, o, w', h, .created hc, ht, hk ▸ learns_self o, rfl⟩
  · simp only [write, hk, if_false]
    have updated := onObject_update env (Object.path_update.mpr hp) hk w
    have asked := talks_ask env (.upsert p o.konnectId o.body) w
    rcases h : w.ask env (.upsert p o.konnectId o.body) with ⟨e | x, w'⟩ <;> rw [h] at updated asked
    · have run := onObject_updateOrRecreate env updated
      by_cases hn : e.isNotFound = true
      · simp only [failed, SyncError.isRemoteNotFound, hn, if_true] at run
        have forgot := learns_withId o ""
        have hb : (o.withId "").body = o.body := Object.body_congr rfl rfl (o.withId_parentId "")
        have hf : (o.withId "").listFilter = o.listFilter := Object.listFilter_congr rfl rfl
        have hp' : (o.withId "").path .create = .ok p := (forgot.path .create).trans hp
        have spoken := createOrAdopt_speaks env hp' w'
        rw [hb, hf] at spoken
        rcases spoken with ⟨talk, id, w'', hc, ht, h⟩ | ⟨talk, e', w'', hc, ht, h⟩
        · exact ⟨_, true, id, _, _, w'', run.trans h, .recreated hk hn hc, asked.append ht,
            forgot.trans (learns_withId _ id), rfl⟩
        · exact ⟨_, false, "", _, _, w'', run.trans h, .recreated hk hn hc, asked.append ht,
            forgot, rfl⟩
      · have hn' : e.isNotFound = false := Bool.eq_false_iff.mpr hn
        simp only [failed, SyncError.isRemoteNotFound, hn'] at run
        exact ⟨_, false, _, _, o, w', run, .refused hk hn', asked, learns_self o, rfl⟩
    · exact ⟨_, true, _, _, o, w', onObject_updateOrRecreate env updated, .updated hk, asked,
        learns_self o, rfl⟩

end Entity

end GatewaySync
