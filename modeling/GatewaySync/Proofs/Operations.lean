import GatewaySync.Proofs.Edits
import GatewaySync.Proofs.Recognition
/-!
# Operations check first

An operation on the entity of an object looks first whether the object has what the operation needs. If
not it fails on its own; otherwise it makes one call, and tells how that failed. A failed operation leaves
the object alone, and so does every one that goes well, but for the id that a creation brings.
-/
namespace GatewaySync

inductive RemoteError.Absent : RemoteError → Prop
  | notFound (body : String) : Absent (.notFound body)
  | badRequest (body : String) : Absent (.badRequest 404 body)
  | api (message body : String) : Absent (.api 404 message body)

theorem RemoteError.isNotFound_iff {e : RemoteError} : e.isNotFound = true ↔ e.Absent := by
  rw [isNotFound, decide_eq_true_eq]
  constructor
  · intro status
    cases e with
    | notFound body => exact .notFound body
    | badRequest status body =>
      obtain rfl := Option.some.inj status
      exact .badRequest body
    | conflict body => cases status
    | api status message body =>
      obtain rfl := Option.some.inj status
      exact .api message body
    | transport message => cases status
  · rintro (_ | _ | _) <;> rfl

namespace Object

variable (o : Object)

/-- The first thing that the object lacks for an operation, as the operation reports it. -/
def lack? (op : Operation) : Option SyncError :=
  if o.kind = .pluginBinding ∧ (op = .create ∨ op = .update) ∧ o.spec.resolved = none then
    some (.missingParent op o.kind.name o.keyText "KongPlugin")
  else if o.kind.controlPlaneScoped = true ∧ o.controlPlaneId = "" then
    some (.missingControlPlaneId op o.kind.name o.keyText)
  else if (o.kind = .apiKey ∨ o.kind = .basicAuth) ∧ o.parentId = "" then
    some (.missingParent op o.kind.name o.keyText "KongConsumer")
  else if op = .update ∧ o.konnectId = "" then
    some (.missingKonnectId op o.kind.name o.keyText)
  else none

def place : EntityPath :=
  match o.kind with
  | .controlPlane => .global o.kind.collection
  | .apiKey | .basicAuth => .nested o.controlPlaneId ManagedKind.consumer.collection o.parentId o.kind.collection
  | _ => .controlPlane o.controlPlaneId o.kind.collection

def request : Operation → RemoteCall
  | .create => .create o.place o.body
  | .update => .upsert o.place o.konnectId o.body
  | .delete => .delete o.place o.konnectId
  | .list => .list o.place o.listFilter

variable {o} {op : Operation}

theorem lacksPlugin_iff : o.lacksPlugin op = true ↔
    o.kind = .pluginBinding ∧ (op = .create ∨ op = .update) ∧ o.spec.resolved = none := by
  simp [lacksPlugin, and_assoc]

/-- Without something that its path needs the object lacks just that; with a path it lacks at most the id of
an update. -/
theorem path_cases (o : Object) (op : Operation) :
    (∃ e, o.lack? op = some e ∧ o.path op = .error e) ∨
      o.path op = .ok o.place ∧ o.lack? op =
        if op = .update ∧ o.konnectId = "" then some (.missingKonnectId op o.kind.name o.keyText) else none := by
  unfold lack? place path
  -- In the order of the checks: what is lacking first leaves no path, whatever else is lacking.
  by_cases unresolved : o.kind = .pluginBinding ∧ (op = .create ∨ op = .update) ∧ o.spec.resolved = none
  · refine .inl ⟨_, if_pos unresolved, ?_⟩
    rw [unresolved.1]
    exact if_pos (lacksPlugin_iff.mpr unresolved)
  rw [if_neg unresolved]
  rw [← lacksPlugin_iff] at unresolved
  by_cases planeless : o.kind.controlPlaneScoped = true ∧ o.controlPlaneId = ""
  · refine .inl ⟨_, if_pos planeless, ?_⟩
    cases kind : o.kind <;> simp_all [ManagedKind.controlPlaneScoped, controlPlanePath, nestedPath]
  rw [if_neg planeless]
  by_cases orphaned : (o.kind = .apiKey ∨ o.kind = .basicAuth) ∧ o.parentId = ""
  · refine .inl ⟨_, if_pos orphaned, ?_⟩
    rcases orphaned with ⟨kind | kind, orphaned⟩ <;>
      simp_all [ManagedKind.controlPlaneScoped, nestedPath, ManagedKind.name]
  rw [if_neg orphaned]
  refine .inr ⟨?_, rfl⟩
  cases kind : o.kind <;> simp_all [ManagedKind.controlPlaneScoped, controlPlanePath, nestedPath]

theorem path_of_lack?_eq_none (complete : o.lack? op = none) :
    o.path op = .ok o.place ∧ (op = .update → o.konnectId ≠ "") := by
  rcases path_cases o op with ⟨e, lacking, -⟩ | ⟨path, lacking⟩
  · rw [lacking] at complete
    cases complete
  · refine ⟨path, fun update unknown => ?_⟩
    rw [lacking, if_pos ⟨update, unknown⟩] at complete
    cases complete

theorem path_of_lack?_eq_some {e : SyncError} (lacking : o.lack? op = some e) :
    o.path op = .error e ∨ o.path op = .ok o.place ∧ op = .update ∧ o.konnectId = "" ∧
      e = .missingKonnectId op o.kind.name o.keyText := by
  rcases path_cases o op with ⟨e', lacking', path⟩ | ⟨path, lacking'⟩
  · rw [lacking, Option.some.injEq] at lacking'
    exact .inl (lacking' ▸ path)
  · rw [lacking, eq_comm, Option.ite_none_right_eq_some] at lacking'
    obtain ⟨⟨update, unknown⟩, same⟩ := lacking'
    exact .inr ⟨path, update, unknown, (Option.some.inj same).symm⟩

/-- Only an update lacks an id. -/
theorem path_of_lack? {e : SyncError} (other : op ≠ .update) (lacking : o.lack? op = some e) :
    o.path op = .error e :=
  (path_of_lack?_eq_some lacking).resolve_right fun update => other update.2.1

/-- The other object has the id, and all else of it is as it was. -/
structure TakesId (o : Object) (id : String) (o' : Object) : Prop where
  konnect : o'.konnect = { o.konnect with id }
  conditions : o'.conditions = o.conditions
  metadata : o'.metadata = o.metadata
  spec : o'.spec = o.spec

theorem takesId_withId (o : Object) (id : String) : o.TakesId id (o.withId id) :=
  ⟨o.withKonnect_konnect _, o.withKonnect_conditions _, rfl, rfl⟩

theorem TakesId.trans {a b c : Object} {x y : String} (first : a.TakesId x b) (second : b.TakesId y c) :
    a.TakesId y c :=
  ⟨by rw [second.konnect, first.konnect], second.conditions.trans first.conditions,
    second.metadata.trans first.metadata, second.spec.trans first.spec⟩

end Object

namespace Entity

variable {σ α : Type} {env : Environment σ} {op : Operation} {p : Pass σ α} {o : Object} {w : World σ}

structure Checked (env : Environment σ) (op : Operation) (p : Pass σ α) (o : Object) (w : World σ) : Prop where
  lacking : ∀ e, o.lack? op = some e → p.onObject o w = (.error e, o, w)
  /-- Otherwise it makes its call and does nothing else to the world. -/
  asks : o.lack? op = none → (p.onObject o w).2.2 = (w.ask env (o.request op)).2
  once : p.asked o w = if (o.lack? op).isNone then [o.request op] else []
  /-- A failed call is told with what was tried on which object, unless a deletion finds nothing. -/
  refused : o.lack? op = none → ∀ e, (w.ask env (o.request op)).1 = .error e → ¬ (op = .delete ∧ e.Absent) →
    (p.onObject o w).1 = .error (.remote op o.kind.name o.keyText e)
  accepted : o.lack? op = none → op = .update ∨ op = .delete → (w.ask env (o.request op)).1.isOk = true →
    (p.onObject o w).1.isOk = true
  atomic : ∀ e, (p.onObject o w).1 = .error e → (p.onObject o w).2.1 = o
  still : op ≠ .create → (p.onObject o w).2.1 = o

/-- It is enough to know the operation where it fails at once and where it calls. -/
theorem Checked.of_runs (lacking : ∀ e, o.lack? op = some e → p.onObject o w = (.error e, o, w))
    (calls : o.lack? op = none → ∃ r o', p.onObject o w = (r, o', (w.ask env (o.request op)).2) ∧
      (∀ e, (w.ask env (o.request op)).1 = .error e → ¬ (op = .delete ∧ e.Absent) → r = .error (failed op o e)) ∧
      (op = .update ∨ op = .delete → (w.ask env (o.request op)).1.isOk = true → r.isOk = true) ∧
      ((∃ e, r = .error e) ∨ op ≠ .create → o' = o)) :
    Checked env op p o w := by
  cases complete : o.lack? op with
  | some e =>
    have run := lacking e complete
    have called : o.lack? op ≠ none := by simp [complete]
    refine ⟨lacking, fun none => absurd none called, ?_, fun none => absurd none called,
      fun none => absurd none called, fun _ _ => ?_, fun _ => ?_⟩
    · rw [Pass.asked, run, complete]
      exact List.drop_length
    · rw [run]
    · rw [run]
  | none =>
    obtain ⟨r, o', run, refused, accepted, kept⟩ := calls complete
    refine ⟨lacking, fun _ => ?_, ?_, fun _ e answer there => ?_, fun _ final answer => ?_, fun e wrong => ?_,
      fun other => ?_⟩
    · rw [run]
    · rw [Pass.asked, run, complete]
      exact asked_ask env _ w
    · rw [run]
      exact refused e answer there
    · rw [run]
      exact accepted final answer
    · rw [run] at wrong ⊢
      exact kept (.inl ⟨e, wrong⟩)
    · rw [run]
      exact kept (.inr other)

theorem Checked.run_of_refused (checked : Checked env op p o w) (complete : o.lack? op = none) {e : RemoteError}
    (answer : (w.ask env (o.request op)).1 = .error e) (there : ¬ (op = .delete ∧ e.Absent)) :
    p.onObject o w = (.error (failed op o e), o, (w.ask env (o.request op)).2) := by
  have refused := checked.refused complete e answer there
  exact Prod.ext refused (Prod.ext (checked.atomic _ refused) (checked.asks complete))

/-- A creation that lacks nothing is refused, answered without an id, or answered with the id that is kept. -/
theorem create_cases (env : Environment σ) (w : World σ) (complete : o.lack? .create = none) :
    (∃ e, (w.ask env (o.request .create)).1 = .error e ∧
        (create env).onObject o w = (.error (failed .create o e), o, (w.ask env (o.request .create)).2)) ∨
      (∃ x, (w.ask env (o.request .create)).1 = .ok x ∧ usableId x = none ∧ (create env).onObject o w =
        (.error (.emptyResponse .create o.kind.name o.keyText), o, (w.ask env (o.request .create)).2)) ∨
      ∃ x id, (w.ask env (o.request .create)).1 = .ok x ∧ usableId x = some id ∧
        (create env).onObject o w = (.ok (), o.withId id, (w.ask env (o.request .create)).2) := by
  have run := onObject_create env (Object.path_of_lack?_eq_none complete).1 w
  rcases asked : w.ask env (o.request .create) with ⟨e | x, w'⟩ <;>
    rw [show w.ask env (.create o.place o.body) = _ from asked] at run
  · exact .inl ⟨e, rfl, run⟩
  · cases named : usableId x with
    | none =>
      simp only [named] at run
      exact .inr (.inl ⟨x, rfl, named, run⟩)
    | some id =>
      simp only [named] at run
      exact .inr (.inr ⟨x, id, rfl, named, run⟩)

theorem create_eq_ok {o' : Object} {w' : World σ} (run : (create env).onObject o w = (.ok (), o', w')) :
    ∃ x id, (w.ask env (o.request .create)).1 = .ok x ∧ usableId x = some id ∧ o' = o.withId id := by
  cases lacking : o.lack? .create with
  | some e =>
    rw [onObject_create_pathless env (Object.path_of_lack? (by decide) lacking) w] at run
    cases run
  | none =>
    rcases create_cases env w lacking with ⟨e, -, refused⟩ | ⟨x, -, -, unnamed⟩ | ⟨x, id, answer, named, ok⟩
    · rw [refused] at run
      cases run
    · rw [unnamed] at run
      cases run
    · rw [ok] at run
      cases run
      exact ⟨x, id, answer, named, rfl⟩

theorem create_of_id {x : RemoteEntity} {id : String} (complete : o.lack? .create = none)
    (answer : (w.ask env (o.request .create)).1 = .ok x) (named : x.id = some id) (given : id ≠ "") :
    ((create env).onObject o w).1 = .ok () := by
  have usable : usableId x = some id := Option.filter_eq_some_iff.mpr ⟨named, by simpa using given⟩
  rcases create_cases env w complete with ⟨e, refused, -⟩ | ⟨y, same, unnamed, -⟩ | ⟨y, other, -, -, run⟩
  · cases answer.symm.trans refused
  · cases answer.symm.trans same
    cases usable.symm.trans unnamed
  · rw [run]

theorem create_of_no_id {x : RemoteEntity} (complete : o.lack? .create = none)
    (answer : (w.ask env (o.request .create)).1 = .ok x) (unnamed : ∀ id, x.id = some id → id = "") :
    ((create env).onObject o w).1 = .error (.emptyResponse .create o.kind.name o.keyText) := by
  rcases create_cases env w complete with ⟨e, refused, -⟩ | ⟨y, -, -, run⟩ | ⟨y, id, same, named, -⟩
  · cases answer.symm.trans refused
  · rw [run]
  · cases answer.symm.trans same
    exact absurd (unnamed id (Option.filter_eq_some_iff.mp named).1) (usableId_ne_empty named)

/-- A search that is answered gives the only id among what was found. -/
theorem find_of_found {found : List RemoteEntity} (complete : o.lack? .list = none)
    (answer : (w.ask env (o.request .list)).1 = .ok found) :
    ((findByIdentity env).onObject o w).1 = onlyId o found := by
  rw [onObject_findByIdentity env (Object.path_of_lack?_eq_none complete).1 w,
    show (w.ask env (.list o.place o.listFilter)).1 = .ok found from answer]
  rfl

variable (env o w)

theorem checked_create : Checked env .create (create env) o w := by
  refine .of_runs (fun e lacking => ?_) fun complete => ?_
  · exact onObject_create_pathless env (Object.path_of_lack? (by decide) lacking) w
  · rcases create_cases env w complete with ⟨e, answer, run⟩ | ⟨x, answer, -, run⟩ | ⟨x, id, answer, -, run⟩
    · refine ⟨_, _, run, fun e' same _ => ?_, by simp, fun _ => rfl⟩
      rw [answer] at same
      cases same
      rfl
    · refine ⟨_, _, run, fun e' same _ => ?_, by simp, fun _ => rfl⟩
      rw [answer] at same
      cases same
    · refine ⟨_, _, run, fun e' same _ => ?_, by simp, ?_⟩
      · rw [answer] at same
        cases same
      · rintro (⟨_, wrong⟩ | other)
        · cases wrong
        · exact absurd rfl other

theorem checked_update : Checked env .update (update env) o w := by
  refine .of_runs (fun e lacking => ?_) fun complete => ?_
  · rcases Object.path_of_lack?_eq_some lacking with pathless | ⟨path, -, unknown, rfl⟩
    · exact onObject_update_pathless env pathless w
    · exact onObject_update_unknown env path unknown w
  · obtain ⟨path, known⟩ := Object.path_of_lack?_eq_none complete
    have run := onObject_update env path (known rfl) w
    rw [Object.request]
    rcases asked : w.ask env (.upsert o.place o.konnectId o.body) with ⟨e | x, w'⟩ <;> rw [asked] at run
    · exact ⟨_, _, run, fun e' same _ => by cases same; rfl, fun _ accepted => accepted, fun _ => rfl⟩
    · exact ⟨_, _, run, fun _ same => (by cases same), fun _ _ => rfl, fun _ => rfl⟩

theorem checked_delete (known : o.konnectId ≠ "") : Checked env .delete (delete env) o w := by
  refine .of_runs (fun e lacking => ?_) fun complete => ?_
  · exact onObject_delete_pathless env known (Object.path_of_lack? (by decide) lacking) w
  · have run := onObject_delete env known (Object.path_of_lack?_eq_none complete).1 w
    rw [Object.request]
    rcases asked : w.ask env (.delete o.place o.konnectId) with ⟨e | x, w'⟩ <;> rw [asked] at run
    · refine ⟨_, _, run, fun e' same there => ?_, fun _ accepted => (by cases accepted), fun _ => rfl⟩
      cases same
      exact if_neg fun gone => there ⟨rfl, RemoteError.isNotFound_iff.mp gone⟩
    · exact ⟨_, _, run, fun _ same => (by cases same), fun _ _ => rfl, fun _ => rfl⟩

theorem checked_findByIdentity : Checked env .list (findByIdentity env) o w := by
  refine .of_runs (fun e lacking => ?_) fun complete => ?_
  · exact onObject_findByIdentity_pathless env (Object.path_of_lack? (by decide) lacking) w
  · have run := onObject_findByIdentity env (Object.path_of_lack?_eq_none complete).1 w
    refine ⟨_, _, run, fun e answer _ => ?_, by simp, fun _ => rfl⟩
    rw [show (w.ask env (.list o.place o.listFilter)).1 = .error e from answer]
    rfl

/-- Every operation looks first whether the object has a resolved binding, a control plane, a parent and an
id, as far as its kind and the operation need them, and then makes one call. If it fails, in whichever of
the ways, the object is the same as before. Otherwise only a creation changes it, and only by the id that
it was answered with; it goes well exactly if there is one. A search gives the id of what it found if that
is one entity. What never had an id is deleted without a call, and what Konnect does not have counts as
deleted. -/
theorem operations_check_first (o : Object) (w : World σ) :
    (Checked env .create (create env) o w ∧ Checked env .update (update env) o w ∧
        (o.konnectId ≠ "" → Checked env .delete (delete env) o w) ∧
        Checked env .list (findByIdentity env) o w) ∧
      (∀ o' w', (create env).onObject o w = (.ok (), o', w') → ∃ x id,
        (w.ask env (o.request .create)).1 = .ok x ∧ x.id = some id ∧ id ≠ "" ∧ o.TakesId id o') ∧
      (∀ x : RemoteEntity, o.lack? .create = none → (w.ask env (o.request .create)).1 = .ok x →
        (∀ id, x.id = some id → id ≠ "" → ((create env).onObject o w).1 = .ok ()) ∧
        ((∀ id, x.id = some id → id = "") →
          ((create env).onObject o w).1 = .error (.emptyResponse .create o.kind.name o.keyText))) ∧
      (∀ found : List RemoteEntity, o.lack? .list = none → (w.ask env (o.request .list)).1 = .ok found →
        ((findByIdentity env).onObject o w).1 =
          match found.filterMap usableId with
          | [] => .error (.identityNotFound o.kind.name o.metadata.uidTag)
          | [id] => .ok id
          | ids => .error (.ambiguousIdentity o.kind.name o.metadata.uidTag ids.length)) ∧
      (o.konnectId = "" → (delete env).onObject o w = (.ok (), o, w)) ∧
      ∀ e : RemoteError, e.Absent → o.konnectId ≠ "" → o.lack? .delete = none →
        (w.ask env (o.request .delete)).1 = .error e → ((delete env).onObject o w).1 = .ok () := by
  refine ⟨⟨checked_create env o w, checked_update env o w, checked_delete env o w,
    checked_findByIdentity env o w⟩, fun o' w' run => ?_, fun x complete answer =>
    ⟨fun id => create_of_id complete answer, create_of_no_id complete answer⟩,
    fun found complete answer => find_of_found complete answer,
    fun unknown => onObject_delete_unknown env unknown w, ?_⟩
  · obtain ⟨x, id, answer, named, same⟩ := create_eq_ok run
    obtain ⟨given, -⟩ := Option.filter_eq_some_iff.mp named
    exact ⟨x, id, answer, given, usableId_ne_empty named, same ▸ o.takesId_withId id⟩
  · intro e gone known complete answer
    have run := onObject_delete env known (Object.path_of_lack?_eq_none complete).1 w
    rcases asked : w.ask env (o.request .delete) with ⟨r, w'⟩
    obtain rfl : r = .error e := by rw [← answer, asked]
    rw [show w.ask env (.delete o.place o.konnectId) = (.error e, w') from asked] at run
    rw [run]
    exact if_pos (RemoteError.isNotFound_iff.mpr gone)

section

open Scene

/-- The service with the id of an entity that Konnect does not have. -/
def lost : Object := { web with status := some ⟨⟨"ee", "", "", "cp", ""⟩, []⟩ }

/-- Without a control plane nothing is created. What is not there is created and takes the new id, can not
be updated or found, and counts as deleted. -/
theorem lost_checked_first :
    (create calm).onObject web (fresh []) =
        (.error (.missingControlPlaneId .create "KongService" "shop/web"), web, fresh []) ∧
      (∃ o' w', (create calm).onObject lost (fresh []) = (.ok (), o', w') ∧ lost.TakesId "e" o') ∧
      ((update calm).onObject lost (fresh [])).1 =
        .error (.remote .update "KongService" "shop/web" (.notFound "")) ∧
      ((findByIdentity calm).onObject lost (fresh [])).1 =
        .error (.identityNotFound "KongService" "k8s-uid:u-1") ∧
      ((delete calm).onObject lost (fresh [])).1 = .ok () := by
  obtain ⟨⟨placeless, -⟩, -⟩ := operations_check_first calm web (fresh [])
  obtain ⟨⟨-, updated, -, -⟩, takes, creates, finds, -, gone⟩ := operations_check_first calm lost (fresh [])
  have created := (creates ⟨some "e", []⟩ rfl rfl).1 "e" rfl (by decide)
  refine ⟨placeless.lacking _ rfl, ?_, updated.refused rfl _ rfl (by simp), finds [] rfl rfl,
    gone (.notFound "") (.notFound "") (by decide) rfl rfl⟩
  obtain ⟨x, id, answer, named, -, takes⟩ := takes _ _ (Prod.ext created rfl)
  cases answer
  cases named
  exact ⟨_, _, Prod.ext created rfl, takes⟩

end

end Entity

end GatewaySync
