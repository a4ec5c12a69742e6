import GatewaySync.Proofs.History
import GatewaySync.Proofs.Konnect
import Mathlib.Data.List.Nodup
/-!
# A Konnect in memory

It keeps a list of entities, gives out ids that differ, and answers by the laws of an inventory. With a
service in a control plane it makes a small cluster, where runs of a certain kind can be shown to exist.
-/
namespace GatewaySync

structure StoredEntity where
  path : EntityPath
  serial : Nat
  body : Json

def mintedId (serial : Nat) : String := String.ofList (List.replicate (serial + 1) 'e')

def StoredEntity.id (e : StoredEntity) : String := mintedId e.serial

/-- A Konnect in memory, with the store calls that are still to fail. -/
structure Cloud where
  entities : List StoredEntity
  minted : Nat
  refusals : List StoreCall
  given : ∀ e ∈ entities, e.serial < minted
  distinct : (entities.map (·.serial)).Nodup

namespace Cloud

def empty (refusals : List StoreCall) : Cloud := ⟨[], 0, refusals, by simp, by simp⟩

def carriers (x : Cloud) (p : EntityPath) (f : ListFilter) : List StoredEntity :=
  x.entities.filter fun e => e.path = p && f.finds e.body

def find? (x : Cloud) (p : EntityPath) (id : String) : Option StoredEntity :=
  x.entities.find? fun e => e.path = p && e.id = id

def create (x : Cloud) (p : EntityPath) (body : Json) : Except RemoteError RemoteEntity × Cloud :=
  if body.uidMarks.any fun f => (x.carriers p f).length ≠ 0 then (.error (.conflict ""), x)
  else
    (.ok ⟨some (mintedId x.minted), []⟩,
      { x with
        entities := x.entities ++ [⟨p, x.minted, body⟩]
        minted := x.minted + 1
        given := by
          intro e he
          rcases List.mem_append.mp he with he | he
          · exact Nat.lt_succ_of_lt (x.given e he)
          · rw [List.mem_singleton.mp he]
            exact Nat.lt_succ_self _
        distinct := by
          rw [List.map_append, List.nodup_append]
          refine ⟨x.distinct, by simp, fun n hn m hm => ?_⟩
          obtain ⟨e, he, rfl⟩ := List.mem_map.mp hn
          rw [List.mem_singleton.mp hm]
          exact Nat.ne_of_lt (x.given e he) })

def rewritten (p : EntityPath) (id : String) (body : Json) (e : StoredEntity) : StoredEntity :=
  if e.path = p ∧ e.id = id then { e with body := body } else e

@[simp] theorem rewritten_serial (p : EntityPath) (id : String) (body : Json) (e : StoredEntity) :
    (rewritten p id body e).serial = e.serial := by
  unfold rewritten
  split <;> rfl

@[simp] theorem rewritten_path (p : EntityPath) (id : String) (body : Json) (e : StoredEntity) :
    (rewritten p id body e).path = e.path := by
  unfold rewritten
  split <;> rfl

@[simp] theorem rewritten_id (p : EntityPath) (id : String) (body : Json) (e : StoredEntity) :
    (rewritten p id body e).id = e.id := by
  simp [StoredEntity.id]

theorem rewritten_body (p : EntityPath) (id : String) (body : Json) (e : StoredEntity) :
    (rewritten p id body e).body = if e.path = p ∧ e.id = id then body else e.body := by
  unfold rewritten
  split <;> rfl

def upsert (x : Cloud) (p : EntityPath) (id : String) (body : Json) :
    Except RemoteError RemoteEntity × Cloud :=
  if (x.find? p id).isNone then (.error (.notFound ""), x)
  else
    (.ok ⟨some id, []⟩,
      { x with
        entities := x.entities.map (rewritten p id body)
        given := by
          intro e he
          obtain ⟨d, hd, rfl⟩ := List.mem_map.mp he
          rw [rewritten_serial]
          exact x.given d hd
        distinct := by
          rw [List.map_map]
          simpa [Function.comp_def] using x.distinct })

def delete (x : Cloud) (p : EntityPath) (id : String) : Except RemoteError Unit × Cloud :=
  if (x.find? p id).isNone then (.error (.notFound ""), x)
  else
    (.ok (),
      { x with
        entities := x.entities.filter fun e => !(e.path = p && e.id = id)
        given := fun e he => x.given e (List.mem_filter.mp he).1
        distinct := x.distinct.sublist (List.filter_sublist.map _) })

def list (x : Cloud) (p : EntityPath) (f : ListFilter) : List RemoteEntity :=
  (x.carriers p f).map fun e => ⟨some e.id, e.body.entityTags⟩

/-- The answers of a Konnect in memory, in surroundings that are yet to be told. -/
def environment (fault : StoreCall → Cloud → Option StoreFault × Cloud) (disturb : Store → Store) :
    Environment Cloud where
  serverUrl := "https://konnect.test"
  fault := fault
  disturb _ s x := (disturb s, x)
  answer
    | .create p body, x => x.create p body
    | .upsert p id body, x => x.upsert p id body
    | .delete p id, x => x.delete p id
    | .list p f, x => (.ok (x.list p f), x)
    | .organizationId, x => (.ok "org", x)

def unavailable : ApiError := ⟨"Failure", "etcd is unavailable", "ServiceUnavailable", 503⟩

/-- Fails the store calls that are to fail, each once. -/
def refuse (call : StoreCall) (x : Cloud) : Option StoreFault × Cloud :=
  if call ∈ x.refusals then
    (some (.refuse unavailable), { x with refusals := x.refusals.erase call })
  else (none, x)

theorem mintedId_injective {m n : Nat} (h : mintedId m = mintedId n) : m = n := by
  have lengths := congrArg (fun s => s.toList.length) h
  simpa [mintedId] using lengths

theorem usableId_minted (n : Nat) (tags : List String) :
    Entity.usableId ⟨some (mintedId n), tags⟩ = some (mintedId n) := by
  have given : mintedId n ≠ "" := by
    intro empty
    have lengths := congrArg (fun s => s.toList.length) empty
    simp [mintedId] at lengths
  simp [Entity.usableId, given]

theorem eq_of_id {x : Cloud} {d e : StoredEntity} (hd : d ∈ x.entities) (he : e ∈ x.entities)
    (same : d.id = e.id) : d = e :=
  List.inj_on_of_nodup_map x.distinct hd he (mintedId_injective same)

theorem find?_eq_some {x : Cloud} {p : EntityPath} {id : String} {e : StoredEntity} :
    x.find? p id = some e ↔ e ∈ x.entities ∧ e.path = p ∧ e.id = id := by
  constructor
  · intro found
    have here := List.find?_some found
    simp only [Bool.and_eq_true, decide_eq_true_eq] at here
    exact ⟨List.mem_of_find?_eq_some found, here⟩
  · rintro ⟨mem, here, named⟩
    cases found : x.find? p id with
    | none =>
      have other := List.find?_eq_none.mp found e mem
      simp [here, named] at other
    | some d =>
      have there := List.find?_some found
      simp only [Bool.and_eq_true, decide_eq_true_eq] at there
      exact congrArg some (eq_of_id (List.mem_of_find?_eq_some found) mem (there.2.trans named.symm))

def inventory (x : Cloud) : Inventory where
  body? p id := (x.find? p id).map (·.body)
  used id := ∃ n < x.minted, mintedId n = id
  accounted p id there := by
    obtain ⟨e, found⟩ := Option.ne_none_iff_exists'.mp (mt (Option.map_eq_none_iff.mpr) there)
    obtain ⟨mem, -, named⟩ := find?_eq_some.mp found
    exact ⟨e.serial, x.given e mem, named⟩

theorem body?_eq_some {x : Cloud} {p : EntityPath} {id : String} {body : Json} :
    x.inventory.body? p id = some body ↔
      ∃ e ∈ x.entities, e.path = p ∧ e.id = id ∧ e.body = body := by
  change (x.find? p id).map (·.body) = some body ↔ _
  simp only [Option.map_eq_some_iff, find?_eq_some, and_assoc]

theorem carries_iff {x : Cloud} {p : EntityPath} {f : ListFilter} {id : String} :
    x.inventory.Carries p f id ↔ ∃ e ∈ x.carriers p f, e.id = id := by
  simp only [Inventory.Carries, body?_eq_some, carriers, List.mem_filter, Bool.and_eq_true,
    decide_eq_true_eq]
  constructor
  · rintro ⟨-, ⟨e, mem, here, named, rfl⟩, finds⟩
    exact ⟨e, ⟨mem, here, finds⟩, named⟩
  · rintro ⟨e, ⟨mem, here, finds⟩, named⟩
    exact ⟨e.body, ⟨e, mem, here, named, rfl⟩, finds⟩

theorem find?_isNone {x : Cloud} {p : EntityPath} {id : String} :
    (x.find? p id).isNone ↔ x.inventory.body? p id = none := by
  rw [Option.isNone_iff_eq_none]
  exact Option.map_eq_none_iff.symm

theorem taken_iff {x : Cloud} {p : EntityPath} {body : Json} :
    (body.uidMarks.any fun f => (x.carriers p f).length ≠ 0) ↔
      ∃ f ∈ body.uidMarks, ∃ id, x.inventory.Carries p f id := by
  simp only [List.any_eq_true, decide_eq_true_eq, carries_iff]
  refine exists_congr fun f => and_congr_right fun _ => ?_
  rw [ne_eq, List.length_eq_zero_iff]
  constructor
  · intro some
    obtain ⟨e, he⟩ := List.exists_mem_of_ne_nil _ some
    exact ⟨e.id, e, he, rfl⟩
  · rintro ⟨id, e, he, -⟩
    exact List.ne_nil_of_mem he

section

variable {x : Cloud} {p : EntityPath} {id : String} {body : Json}

theorem body?_create (free : ¬ ∃ f ∈ body.uidMarks, ∃ id, x.inventory.Carries p f id) :
    (x.create p body).2.inventory.body? =
      (x.inventory.written p (mintedId x.minted) body).body? := by
  ext q id b
  rw [body?_eq_some, create, if_neg (mt taken_iff.mp free)]
  simp only [Inventory.written, List.mem_append, List.mem_singleton]
  split_ifs with same
  · obtain ⟨rfl, rfl⟩ := same
    constructor
    · rintro ⟨e, mem | rfl, -, named, rfl⟩
      · exact absurd (mintedId_injective named) (Nat.ne_of_lt (x.given e mem))
      · rfl
    · intro eq
      cases eq
      exact ⟨_, .inr rfl, rfl, rfl, rfl⟩
  · rw [body?_eq_some]
    constructor
    · rintro ⟨e, mem | rfl, here, named, held⟩
      · exact ⟨e, mem, here, named, held⟩
      · exact absurd ⟨here.symm, named.symm⟩ same
    · rintro ⟨e, mem, found⟩
      exact ⟨e, .inl mem, found⟩

theorem used_create (free : ¬ ∃ f ∈ body.uidMarks, ∃ id, x.inventory.Carries p f id) :
    (x.create p body).2.inventory.used = (x.inventory.written p (mintedId x.minted) body).used := by
  ext id
  rw [create, if_neg (mt taken_iff.mp free)]
  change (∃ n < x.minted + 1, mintedId n = id) ↔ id = mintedId x.minted ∨ ∃ n < x.minted, _
  constructor
  · rintro ⟨n, given, rfl⟩
    rcases Nat.lt_succ_iff_lt_or_eq.mp given with given | rfl
    · exact .inr ⟨n, given, rfl⟩
    · exact .inl rfl
  · rintro (rfl | ⟨n, given, named⟩)
    · exact ⟨x.minted, Nat.lt_succ_self _, rfl⟩
    · exact ⟨n, Nat.lt_succ_of_lt given, named⟩

theorem create_of_free (free : ¬ ∃ f ∈ body.uidMarks, ∃ id, x.inventory.Carries p f id) :
    (x.create p body).1 = .ok ⟨some (mintedId x.minted), []⟩ ∧
      (x.create p body).2.inventory = x.inventory.written p (mintedId x.minted) body := by
  constructor
  · rw [create, if_neg (mt taken_iff.mp free)]
  · exact Inventory.ext (body?_create free) (used_create free)

theorem body?_upsert (present : x.inventory.body? p id ≠ none) :
    (x.upsert p id body).2.inventory.body? = (x.inventory.written p id body).body? := by
  ext q other b
  rw [body?_eq_some, upsert, if_neg (mt find?_isNone.mp present)]
  simp only [Inventory.written, List.mem_map, exists_exists_and_eq_and, rewritten_path,
    rewritten_id, rewritten_body]
  split_ifs with same
  · obtain ⟨rfl, rfl⟩ := same
    obtain ⟨old, found⟩ := Option.ne_none_iff_exists'.mp present
    obtain ⟨e, mem, here, named, -⟩ := body?_eq_some.mp found
    constructor
    · rintro ⟨d, -, there, called, written⟩
      rw [if_pos ⟨there, called⟩] at written
      exact congrArg some written
    · intro eq
      cases eq
      exact ⟨e, mem, here, named, if_pos ⟨here, named⟩⟩
  · rw [body?_eq_some]
    refine exists_congr fun e => and_congr_right fun _ => ?_
    constructor
    · rintro ⟨rfl, rfl, held⟩
      exact ⟨rfl, rfl, (if_neg same).symm.trans held⟩
    · rintro ⟨rfl, rfl, held⟩
      exact ⟨rfl, rfl, (if_neg same).trans held⟩

theorem used_upsert (present : x.inventory.body? p id ≠ none) :
    (x.upsert p id body).2.inventory.used = (x.inventory.written p id body).used := by
  ext other
  rw [upsert, if_neg (mt find?_isNone.mp present)]
  constructor
  · exact .inr
  · rintro (rfl | used)
    · exact x.inventory.accounted p _ present
    · exact used

theorem upsert_of_present (present : x.inventory.body? p id ≠ none) :
    (x.upsert p id body).1 = .ok ⟨some id, []⟩ ∧
      (x.upsert p id body).2.inventory = x.inventory.written p id body := by
  constructor
  · rw [upsert, if_neg (mt find?_isNone.mp present)]
  · exact Inventory.ext (body?_upsert present) (used_upsert present)

end

theorem delete_within (x : Cloud) (p : EntityPath) (id : String) :
    (x.delete p id).2.inventory.Within x.inventory := by
  unfold delete
  split_ifs
  · exact .refl _
  · intro q other body there
    obtain ⟨e, mem, found⟩ := body?_eq_some.mp there
    exact body?_eq_some.mpr ⟨e, (List.mem_filter.mp mem).1, found⟩

theorem list_filterMap (x : Cloud) (p : EntityPath) (f : ListFilter) :
    (x.list p f).filterMap Entity.usableId = (x.carriers p f).map (·.id) := by
  rw [list, List.filterMap_map]
  exact (List.filterMap_congr fun e _ => usableId_minted e.serial _).trans
    (congrFun List.filterMap_eq_map _)

theorem carriers_nodup (x : Cloud) (p : EntityPath) (f : ListFilter) :
    ((x.carriers p f).map (·.id)).Nodup := by
  have serials : ((x.carriers p f).map (·.serial)).Nodup :=
    x.distinct.sublist (List.filter_sublist.map _)
  have minted := serials.map fun m n => mintedId_injective
  rw [List.map_map] at minted
  exact minted

/-- The answers keep the laws, whatever becomes of store calls and of the store. -/
theorem laws {fault : StoreCall → Cloud → Option StoreFault × Cloud} (disturb : Store → Store)
    (quiet : ∀ call x, (fault call x).2.inventory = x.inventory) :
    Inventory.Laws (environment fault disturb) inventory where
  fault := quiet
  disturb _ _ _ := rfl
  create_taken p body x taken := by
    have answer : x.create p body = (.error (.conflict ""), x) := if_pos (taken_iff.mpr taken)
    change (∃ e, (x.create p body).1 = .error e ∧ e.isConflict) ∧ (x.create p body).2.inventory = _
    rw [answer]
    exact ⟨⟨_, rfl, rfl⟩, rfl⟩
  create_free p body x free :=
    ⟨_, _, (create_of_free free).1, usableId_minted _ _, by
      rintro ⟨n, given, same⟩
      exact absurd (mintedId_injective same) (Nat.ne_of_lt given), (create_of_free free).2⟩
  upsert_absent p id body x absent := by
    have answer : x.upsert p id body = (.error (.notFound ""), x) := if_pos (find?_isNone.mpr absent)
    change (∃ e, (x.upsert p id body).1 = .error e ∧ e.isNotFound) ∧
      (x.upsert p id body).2.inventory = _
    rw [answer]
    exact ⟨⟨_, rfl, rfl⟩, rfl⟩
  upsert_present p id body x present := by
    obtain ⟨answer, written⟩ := upsert_of_present present
    refine ⟨fun e failed => ?_, .inr written⟩
    cases answer.symm.trans failed
  delete p id x := delete_within x p id
  list p f x := by
    refine ⟨_, rfl, ?_, fun id => ?_, rfl⟩
    · rw [list_filterMap]
      exact carriers_nodup x p f
    · rw [list_filterMap, carries_iff, List.mem_map]
  organizationId _ := rfl

theorem refuse_inventory (call : StoreCall) (x : Cloud) :
    (refuse call x).2.inventory = x.inventory := by
  unfold refuse
  split <;> rfl

def cleared (x : Cloud) : Cloud := { x with entities := [], given := by simp, distinct := by simp }

theorem cleared_within (x : Cloud) : x.cleared.inventory.Within x.inventory := by
  intro p id body there
  cases there

end Cloud

end GatewaySync

namespace GatewaySync.Scene

/-- A service in the control plane with the id `cp`, as a user wrote it. -/
def web : Object where
  metadata := { (default : Metadata) with name := some "web", ns := some "shop", uid := some "u-1" }
  spec := .service ⟨some (.konnectId "cp"), none, "example.org", none, none, none, none, []⟩
  status := none

def webKey : Key := ⟨ManagedKind.service, "shop", "web"⟩

def services : EntityPath := .controlPlane "cp" "services"

/-- Nobody else writes, and the store refuses what is left to be refused. -/
def flaky : Environment Cloud := Cloud.environment Cloud.refuse id

theorem flaky_solitary : flaky.Solitary where
  undisturbed _ _ _ := rfl
  present call x := by
    change (Cloud.refuse call x).1 ≠ _
    unfold Cloud.refuse
    split <;> simp

/-- Nobody else writes, and the store does all that it is asked for. -/
def calm : Environment Cloud := Cloud.environment (fun _ x => (none, x)) id

theorem calm_writable : calm.Writable where
  undisturbed _ _ _ := rfl
  status _ _ := rfl
  metadata _ _ := rfl

/-- A world of the given store and Konnect in which nothing was said yet. -/
def world (s : Store) (x : Cloud) : World Cloud := ⟨s, x, ⟨0, 0⟩, Backoff.empty, [], []⟩

def webVisit (env : Environment Cloud) (w : World Cloud) : Reconcile.Visit Cloud :=
  Reconcile.visit env OperatorSettings.default .service "shop" "web" w

theorem failed_of_told {α : Type} {r : Except SyncError α} {e : SyncError}
    (told : (match r with | .error e => some e | .ok _ => none) = some e) : r = .error e := by
  cases r <;> cases told
  rfl

def edit (k : Key) (change : Object → Object) (s : Store) : Store :=
  match s.findObject? k with
  | some o => s.put (.managed (change o))
  | none => s

theorem edit_keepsStatus {change : Object → Object} (k k' : Key) (s : Store)
    (kept : ∀ o, (change o).key = o.key ∧ (change o).metadata.uid = o.metadata.uid ∧
      (change o).status = o.status) : s.KeepsStatus k' (edit k change s) := by
  intro o stored
  unfold edit at stored
  split at stored
  · rename_i old found
    obtain ⟨key, uid, status⟩ := kept old
    rw [Store.findObject?_put, key, Store.key_of_findObject? found] at stored
    split_ifs at stored with same
    · cases stored
      exact ⟨old, same ▸ found, uid, status⟩
    · exact ⟨o, stored, rfl, rfl⟩
  · exact ⟨o, stored, rfl, rfl⟩

/-- The store once the deletion of an object was asked for. -/
def mark (k : Key) : Store → Store :=
  edit k fun o => { o with metadata := { o.metadata with deletionTimestamp := some ⟨0, 0⟩ } }

theorem mark_keepsStatus (k k' : Key) (s : Store) : s.KeepsStatus k' (mark k s) :=
  edit_keepsStatus k k' s fun _ => ⟨rfl, rfl, rfl⟩

def markWeb (w : World Cloud) : World Cloud := { w with store := mark webKey w.store }

/-- The service, about to be looked at for the first time; the given store calls will fail. -/
def fresh (refusals : List StoreCall) : World Cloud :=
  world (Store.empty.put (.managed web)) (Cloud.empty refusals)

def opening (env : Environment Cloud) (refusals : List StoreCall) : Reconcile.Visit Cloud :=
  webVisit env (fresh refusals)

/-- The pass after its deletion was asked for. -/
def closing (env : Environment Cloud) (refusals : List StoreCall) : Reconcile.Visit Cloud :=
  webVisit env (markWeb (opening env refusals).after)

theorem opening_history (env : Environment Cloud) (refusals : List StoreCall) :
    Reconcile.History env OperatorSettings.default
      (fun w w' => w.store.KeepsStatus webKey w'.store) (fresh refusals) [opening env refusals]
      (closing env refusals).before :=
  (Reconcile.History.begin.pass .service "shop" "web").meanwhile (mark_keepsStatus webKey webKey _)

end GatewaySync.Scene
