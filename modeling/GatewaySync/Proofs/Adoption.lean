import GatewaySync.Proofs.Cloud
import GatewaySync.Proofs.Operations
/-!
# Adoption and recreation

A creation that collides looks for the entity that carries the uid of the object, and takes it over if it
is the only one with an id. An update that finds its entity gone starts over with a creation. In both the
object changes by its id alone, and what is reported is the failure of the write, not that of the search.
-/
namespace GatewaySync

/-- Konnect answers that there is such an entity already, or that a constraint is violated. -/
inductive RemoteError.Taken : RemoteError → Prop
  | conflict (body : String) : Taken (.conflict body)
  | api (message body : String) : Taken (.api 409 message body)
  | constraint (status : Nat) {body : String} (violated : isConstraintBody body = true) :
      Taken (.badRequest status body)
  | apiConstraint (status : Nat) (message : String) {body : String} (violated : isConstraintBody body = true) :
      Taken (.api status message body)

theorem RemoteError.isConflict_iff {e : RemoteError} : e.isConflict = true ↔ e.Taken := by
  constructor
  · intro taken
    cases e with
    | notFound body => cases taken
    | badRequest status body => exact .constraint status taken
    | conflict body => exact .conflict body
    | api status message body =>
      rw [isConflict, Bool.or_eq_true, decide_eq_true_eq] at taken
      rcases taken with rfl | violated
      · exact .api message body
      · exact .apiConstraint status message violated
    | transport message => cases taken
  · rintro (_ | _ | ⟨_, violated⟩ | ⟨_, _, violated⟩)
    · rfl
    · rfl
    · exact violated
    · rw [isConflict, violated, Bool.or_true]

namespace Entity

variable {σ : Type}

/-- Among the entities that were found just one has an id. -/
def Single (found : List RemoteEntity) (id : String) : Prop :=
  ∃ before x after, found = before ++ x :: after ∧ x.id = some id ∧ id ≠ "" ∧
    ∀ y ∈ before ++ after, y.id = none ∨ y.id = some ""

theorem usableId_eq_some {x : RemoteEntity} {id : String} :
    usableId x = some id ↔ x.id = some id ∧ id ≠ "" := by
  rw [usableId, Option.filter_eq_some_iff, decide_eq_true_eq]

theorem usableId_eq_none {x : RemoteEntity} : usableId x = none ↔ x.id = none ∨ x.id = some "" := by
  rw [usableId, Option.filter_eq_none_iff]
  cases x.id <;> simp

theorem single_iff {found : List RemoteEntity} {id : String} :
    found.filterMap usableId = [id] ↔ Single found id := by
  rw [List.filterMap_eq_cons_iff]
  constructor
  · rintro ⟨before, x, after, rfl, unnamed, named, rest⟩
    obtain ⟨given, real⟩ := usableId_eq_some.mp named
    refine ⟨before, x, after, rfl, given, real, fun y mem => usableId_eq_none.mp ?_⟩
    rcases List.mem_append.mp mem with mem | mem
    · exact unnamed y mem
    · exact List.filterMap_eq_nil_iff.mp rest y mem
  · rintro ⟨before, x, after, rfl, given, real, alone⟩
    refine ⟨before, x, after, rfl, fun y mem => ?_, usableId_eq_some.mpr ⟨given, real⟩, ?_⟩
    · exact usableId_eq_none.mpr (alone y (List.mem_append_left _ mem))
    · exact List.filterMap_eq_nil_iff.mpr fun y mem =>
        usableId_eq_none.mpr (alone y (List.mem_append_right _ mem))

/-- The id that Konnect's answers give to an object that is created or adopted. -/
inductive Yields (env : Environment σ) (o : Object) (w : World σ) : String → Prop
  | created {x : RemoteEntity} {id : String} (complete : o.lack? .create = none)
      (answer : (w.ask env (o.request .create)).1 = .ok x) (given : x.id = some id) (real : id ≠ "") :
      Yields env o w id
  | adopted {e : RemoteError} {found : List RemoteEntity} {id : String} (complete : o.lack? .create = none)
      (answer : (w.ask env (o.request .create)).1 = .error e) (taken : e.Taken)
      (search : ((w.ask env (o.request .create)).2.ask env (o.request .list)).1 = .ok found)
      (single : Single found id) : Yields env o w id

def Lost (env : Environment σ) (o : Object) (w : World σ) : Prop :=
  o.lack? .update = none ∧ ∃ e : RemoteError, (w.ask env (o.request .update)).1 = .error e ∧ e.Absent

section

variable {env : Environment σ} {o : Object} {w : World σ}

theorem createOrAdopt_of_yields {id : String} (yields : Yields env o w id) :
    ∃ w', (createOrAdopt env).onObject o w = (.ok (), o.withId id, w') := by
  cases yields with
  | @created x _ complete answer given real =>
    have named : usableId x = some id := usableId_eq_some.mpr ⟨given, real⟩
    rcases create_cases env w complete with ⟨e, other, -⟩ | ⟨y, other, unnamed, -⟩ |
      ⟨y, id', other, named', created⟩ <;> rw [answer] at other <;> cases other
    · rw [named] at unnamed
      cases unnamed
    · rw [named] at named'
      cases named'
      exact ⟨_, onObject_createOrAdopt env created⟩
  | @adopted e found _ complete answer taken search single =>
    have path := (Object.path_of_lack?_eq_none complete).1
    have created := (checked_create env o w).run_of_refused complete answer (by simp)
    have searched := onObject_findByIdentity env (o.path_list path) (w.ask env (o.request .create)).2
    have search : (World.ask env (.list o.place o.listFilter) (w.ask env (o.request .create)).2).1 = .ok found :=
      search
    have only : onlyId o found = .ok id := onlyId_eq_ok.mpr (single_iff.mpr single)
    rw [search] at searched
    simp only [Except.mapError, bind, Except.bind, only] at searched
    have run := onObject_createOrAdopt env created
    simp only [failed, SyncError.isRemoteConflict, RemoteError.isConflict_iff.mpr taken, if_true] at run
    rw [searched] at run
    exact ⟨_, run⟩

theorem takesId_of_yields {id : String} (yields : Yields env o w id) :
    o.TakesId id ((createOrAdopt env).onObject o w).2.1 := by
  obtain ⟨w', run⟩ := createOrAdopt_of_yields yields
  rw [run]
  exact o.takesId_withId id

theorem yields_of_isOk (ok : ((createOrAdopt env).onObject o w).1.isOk = true) : ∃ id, Yields env o w id := by
  cases lacking : o.lack? .create with
  | some e =>
    have pathless := Object.path_of_lack? (by decide) lacking
    have failed := onObject_createOrAdopt env (onObject_create_pathless env pathless w)
    simp only [SyncError.isRemoteConflict_of_isMissingReference (Object.path_error pathless)] at failed
    rw [failed] at ok
    cases ok
  | none =>
    have path := (Object.path_of_lack?_eq_none lacking).1
    rcases createOrAdopt_speaks env path w with ⟨talk, id, w', speaks, talked, -⟩ | ⟨_, _, _, -, -, failed⟩
    · refine ⟨id, ?_⟩
      cases speaks with
      | created named =>
        obtain ⟨answer, -⟩ := talked.said
        obtain ⟨given, real⟩ := usableId_eq_some.mp named
        exact .created lacking answer.symm given real
      | adopted conflict one =>
        obtain ⟨answer, talked⟩ := talked.said
        obtain ⟨search, -⟩ := talked.said
        have taken := RemoteError.isConflict_iff.mp conflict
        exact .adopted lacking answer.symm taken search.symm (single_iff.mp one)
    · rw [failed] at ok
      cases ok

theorem createOrAdopt_fails {e : SyncError} (failed : ((createOrAdopt env).onObject o w).1 = .error e) :
    ((create env).onObject o w).1 = .error e ∧ ((createOrAdopt env).onObject o w).2.1 = o := by
  have kept := (checked_create env o w).atomic
  rcases created : (create env).onObject o w with ⟨e₁ | ⟨⟩, o₁, w₁⟩ <;>
    rw [onObject_createOrAdopt env created] at failed ⊢ <;> rw [created] at kept
  · obtain rfl : o₁ = o := kept e₁ rfl
    dsimp only at failed ⊢
    split at failed
    next collides =>
      rw [if_pos collides]
      have still := (checked_findByIdentity env o₁ w₁).still (by decide)
      rcases searched : (findByIdentity env).onObject o₁ w₁ with ⟨e₂ | id, o₂, w₂⟩ <;>
        rw [searched] at failed still <;> cases failed
      exact ⟨rfl, still⟩
    next other =>
      cases failed
      exact ⟨rfl, by rw [if_neg other]⟩
  · cases failed

/-- What the object lacks for its update is no answer of Konnect. -/
theorem lacks_no_entity {e : SyncError} (lacking : o.lack? .update = some e) : e.isRemoteNotFound = false := by
  rcases Object.path_of_lack?_eq_some lacking with pathless | ⟨-, -, -, rfl⟩
  · exact SyncError.isRemoteNotFound_of_isMissingReference (Object.path_error pathless)
  · rfl

theorem updateOrRecreate_of_not_lost (there : ¬ Lost env o w) :
    (updateOrRecreate env).onObject o w = (update env).onObject o w := by
  rcases updated : (update env).onObject o w with ⟨e | ⟨⟩, o₁, w₁⟩
  · rw [onObject_updateOrRecreate env updated]
    refine if_neg fun missing => ?_
    cases lacking : o.lack? .update with
    | some e' =>
      rw [(checked_update env o w).lacking e' lacking] at updated
      cases updated
      rw [lacks_no_entity lacking] at missing
      cases missing
    | none =>
      have checked := checked_update env o w
      cases answer : (w.ask env (o.request .update)).1 with
      | error source =>
        rw [checked.run_of_refused lacking answer (by simp)] at updated
        cases updated
        exact there ⟨lacking, source, answer, RemoteError.isNotFound_iff.mp missing⟩
      | ok x =>
        have ok := checked.accepted lacking (.inl rfl) (by rw [answer]; rfl)
        rw [updated] at ok
        cases ok
  · exact onObject_updateOrRecreate env updated

theorem updateOrRecreate_of_lost (lost : Lost env o w) : (updateOrRecreate env).onObject o w =
    (createOrAdopt env).onObject (o.withId "") (w.ask env (o.request .update)).2 := by
  obtain ⟨complete, e, answer, absent⟩ := lost
  have updated := (checked_update env o w).run_of_refused complete answer (by simp)
  rw [onObject_updateOrRecreate env updated]
  exact if_pos (RemoteError.isNotFound_iff.mpr absent)

end

/-- An object is created or adopted exactly if Konnect's answers give it an id, and then it has this id.
Otherwise it stays as it is, and the failure is that of the creation. An update is all that is done of an
object whose entity is there, so that a collision it meets is reported and not adopted. An object whose
entity is gone is created or adopted without its id: it ends with the new one, or with none. Nothing of any
object but its id is touched. -/
theorem adoption_outcomes (env : Environment σ) (o : Object) (w : World σ) :
    (((createOrAdopt env).onObject o w).1.isOk = true ↔ ∃ id, Yields env o w id) ∧
      (∀ id, Yields env o w id → o.TakesId id ((createOrAdopt env).onObject o w).2.1) ∧
      (∀ e, ((createOrAdopt env).onObject o w).1 = .error e →
        ((create env).onObject o w).1 = .error e ∧ ((createOrAdopt env).onObject o w).2.1 = o) ∧
      (¬ Lost env o w → (updateOrRecreate env).onObject o w = (update env).onObject o w ∧
        ((updateOrRecreate env).onObject o w).2.1 = o) ∧
      (∀ e : RemoteError, e.Taken → ¬ e.Absent → o.lack? .update = none →
        (w.ask env (o.request .update)).1 = .error e → (updateOrRecreate env).onObject o w =
          (.error (.remote .update o.kind.name o.keyText e), o, (w.ask env (o.request .update)).2)) ∧
      (Lost env o w →
        let gone := (w.ask env (o.request .update)).2
        (updateOrRecreate env).onObject o w = (createOrAdopt env).onObject (o.withId "") gone ∧
        (((updateOrRecreate env).onObject o w).1.isOk = true → ∃ id, Yields env (o.withId "") gone id ∧
          o.TakesId id ((updateOrRecreate env).onObject o w).2.1) ∧
        ∀ e, ((updateOrRecreate env).onObject o w).1 = .error e →
          o.TakesId "" ((updateOrRecreate env).onObject o w).2.1) := by
  refine ⟨⟨yields_of_isOk, ?_⟩, fun id => takesId_of_yields, fun e => createOrAdopt_fails, fun there => ?_, ?_,
    fun lost => ?_⟩
  · rintro ⟨id, yields⟩
    obtain ⟨w', run⟩ := createOrAdopt_of_yields yields
    rw [run]
    rfl
  · rw [updateOrRecreate_of_not_lost there]
    exact ⟨rfl, (checked_update env o w).still (by decide)⟩
  · intro e taken there complete answer
    have present : ¬ Lost env o w := by
      rintro ⟨-, e', answer', absent⟩
      rw [answer, Except.error.injEq] at answer'
      exact there (answer' ▸ absent)
    rw [updateOrRecreate_of_not_lost present]
    exact (checked_update env o w).run_of_refused complete answer (by simp)
  · intro gone
    rw [updateOrRecreate_of_lost lost]
    refine ⟨rfl, fun ok => ?_, fun e failed => ?_⟩
    · obtain ⟨id, yields⟩ := yields_of_isOk ok
      exact ⟨id, yields, (o.takesId_withId "").trans (takesId_of_yields yields)⟩
    · rw [(createOrAdopt_fails failed).2]
      exact o.takesId_withId ""

section

open Scene

/-- A Konnect that has the service, beside two entities without an id, but not under the id that is written. -/
def estranged : Environment Cloud :=
  { calm with
    answer
      | .create _ _, x => (.error (.conflict ""), x)
      | .upsert _ _ _, x => (.error (.notFound ""), x)
      | .list _ _, x => (.ok [⟨none, []⟩, ⟨some "e", []⟩, ⟨some "", []⟩], x)
      | call, x => calm.answer call x }

def remembering : Object := (web.withControlPlaneId "cp").withId "lost"

/-- The entity is lost, its creation collides, and the only one with an id is adopted. -/
theorem web_adopted : Lost estranged remembering (fresh []) ∧
    ((updateOrRecreate estranged).onObject remembering (fresh [])).1.isOk = true ∧
      ((updateOrRecreate estranged).onObject remembering (fresh [])).2.1.konnectId = "e" := by
  have lost : Lost estranged remembering (fresh []) := ⟨by decide, .notFound "", rfl, .notFound ""⟩
  obtain ⟨-, -, -, -, -, recreated⟩ := adoption_outcomes estranged remembering (fresh [])
  obtain ⟨run, -, -⟩ := recreated lost
  obtain ⟨created, takes, -⟩ := adoption_outcomes estranged (remembering.withId "")
    ((fresh []).ask estranged (remembering.request .update)).2
  have yields : Yields estranged (remembering.withId "")
      ((fresh []).ask estranged (remembering.request .update)).2 "e" :=
    .adopted (by decide) rfl (.conflict "") rfl ⟨[⟨none, []⟩], _, [⟨some "", []⟩], rfl, rfl, by decide, by simp⟩
  rw [run]
  exact ⟨lost, created.mpr ⟨"e", yields⟩, congrArg Coordinates.id (takes "e" yields).konnect⟩

end

end Entity

end GatewaySync
