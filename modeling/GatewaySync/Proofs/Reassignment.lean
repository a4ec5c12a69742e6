import GatewaySync.Proofs.CallDiscipline
import GatewaySync.Proofs.Cloud
/-!
# How the id of an entity changes

Of all that a pass stores, the id is what finds the entity again. It is given by an answer of Konnect in
the very pass that stores it, and it is given up only for an answer that the entity is gone. Everything
else that a pass may come to leaves it alone.
-/
namespace GatewaySync

open World Entity

/-- An answer of the talk gives the id: of a creation, or of the search after a creation that collided. -/
inductive Obtains (talk : List Exchange) (id : String) : Prop
  | created {s : Store} {p : EntityPath} {body : Json} {x : RemoteEntity}
      (said : ⟨s, .create p body, .ok x⟩ ∈ talk) (named : usableId x = some id)
  | found {s t : Store} {p q : EntityPath} {body : Json} {filter : ListFilter} {e : RemoteError}
      {found : List RemoteEntity}
      (said : [⟨s, .create p body, .error e⟩, ⟨t, .list q filter, .ok found⟩] <:+: talk)
      (conflict : e.isConflict = true) (one : found.filterMap usableId = [id])

/-- An answer of the talk tells that there is no entity to be written under the id. -/
def Misses (talk : List Exchange) (id : String) : Prop :=
  ∃ s p body e, (⟨s, .upsert p id body, .error e⟩ : Exchange) ∈ talk ∧ e.isNotFound = true

inductive IdMoves (talk : List Exchange) : String → String → Prop
  | kept (id : String) : IdMoves talk id id
  | learned {id : String} (given : id ≠ "") (obtained : Obtains talk id) : IdMoves talk "" id
  | forgotten {known : String} (hk : known ≠ "") (gone : Misses talk known) : IdMoves talk known ""
  | replaced {known id : String} (hk : known ≠ "") (gone : Misses talk known) (given : id ≠ "")
      (obtained : Obtains talk id) : IdMoves talk known id

section

variable {p : EntityPath} {body : Json} {filter : ListFilter} {talk more : List Exchange} {ok : Bool}
  {known id : String}

theorem Obtains.ne_empty (h : Obtains talk id) : id ≠ "" := by
  cases h with
  | created _ named => exact usableId_ne_empty named
  | found _ _ one => exact only_ne_empty one

theorem Obtains.mono (h : Obtains talk id) (part : talk <:+: more) : Obtains more id := by
  cases h with
  | created said named => exact .created (part.subset said) named
  | found said conflict one => exact .found (said.trans part) conflict one

theorem Misses.mono (h : Misses talk id) (part : talk <:+: more) : Misses more id := by
  obtain ⟨s, p, body, e, said, gone⟩ := h
  exact ⟨s, p, body, e, part.subset said, gone⟩

theorem IdMoves.mono (h : IdMoves talk known id) (part : talk <:+: more) : IdMoves more known id := by
  cases h with
  | kept => exact .kept known
  | learned given obtained => exact .learned given (obtained.mono part)
  | forgotten hk gone => exact .forgotten hk (gone.mono part)
  | replaced hk gone given obtained => exact .replaced hk (gone.mono part) given (obtained.mono part)

/-- Without an answer that gives an id or takes it, the id stays. -/
theorem IdMoves.eq (h : IdMoves talk known id) (given : ∀ other, ¬ Obtains talk other)
    (there : ∀ other, ¬ Misses talk other) : id = known := by
  cases h with
  | kept => rfl
  | learned _ obtained => exact absurd obtained (given id)
  | forgotten _ gone => exact absurd gone (there known)
  | replaced _ gone => exact absurd gone (there known)

/-- A new id was obtained, and the entity of an old one is gone. -/
theorem IdMoves.of_ne (h : IdMoves talk known id) (other : id ≠ known) (given : id ≠ "") :
    Obtains talk id ∧ (known ≠ "" → Misses talk known) := by
  cases h with
  | kept => exact absurd rfl other
  | learned _ obtained => exact ⟨obtained, fun hk => absurd rfl hk⟩
  | forgotten => exact absurd rfl given
  | replaced _ gone _ obtained => exact ⟨obtained, fun _ => gone⟩

theorem IdMoves.eq_of_nil (h : IdMoves [] known id) : id = known := by
  refine h.eq (fun other obtained => ?_) fun other gone => ?_
  · cases obtained with
    | created said => cases said
    | found said => cases List.infix_nil.mp said
  · obtain ⟨s, p, body, e, said, -⟩ := gone
    cases said

theorem Creation.obtains (h : Creation p body filter talk ok id) : Obtains talk id ∨ id = "" := by
  cases h with
  | created named => exact .inl (.created (List.mem_singleton_self _) named)
  | adopted conflict one => exact .inl (.found List.infix_rfl conflict one)
  | unnamed | refused | contested | unlisted => exact .inr rfl

theorem Writing.moves (h : Writing p body filter known talk ok id) : IdMoves talk known id := by
  cases h with
  | created h =>
    rcases h.obtains with obtained | rfl
    · exact .learned obtained.ne_empty obtained
    · exact .kept ""
  | updated => exact .kept known
  | refused => exact .kept known
  | @recreated s _ e talk _ _ hk gone h =>
    have missed : Misses (⟨s, .upsert p known body, .error e⟩ :: talk) known :=
      ⟨s, p, body, e, List.mem_cons_self, gone⟩
    rcases h.obtains with obtained | rfl
    · exact .replaced hk missed obtained.ne_empty
        (obtained.mono (List.suffix_cons _ talk).isInfix)
    · exact .forgotten hk missed

end

namespace Reconcile

open Pass

variable {σ : Type} {env : Environment σ} {settings : OperatorSettings} {k : Key} {o m x : Object}
  {w w₁ w' : World σ} {talk : List Exchange}

theorem Spoken.moves {ok : Bool} {id : String} (h : Spoken o talk ok id) :
    IdMoves talk o.konnectId id := by
  cases h with
  | pathless => exact .kept o.konnectId
  | written _ spoken => exact spoken.moves.mono (List.prefix_append _ _).isInfix
  | unwritten _ spoken => exact spoken.moves

theorem Syncing.moves {r : Except SyncError Outcome} (h : Syncing env o w talk r m w') :
    IdMoves talk o.konnectId m.konnectId := by
  rcases h.learns with ⟨-, same⟩ | ⟨o₂, ok, id, spoken, known, learned⟩
  · rw [same]
    exact .kept o.konnectId
  · rw [learned, ← known]
    exact spoken.moves

/-- A sync that the cluster made fail leaves the stored id alone: what it learned is lost, and what it
could not resolve has nothing to do with the id. -/
theorem Syncing.id_of_refused (touched : env.Disturbs (Store.KeepsStatus k)) {a : ApiError}
    (h : Syncing env o w talk (.error (.api a)) m w') (stored : w.store.findObject? k = some o)
    (after : w'.store.findObject? k = some x) : x.konnectId = o.konnectId := by
  have unchanged (kept : w.store.KeepsStatus k w'.store) : x.konnectId = o.konnectId := by
    obtain ⟨o₀, read, -, status⟩ := kept x after
    rw [stored] at read
    cases read
    exact Object.konnectId_congr status
  have settled := (h.settles touched stored after).2.1
  generalize result : (Except.error (SyncError.api a) : Except SyncError Outcome) = r at h
  cases h with
  | unready resolved _ noted =>
    have known : m.konnectId = o.konnectId :=
      noted.id.trans (Resolve.leaves_of_references resolved).konnectId
    rcases settled with same | same
    · exact Object.konnectId_congr same
    · exact (Object.konnectId_congr same).trans known
  | unprepared resolved prepared =>
    exact unchanged ((Resolve.leaves_of_references resolved).store ▸
      persistMetadata_keepsStatus prepared k)
  | gone => cases result
  | @spoken r s _ _ _ _ _ _ _ _ _ resolved prepared _ talks _ _ kept own =>
    have leaves := Resolve.leaves_of_references resolved
    rcases s with e | _
    · apply unchanged
      rw [(persistStatus_failed kept).1, ← leaves.store]
      exact (persistMetadata_keepsStatus prepared k).trans
        (talks.store (Store.keepsStatus_refl k) Store.KeepsStatus.trans touched)
    · rcases r with e | _ <;> cases result
      exact absurd rfl (own _ rfl a)

theorem Course.moves (touched : env.Disturbs (Store.KeepsStatus k)) {r : Except SyncError Action}
    (h : Course env settings k w talk r w') (after : w'.store.findObject? k = some x) :
    ∃ o, w.store.findObject? k = some o ∧ IdMoves talk o.konnectId x.konnectId := by
  rcases h.sync_or_keepsStatus touched with ⟨o, w₁, s, m, v, b, reads, -, course, rfl, -⟩ | kept
  · have stored := reads.stored.1
    refine ⟨o, stored, ?_⟩
    rw [← reads.stored.2] at stored
    rcases (course.settles touched stored after).2.1 with same | same
    · rw [Object.konnectId_congr same]
      exact .kept o.konnectId
    · rw [Object.konnectId_congr same]
      exact course.moves
  · obtain ⟨o, stored, -, status⟩ := kept x after
    refine ⟨o, stored, ?_⟩
    rw [Object.konnectId_congr status]
    exact .kept o.konnectId

/-- The visits that have no business with the id. -/
inductive Visit.Uneventful (env : Environment σ) (v : Visit σ) : Prop
  | deleting {o : Object} (stored : v.before.store.findObject? v.key = some o)
      (deleting : o.metadata.isDeleting)
  /-- The object can not be read, its references are not ready or fail, or what has to be stored before
  Konnect is called is not. -/
  | unprepared (unprepared : ∀ o o₂ w₂, ¬ Prepares env v.key v.before o o₂ w₂)
  /-- No answer gives an id, and none tells that an entity is gone. -/
  | untold (given : ∀ id, ¬ Obtains v.talk id) (there : ∀ id, ¬ Misses v.talk id)
  /-- The cluster refuses a call, such as the write of the status. -/
  | refused {a : ApiError} (failed : v.result = .error (.api a))

/-- A visit that has no business with the id leaves it as it was. -/
theorem Visit.Uneventful.id_eq (touched : env.Disturbs (Store.KeepsStatus k)) {v : Visit σ}
    (h : v.Uneventful env) (hk : v.key = k)
    (course : Course env settings v.key v.before v.talk v.result v.after) {o : Object}
    (before : v.before.store.findObject? k = some o) (after : v.after.store.findObject? k = some x) :
    x.konnectId = o.konnectId := by
  subst hk
  obtain ⟨o', stored, moves⟩ := course.moves touched after
  rw [before] at stored
  cases stored
  have unchanged (kept : v.before.store.KeepsStatus v.key v.after.store) :
      x.konnectId = o.konnectId := by
    obtain ⟨o', stored, -, status⟩ := kept x after
    rw [before] at stored
    cases stored
    exact Object.konnectId_congr status
  cases h with
  | deleting stored deleting =>
    refine unchanged (course.keepsStatus touched fun o' w₁ reads need => ?_)
    have read := reads.stored.1
    rw [stored] at read
    cases read
    rw [Object.need_eq_sync.mp need] at deleting
    cases deleting
  | unprepared unprepared =>
    rcases course.sync_or_keepsStatus touched with ⟨o', w₁, s, m, u, b, reads, need, syncing, -⟩ | kept
    · rcases syncing.talk_cases reads need with ⟨silent, -⟩ | ⟨o₂, w₂, -, -, -, prepares, -⟩
      · rw [silent] at moves
        exact moves.eq_of_nil
      · exact absurd prepares (unprepared o' o₂ w₂)
    · exact unchanged kept
  | untold given there => exact moves.eq given there
  | refused failed =>
    rcases course.sync_or_keepsStatus touched with
      ⟨o', w₁, s, m, u, b, reads, -, syncing, left, result⟩ | kept
    · have read := reads.stored.1
      rw [before] at read
      cases read
      rw [failed] at result
      rcases s with e | _ <;> cases result
      rw [left] at after
      rw [← reads.stored.2] at before
      exact syncing.id_of_refused touched before after
    · exact unchanged kept

/-- The id that is stored after a run in which nothing concerned it is the one from before. -/
theorem History.id_eq (touched : env.Disturbs (Store.KeepsStatus k)) {start : World σ}
    {visits : List (Visit σ)}
    (h : History env settings (fun w w' => w.store.KeepsStatus k w'.store) start visits w)
    (uneventful : ∀ v ∈ visits, v.key = k → v.Uneventful env)
    (stored : w.store.findObject? k = some x) :
    ∃ o, start.store.findObject? k = some o ∧ x.konnectId = o.konnectId := by
  induction h generalizing x with
  | begin => exact ⟨x, stored, rfl⟩
  | meanwhile _ change ih =>
    obtain ⟨y, before, -, status⟩ := change x stored
    obtain ⟨o, first, same⟩ := ih uneventful before
    exact ⟨o, first, (Object.konnectId_congr status).trans same⟩
  | @pass visits w _ kind ns name ih =>
    have earlier {y : Object} := @ih y fun v hv => uneventful v (List.mem_append_left _ hv)
    have last := uneventful _ (List.mem_append_right visits (List.mem_singleton_self _))
    have course := visit_course env settings kind ns name w
    by_cases key : (visit env settings kind ns name w).key = k
    · obtain ⟨y, before, -⟩ := (key ▸ course).moves touched stored
      obtain ⟨o, first, same⟩ := earlier before
      exact ⟨o, first, ((last key).id_eq touched key course before stored).trans same⟩
    · obtain ⟨y, before, -, status⟩ := course.keepsStatus_other touched key x stored
      obtain ⟨o, first, same⟩ := earlier before
      exact ⟨o, first, (Object.konnectId_congr status).trans same⟩

/-- Whatever the store and Konnect answer, as long as nobody else writes the status: the id that is
stored after a pass is the one from before it, or there was none and the pass was given it, or the
entity of the old one was gone and the pass was given the new one, if any. A pass that has no business
with the id keeps it, and so does a run of such passes. -/
theorem id_never_silently_reassigned (env : Environment σ) (settings : OperatorSettings)
    (kind : ManagedKind) (ns name : String)
    (touched : env.Disturbs (Store.KeepsStatus ⟨kind, ns, name⟩)) :
    (∀ (w : World σ) (x : Object),
      (visit env settings kind ns name w).after.store.findObject? ⟨kind, ns, name⟩ = some x →
      ∃ o, w.store.findObject? ⟨kind, ns, name⟩ = some o ∧
        IdMoves (visit env settings kind ns name w).talk o.konnectId x.konnectId ∧
        ((visit env settings kind ns name w).Uneventful env → x.konnectId = o.konnectId)) ∧
    ∀ (start w : World σ) (visits : List (Visit σ)) (x : Object),
      History env settings (fun w w' => w.store.KeepsStatus ⟨kind, ns, name⟩ w'.store) start visits w →
      (∀ v ∈ visits, v.key = ⟨kind, ns, name⟩ → v.Uneventful env) →
      w.store.findObject? ⟨kind, ns, name⟩ = some x →
      ∃ o, start.store.findObject? ⟨kind, ns, name⟩ = some o ∧ x.konnectId = o.konnectId := by
  refine ⟨fun w x after => ?_, fun start w visits x history uneventful stored =>
    history.id_eq touched uneventful stored⟩
  have course := visit_course env settings kind ns name w
  obtain ⟨o, before, moves⟩ := course.moves touched after
  exact ⟨o, before, moves, fun h => h.id_eq touched rfl course before after⟩

section

open Scene

def reopening : Visit Cloud :=
  webVisit calm
    { (opening calm []).after with outside := (opening calm []).after.outside.cleared }

def forgetting : Visit Cloud := opening flaky [.patchStatus webKey]

/-- The id of the service is given by its creation and replaced once its entity is gone; if it can not
be stored, there is none. -/
theorem web_id_follows_answers :
    (∃ x, (opening calm []).after.store.findObject? webKey = some x ∧ x.konnectId = "e" ∧
      Obtains (opening calm []).talk "e") ∧
    (∃ x, reopening.after.store.findObject? webKey = some x ∧ x.konnectId = "ee" ∧
      Misses reopening.talk "e" ∧ Obtains reopening.talk "ee") ∧
    ∃ x, forgetting.after.store.findObject? webKey = some x ∧ x.konnectId = "" := by
  have touched : calm.Disturbs (Store.KeepsStatus webKey) :=
    calm_writable.undisturbed.of_undisturbed (Store.keepsStatus_refl webKey)
  have bare (refusals : List StoreCall) {o : Object}
      (stored : (fresh refusals).store.findObject? webKey = some o) : o.konnectId = "" := by
    cases stored
    rfl
  obtain ⟨x, first, named⟩ : ∃ x, (opening calm []).after.store.findObject? webKey = some x ∧
      decide (x.konnectId = "e") := (Option.any_eq_true _ _).mp (by decide +kernel)
  obtain ⟨y, second, renamed⟩ : ∃ y, reopening.after.store.findObject? webKey = some y ∧
      decide (y.konnectId = "ee") := (Option.any_eq_true _ _).mp (by decide +kernel)
  obtain ⟨z, third⟩ : ∃ z, forgetting.after.store.findObject? webKey = some z :=
    Option.isSome_iff_exists.mp (by decide +kernel)
  have named := of_decide_eq_true named
  have renamed := of_decide_eq_true renamed
  refine ⟨⟨x, first, named, ?_⟩, ⟨y, second, renamed, ?_⟩, ⟨z, third, ?_⟩⟩
  · obtain ⟨o, stored, moves, -⟩ := (id_never_silently_reassigned calm OperatorSettings.default
      .service "shop" "web" touched).1 (fresh []) x first
    rw [bare [] stored, named] at moves
    exact (moves.of_ne (by decide) (by decide)).1
  · obtain ⟨o, stored, moves, -⟩ := (id_never_silently_reassigned calm OperatorSettings.default
      .service "shop" "web" touched).1 _ y second
    rw [show o = x from Option.some.inj (stored.symm.trans first), named, renamed] at moves
    obtain ⟨obtained, gone⟩ := moves.of_ne (by decide) (by decide)
    exact ⟨gone (by decide), obtained⟩
  · have run : History flaky OperatorSettings.default
        (fun w w' => w.store.KeepsStatus webKey w'.store) (fresh [.patchStatus webKey]) [forgetting]
        forgetting.after := History.begin.pass .service "shop" "web"
    have failed : forgetting.result = .error (.api Cloud.unavailable) :=
      failed_of_told (by decide +kernel)
    obtain ⟨o, stored, same⟩ := (id_never_silently_reassigned flaky OperatorSettings.default
      .service "shop" "web" (flaky_solitary.disturbs (Store.keepsStatus_refl webKey))).2 _ _ _ z run
      (by simpa using fun _ => Visit.Uneventful.refused failed) third
    exact same.trans (bare _ stored)

end

end Reconcile

end GatewaySync
