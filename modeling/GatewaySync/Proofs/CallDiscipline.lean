import GatewaySync.Proofs.Cloud
/-!
# What a pass says to Konnect

The calls of one pass are settled by what it reads, by what its references come to, and by the answers
of the store and of Konnect. Only an object that is read and that either leaves with its finalizer or has
finalizer and owner in the store is spoken of at all. A deletion is one call at most; a write follows the
protocol of writes, and every call of it is made with the finalizer stored.
-/
namespace GatewaySync.Reconcile

open Pass World

variable {σ : Type} (env : Environment σ)

/-- The pass reads an object that nobody deletes, the references of the object are ready, and finalizer
and owner are stored. -/
def Prepares (key : Key) (w : World σ) (o o₂ : Object) (w₂ : World σ) : Prop :=
  ∃ w₀ o₁ w₁, Reads env key w o w₀ ∧ o.need = .sync ∧
    (Resolve.references env).onObject o w₀ = (.ok .ready, o₁, w₁) ∧
    (persistMetadata env o.metadata).onObject o₁ w₁ = (.ok true, o₂, w₂)

variable {env} {key : Key} {w w₁ w₁' w₂ : World σ} {o o' o₂ : Object}

theorem Prepares.of_resolved {q : Except SyncError Readiness} {o₁ : Object}
    (h : Prepares env key w o o₂ w₂) (reads : Reads env key w o' w₁)
    (resolved : (Resolve.references env).onObject o' w₁ = (q, o₁, w₁')) :
    q = .ok .ready ∧ (persistMetadata env o'.metadata).onObject o₁ w₁' = (.ok true, o₂, w₂) := by
  obtain ⟨v₀, v₁, v₂, reads', -, resolved', prepared⟩ := h
  obtain ⟨rfl, rfl⟩ := reads.unique reads'
  cases resolved.symm.trans resolved'
  exact ⟨rfl, prepared⟩

/-- A sync says nothing unless the object is prepared. -/
theorem Syncing.talk_cases {talk : List Exchange} {r : Except SyncError Outcome}
    {m : Object} (h : Syncing env o w₁ talk r m w₂) (reads : Reads env key w o w₁) (need : o.need = .sync) :
    (talk = [] ∧ ∀ o' o₂ w₂, ¬ Prepares env key w o' o₂ w₂) ∨
      ∃ o₂ w₂ ok id w₃, Prepares env key w o o₂ w₂ ∧ Spoken o₂ talk ok id ∧
        Talks env w₂ talk w₃ := by
  cases h with
  | unready resolved unready =>
    exact .inl ⟨rfl, fun _ _ _ prepares => unready (prepares.of_resolved reads resolved).1⟩
  | unprepared resolved prepared | gone resolved prepared =>
    refine .inl ⟨rfl, fun _ _ _ prepares => ?_⟩
    cases prepared.symm.trans (prepares.of_resolved reads resolved).2
  | spoken resolved prepared spoken talks =>
    exact .inr ⟨_, _, _, _, _, ⟨_, _, _, reads, need, resolved, prepared⟩, spoken, talks⟩

variable {settings : OperatorSettings} {talk : List Exchange} {r : Except SyncError Action}

theorem Prepares.reads (h : Prepares env key w o o₂ w₂) :
    ∃ w₁, Reads env key w o w₁ ∧ o.need = .sync := by
  obtain ⟨w₁, -, -, reads, need, -⟩ := h
  exact ⟨w₁, reads, need⟩

theorem Course.talk_eq_nil (h : Course env settings key w talk r w₂)
    (kept : ∀ o w₁, Reads env key w o w₁ → o.need ≠ .cleanup)
    (unprepared : ∀ o o₂ w₂, ¬ Prepares env key w o o₂ w₂) : talk = [] := by
  by_cases reads : ∃ o w₁, Reads env key w o w₁
  · obtain ⟨o, w₁, reads⟩ := reads
    rcases h.of_reads reads with ⟨-, nothing⟩ | ⟨need, -⟩ | ⟨need, s, m, v, b, course, -⟩
    · exact nothing.1
    · exact absurd need (kept o w₁ reads)
    · rcases course.talk_cases reads need with ⟨silent, -⟩ | ⟨o₂, w₂, -, -, -, prepares, -⟩
      · exact silent
      · exact absurd prepares (unprepared o o₂ w₂)
  · exact (h.of_unread fun o w₁ h => reads ⟨o, w₁, h⟩).1

theorem Course.farewell (h : Course env settings key w talk r w₂) (reads : Reads env key w o w₁)
    (need : o.need = .cleanup) : Farewell o talk := by
  rcases h.of_reads reads with ⟨need', -⟩ | ⟨-, s, v, b, course, -⟩ | ⟨need', -⟩
  · rw [need] at need'
    cases need'
  · exact course.farewell
  · rw [need] at need'
    cases need'

theorem Course.spoken {w' : World σ} (h : Course env settings key w talk r w')
    (prepares : Prepares env key w o o₂ w₂) :
    ∃ ok id w₃, Spoken o₂ talk ok id ∧ Talks env w₂ talk w₃ := by
  obtain ⟨w₁, reads, need⟩ := prepares.reads
  rcases h.of_reads reads with ⟨need', -⟩ | ⟨need', -⟩ | ⟨-, s, m, v, b, course, -⟩
  · rw [need] at need'
    cases need'
  · rw [need] at need'
    cases need'
  · rcases course.talk_cases reads need with ⟨-, unprepared⟩ | ⟨_, _, ok, id, w₃, again, spoken, talks⟩
    · exact absurd prepares (unprepared o o₂ w₂)
    · obtain ⟨v, x, v', reads', -, resolved, prepared⟩ := again
      cases prepared.symm.trans (prepares.of_resolved reads' resolved).2
      exact ⟨ok, id, w₃, spoken, talks⟩

section

variable (env : Environment σ)

/-- The finalizer is missing, or the owners are not the ones that were read. -/
def Changes (fetched : Metadata) (o : Object) : Prop :=
  cleanupFinalizer ∉ o.metadata.finalizerList ∨ o.metadata.ownerList ≠ fetched.ownerList

/-- Finalizer and owner are in the store: there was nothing to change, or the store took the change. -/
inductive Secured (fetched : Metadata) (o : Object) (w : World σ) : Object → World σ → Prop
  | kept (same : ¬ Changes fetched o) : Secured fetched o w o w
  | stored {written : Object} {w' : World σ} (changed : Changes fetched o)
      (answer : w.patchMetadata env (guarded o) = (.ok (some written), w')) :
      Secured fetched o w (atRevision (guarded o) written) w'

/-- The talk of one pass, by what the store held and answered before it. -/
inductive Conversation (key : Key) (w : World σ) : List Exchange → Prop
  | unread {e : SyncError} {w₁ : World σ} (read : w.get env key = (.error e, w₁)) :
      Conversation key w []
  | absent (absent : w.store.findObject? key = none) : Conversation key w []
  | free {o : Object} {w₁ : World σ} (reads : Reads env key w o w₁)
      (deleting : o.metadata.deletionTimestamp ≠ none)
      (free : cleanupFinalizer ∉ o.metadata.finalizerList) : Conversation key w []
  | leaving {o : Object} {w₁ w₂ : World σ} {talk : List Exchange} (reads : Reads env key w o w₁)
      (deleting : o.metadata.deletionTimestamp ≠ none)
      (held : cleanupFinalizer ∈ o.metadata.finalizerList) (said : Farewell o talk)
      (talks : Talks env w₁ talk w₂) : Conversation key w talk
  | unready {r : Except SyncError Readiness} {o o₁ : Object} {w₁ w₂ : World σ}
      (reads : Reads env key w o w₁) (live : o.metadata.deletionTimestamp = none)
      (resolved : (Resolve.references env).onObject o w₁ = (r, o₁, w₂)) (unready : r ≠ .ok .ready) :
      Conversation key w []
  | refused {e : SyncError} {o o₁ : Object} {w₁ w₂ w₃ : World σ} (reads : Reads env key w o w₁)
      (live : o.metadata.deletionTimestamp = none)
      (resolved : (Resolve.references env).onObject o w₁ = (.ok .ready, o₁, w₂))
      (changed : Changes o.metadata o₁)
      (answer : w₂.patchMetadata env (guarded o₁) = (.error e, w₃)) : Conversation key w []
  | gone {o o₁ : Object} {w₁ w₂ w₃ : World σ} (reads : Reads env key w o w₁)
      (live : o.metadata.deletionTimestamp = none)
      (resolved : (Resolve.references env).onObject o w₁ = (.ok .ready, o₁, w₂))
      (changed : Changes o.metadata o₁)
      (answer : w₂.patchMetadata env (guarded o₁) = (.ok none, w₃)) : Conversation key w []
  | spoken {o o₁ o₂ : Object} {w₁ w₂ w₃ w₄ : World σ} {talk : List Exchange} {ok : Bool} {id : String}
      (reads : Reads env key w o w₁) (live : o.metadata.deletionTimestamp = none)
      (resolved : (Resolve.references env).onObject o w₁ = (.ok .ready, o₁, w₂))
      (secured : Secured env o.metadata o₁ w₂ o₂ w₃) (known : o₂.konnectId = o.konnectId)
      (said : Spoken o₂ talk ok id) (talks : Talks env w₃ talk w₄) : Conversation key w talk

end

theorem hasCleanup_iff {m : Metadata} : m.hasCleanup ↔ cleanupFinalizer ∈ m.finalizerList :=
  List.contains_iff_mem

theorem changes_iff {fetched : Metadata} :
    (!o.metadata.hasCleanup || o.metadata.ownerList ≠ fetched.ownerList) ↔ Changes fetched o := by
  simp [Changes, ← hasCleanup_iff]

theorem guarded_of_same {fetched : Metadata} (same : ¬ Changes fetched o) : guarded o = o := by
  have held : o.metadata.hasCleanup := hasCleanup_iff.mpr (not_not.mp fun missing => same (.inl missing))
  rw [guarded, Metadata.withCleanup, if_pos held]

/-- A pass goes on to Konnect exactly if finalizer and owner are in the store. -/
theorem secured_iff {fetched : Metadata} :
    Secured env fetched o w o' w₁ ↔
      (persistMetadata env fetched).onObject o w = (.ok true, o', w₁) := by
  rw [onObject_persistMetadata]
  constructor
  · intro secured
    cases secured with
    | kept same => rw [if_neg (mt changes_iff.mp same), guarded_of_same same]
    | stored changed answer => rw [if_pos (changes_iff.mpr changed), answer]
  · intro prepared
    split_ifs at prepared with changed
    · rcases answer : w.patchMetadata env (guarded o) with ⟨_ | _ | written, v⟩ <;>
        rw [answer] at prepared <;> cases prepared
      exact .stored (changes_iff.mp changed) answer
    · cases prepared
      have same := mt changes_iff.mpr changed
      rw [guarded_of_same same]
      exact .kept same

/-- Otherwise the store was asked for the change and did not take it. -/
theorem changes_of_unsecured {fetched : Metadata} {b : Except SyncError Bool}
    (h : (persistMetadata env fetched).onObject o w = (b, o', w₁)) (unsecured : b ≠ .ok true) :
    Changes fetched o ∧ ∃ answer, w.patchMetadata env (guarded o) = (answer, w₁) ∧
      b = answer.map Option.isSome := by
  rw [onObject_persistMetadata] at h
  split_ifs at h with changed
  · refine ⟨changes_iff.mp changed, ?_⟩
    rcases answer : w.patchMetadata env (guarded o) with ⟨_ | _ | _, v⟩ <;>
      rw [answer] at h <;> cases h <;> exact ⟨_, rfl, rfl⟩
  · cases h
    exact absurd rfl unsecured

theorem deleting_iff : o.metadata.isDeleting ↔ o.metadata.deletionTimestamp ≠ none :=
  Option.isSome_iff_ne_none

theorem live_iff : o.need = .sync ↔ o.metadata.deletionTimestamp = none := by
  rw [Object.need_eq_sync, Metadata.isDeleting, Option.isSome_eq_false_iff, Option.isNone_iff_eq_none]

theorem free_of_need (need : o.need = .nothing) :
    o.metadata.deletionTimestamp ≠ none ∧ cleanupFinalizer ∉ o.metadata.finalizerList := by
  rw [← deleting_iff, ← hasCleanup_iff]
  unfold Object.need at need
  split_ifs at need with live held
  exact ⟨by simpa using live, held⟩

theorem Cleaning.talks {r : Except SyncError Unit} (h : Cleaning env o w talk r w₁) :
    ∃ w₂, Talks env w talk w₂ := by
  cases h with
  | pathless => exact ⟨w, .done w⟩
  | refused _ _ _ talks => exact ⟨w₁, talks⟩
  | released _ talks => exact ⟨_, talks⟩

theorem Syncing.conversation {r : Except SyncError Outcome} {m : Object}
    (h : Syncing env o w₁ talk r m w₂) (reads : Reads env key w o w₁)
    (live : o.metadata.deletionTimestamp = none) : Conversation env key w talk := by
  cases h with
  | unready resolved unready => exact .unready reads live resolved unready
  | unprepared resolved prepared =>
    obtain ⟨changed, answer, asked, same⟩ := changes_of_unsecured prepared (by simp)
    rcases answer with _ | _ | _ <;> cases same
    exact .refused reads live resolved changed asked
  | gone resolved prepared =>
    obtain ⟨changed, answer, asked, same⟩ := changes_of_unsecured prepared (by simp)
    rcases answer with _ | _ | _ <;> cases same
    exact .gone reads live resolved changed asked
  | spoken resolved prepared spoken talks =>
    exact .spoken reads live resolved (secured_iff.mpr prepared)
      (prepared_of_resolved resolved prepared).konnectId spoken talks

theorem Course.conversation (h : Course env settings key w talk r w₂) : Conversation env key w talk := by
  cases h with
  | unread read => exact .unread read
  | idle _ read idle =>
    rcases stored : w.store.findObject? key with _ | o
    · exact .absent stored
    · have fetched := (found_of_get read).trans stored
      obtain ⟨deleting, free⟩ := free_of_need (idle o fetched)
      exact .free ⟨_, read, fetched⟩ deleting free
  | cleaned _ reads need course =>
    obtain ⟨deleting, held⟩ := Object.need_eq_cleanup.mp need
    obtain ⟨w₂, talks⟩ := course.talks
    exact .leaving reads (deleting_iff.mp deleting) (hasCleanup_iff.mp held) course.farewell talks
  | synced _ reads need course => exact course.conversation reads (live_iff.mp need)

theorem Farewell.written_eq_none {x : Exchange} (h : Farewell o talk) (hx : x ∈ talk) :
    x.written? = none := by
  cases h with
  | unknown | pathless => cases hx
  | said _ _ spoken =>
    obtain ⟨s, answer, rfl⟩ := spoken.talk_eq
    obtain rfl := List.mem_singleton.mp hx
    rfl

/-- Only farewell is said to an object that is being deleted. -/
theorem Conversation.farewell (h : Conversation env key w talk) (said : talk ≠ [])
    (stored : w.store.findObject? key = some o) (deleting : o.metadata.deletionTimestamp ≠ none) :
    Farewell o talk := by
  cases h with
  | unread | absent | free | unready | refused | gone => exact absurd rfl said
  | leaving reads _ _ farewell =>
    cases reads.stored.1.symm.trans stored
    exact farewell
  | spoken reads live =>
    cases reads.stored.1.symm.trans stored
    exact absurd live deleting

theorem Conversation.spoken_of_live (h : Conversation env key w talk) (said : talk ≠ [])
    (stored : w.store.findObject? key = some o) (live : o.metadata.deletionTimestamp = none) :
    ∃ o₂ ok id, o₂.konnectId = o.konnectId ∧ Spoken o₂ talk ok id := by
  cases h with
  | unread | absent | free | unready | refused | gone => exact absurd rfl said
  | leaving reads deleting =>
    cases reads.stored.1.symm.trans stored
    exact absurd live deleting
  | spoken reads _ _ _ known spoken =>
    cases reads.stored.1.symm.trans stored
    exact ⟨_, _, _, known, spoken⟩

/-- What writes is said from a store that holds the finalizer. -/
theorem Conversation.guards {x : Exchange} (h : Conversation env key w talk) (hx : x ∈ talk)
    (writes : x.written?.isSome) : ∃ v v', Guards key v.store ∧ Talks env v talk v' := by
  cases h with
  | unread | absent | free | unready | refused | gone => cases hx
  | leaving _ _ _ said =>
    rw [said.written_eq_none hx] at writes
    cases writes
  | spoken reads live resolved secured _ _ talks =>
    obtain ⟨s, stored, held, deleting, -⟩ :=
      reads.stored_of_prepared resolved (secured_iff.mp secured)
    exact ⟨_, _, ⟨s, stored, held, deleting.trans (Object.need_eq_sync.mp (live_iff.mpr live))⟩, talks⟩

/-- Whatever the store and Konnect answer, what a pass says to Konnect is told by what the store held and
answered. Nothing is said if the object could not be read or is not there, if it leaves without the
finalizer, if its references are not ready, or if the store did not take finalizer and owner. An object
that leaves with the finalizer is said farewell, for the id that was read. Otherwise the write of that id is
spoken, followed by one look at the organization exactly if it went well. It begins with the finalizer
stored and nobody deleting the object; this stays so for all its calls if other writers leave it so. -/
theorem pass_calls (env : Environment σ) (settings : OperatorSettings) (kind : ManagedKind)
    (ns name : String) (w : World σ) :
    ∃ talk, (pass env settings kind ns name w).2.exchanges = w.exchanges ++ talk ∧
      Conversation env ⟨kind, ns, name⟩ w talk ∧
      (∀ x ∈ talk.head?, x.written?.isSome → Guards ⟨kind, ns, name⟩ x.store) ∧
      (env.Disturbs (fun s t => Guards ⟨kind, ns, name⟩ s → Guards ⟨kind, ns, name⟩ t) →
        ∀ x ∈ talk, x.written?.isSome → Guards ⟨kind, ns, name⟩ x.store) := by
  obtain ⟨talk, course⟩ := pass_course env settings kind ns name w
  have conversation := course.conversation
  refine ⟨talk, course.exchanges, conversation, fun x hx writes => ?_, fun others x hx writes => ?_⟩
  · obtain ⟨v, v', guards, talks⟩ := conversation.guards (List.mem_of_mem_head? hx) writes
    rw [talks.store_of_head x hx]
    exact guards
  · obtain ⟨v, v', guards, talks⟩ := conversation.guards hx writes
    exact talks.store_of_mem others guards x hx

section

open Scene

/-- The first pass over the service creates its entity, with the finalizer in the store, and asks for the
organization. The pass after its deletion was asked for deletes the entity and says nothing else. -/
theorem web_spoken_of :
    (∃ s t body x org, (opening calm []).talk =
        [⟨s, .create services body, .ok x⟩, ⟨t, .organizationId, org⟩] ∧ Guards webKey s) ∧
      ∃ s answer, (closing calm []).talk = [⟨s, .delete services "e", answer⟩] := by
  constructor
  · obtain ⟨talk, said, conversation, first, -⟩ :=
      pass_calls calm OperatorSettings.default .service "shop" "web" (fresh [])
    have same : (opening calm []).talk = talk := Visit.talk_of_append said
    have brief : (opening calm []).talk.length = 2 := by decide +kernel
    obtain ⟨x, hx, created⟩ : ∃ x ∈ (opening calm []).talk, x.created? = some (services, "e") :=
      List.mem_filterMap.mp (by decide +kernel)
    obtain ⟨o, stored, unwritten⟩ : ∃ o, (fresh []).store.findObject? webKey = some o ∧
      decide (o.metadata.deletionTimestamp = none ∧ o.konnectId = "") :=
      (Option.any_eq_true _ _).mp (by decide +kernel)
    obtain ⟨live, unknown⟩ := of_decide_eq_true unwritten
    rw [same] at hx brief ⊢
    obtain ⟨o₂, ok, id, known, spoken⟩ :=
      conversation.spoken_of_live (List.ne_nil_of_mem hx) stored live
    obtain ⟨path, -, rfl⟩ := spoken.of_created hx created
    cases spoken with
    | written path' spoken =>
      rw [known, unknown] at spoken
      cases path.symm.trans path'
      cases spoken with
      | created spoken =>
        cases spoken with
        | created => exact ⟨_, _, _, _, _, rfl, first _ rfl rfl⟩
        | adopted => cases brief
      | updated known => exact absurd rfl known
      | recreated known => exact absurd rfl known
  · obtain ⟨talk, said, conversation, -⟩ :=
      pass_calls calm OperatorSettings.default .service "shop" "web" (markWeb (opening calm []).after)
    have same : (closing calm []).talk = talk := Visit.talk_of_append said
    obtain ⟨x, hx, gone⟩ : ∃ x ∈ (closing calm []).talk, x.gone? = some (services, "e") :=
      List.mem_filterMap.mp (by decide +kernel)
    obtain ⟨o, stored, marked⟩ : ∃ o, (closing calm []).before.store.findObject? webKey = some o ∧
      decide (o.metadata.deletionTimestamp ≠ none) := (Option.any_eq_true _ _).mp (by decide +kernel)
    rw [same] at hx ⊢
    cases conversation.farewell (List.ne_nil_of_mem hx) stored (of_decide_eq_true marked) with
    | unknown | pathless => cases hx
    | said _ _ deletion =>
      obtain ⟨s, answer, rfl⟩ := deletion.talk_eq
      obtain rfl := List.mem_singleton.mp hx
      obtain ⟨rfl, known⟩ := Prod.mk.inj (Option.some.inj (Exchange.about?_of_gone? gone))
      exact ⟨s, answer, by rw [known]⟩

end

end GatewaySync.Reconcile
