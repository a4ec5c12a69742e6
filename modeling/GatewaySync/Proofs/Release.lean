import GatewaySync.Proofs.Cloud
/-!
# Which entities are gone when the finalizer is released

While nobody else writes during a pass, the id that is stored of an entity is only replaced after
Konnect told that the entity is gone, and the finalizer is only released after the entity of the stored
id was deleted. An entity whose id was never stored is forgotten: nothing deletes it.
-/
namespace GatewaySync.Reconcile

open Pass World Entity

variable {σ : Type} {env : Environment σ} {settings : OperatorSettings} {k : Key} {id : String}

def Knows (k : Key) (id : String) (s : Store) : Prop :=
  (s.findObject? k).map (·.konnectId) = some id

def KnowsOnly (k : Key) (id : String) (s : Store) : Prop :=
  ∀ o, s.findObject? k = some o → o.konnectId = id

theorem Knows.only {s : Store} (h : Knows k id s) : KnowsOnly k id s := by
  intro o stored
  rw [Knows, stored] at h
  exact Option.some.inj h

theorem Knows.of_keepsStatus {s t : Store} (kept : s.KeepsStatus k t) (h : Knows k id t) :
    Knows k id s := by
  obtain ⟨o, stored, rfl⟩ := Option.map_eq_some_iff.mp h
  obtain ⟨o₀, stored₀, -, status⟩ := kept o stored
  exact Option.map_eq_some_iff.mpr ⟨o₀, stored₀, (Object.konnectId_congr status).symm⟩

theorem KnowsOnly.of_keepsStatus {s t : Store} (kept : s.KeepsStatus k t) (h : KnowsOnly k id s) :
    KnowsOnly k id t := by
  intro o stored
  obtain ⟨o₀, stored₀, -, status⟩ := kept o stored
  exact (Object.konnectId_congr status).trans (h o₀ stored₀)

namespace Visit

variable (v : Visit σ)

def Creates (p : EntityPath) (id : String) : Prop := (p, id) ∈ v.talk.filterMap Exchange.created?

def TellsGone (p : EntityPath) (id : String) : Prop := (p, id) ∈ v.talk.filterMap Exchange.gone?

/-- The pass wrote an entity or deleted it, or tried to. -/
def Addresses (p : EntityPath) (id : String) : Prop := (p, id) ∈ v.talk.filterMap Exchange.about?

end Visit

variable {o : Object} {w w' : World σ} {talk : List Exchange}

/-- A pass forgets the id of its object only if it is told that the entity is gone. -/
theorem Course.known_or_gone (solitary : env.Solitary) {r : Except SyncError Action}
    (h : Course env settings k w talk r w') (hid : id ≠ "") (known : KnowsOnly k id w.store) :
    KnowsOnly k id w'.store ∨ ∃ p, (p, id) ∈ talk.filterMap Exchange.gone? := by
  have others := solitary.disturbs (Store.keepsStatus_refl k)
  cases h with
  | unread read => exact .inl ((get_eq read).2 ▸ known)
  | idle _ read => exact .inl fun o stored => known o ((get_eq read).2 ▸ stored)
  | cleaned _ reads _ course =>
    have kept := course.keepsStatus others
    rw [reads.stored.2] at kept
    exact .inl (known.of_keepsStatus kept)
  | @synced o m _ v _ _ _ reads _ course =>
    obtain ⟨stored, store⟩ := reads.stored
    have ho := known o stored
    have settled (learned : m.konnectId = id) : KnowsOnly k id v.store := fun x after => by
      rcases (course.settles others (store ▸ stored) after).2.1 with same | same
      · exact (Object.konnectId_congr same).trans ho
      · exact (Object.konnectId_congr same).trans learned
    rcases course.learns with ⟨-, same⟩ | ⟨o₂, ok, id', spoken, known₂, learned⟩
    · exact .inl (settled (same.trans ho))
    · rw [← ho, ← known₂] at hid
      rcases spoken.known_or_gone hid with same | ⟨p, x, hx, gone⟩
      · exact .inl (settled (learned.trans (same.trans (known₂.trans ho))))
      · rw [known₂, ho] at gone
        exact .inr ⟨p, List.mem_filterMap.mpr ⟨x, hx, gone⟩⟩

/-- What a pass is told to be gone is the entity that it knew of. -/
theorem Course.knows_of_gone {r : Except SyncError Action} (h : Course env settings k w talk r w')
    {p : EntityPath} (gone : (p, id) ∈ talk.filterMap Exchange.gone?) : Knows k id w.store := by
  obtain ⟨x, hx, gone⟩ := List.mem_filterMap.mp gone
  cases h with
  | unread | idle => cases hx
  | cleaned _ reads _ course =>
    exact Option.map_eq_some_iff.mpr
      ⟨_, reads.stored.1, (course.farewell.of_gone hx gone).symm⟩
  | synced _ reads _ course =>
    refine Option.map_eq_some_iff.mpr ⟨_, reads.stored.1, ?_⟩
    rcases course.learns with ⟨rfl, -⟩ | ⟨o₂, ok, id', spoken, known₂, -⟩
    · cases hx
    · exact (known₂.symm.trans (spoken.of_gone hx gone).1.symm)

def Held (k : Key) (s : Store) : Bool := (s.findObject? k).any (·.metadata.hasCleanup)

theorem held_of_stored {s : Store} (stored : s.findObject? k = some o)
    (cleanup : o.metadata.hasCleanup) : Held k s := by
  rw [Held, stored]
  exact cleanup

theorem held_put {s : Store} {given old new : Object} (target : s.patchTarget given = .ok old)
    (key : new.key = old.key) (keeps : old.metadata.hasCleanup → new.metadata.hasCleanup)
    (held : Held k s) : Held k (s.put (.managed new)) := by
  have found := (Store.patchTarget_eq_ok.mp target).1
  unfold Held at *
  rw [Store.findObject?_put, key, Store.key_of_patchTarget target]
  split_ifs with hk
  · rw [← hk, found] at held
    exact keeps held
  · exact held

theorem patchStatus_held (o : Object) (held : Held k w.store) :
    Held k (w.patchStatus env o).2.store := by
  rcases patchStatus_cases env o w with ⟨e, v, h, -, store⟩ | ⟨old, v, h, -, target, store⟩ <;>
    rw [h, store]
  · exact held
  · exact held_put target rfl (fun cleanup => cleanup) held

theorem patchMetadata_held (solitary : env.Solitary) {o : Object} (cleanup : o.metadata.hasCleanup)
    (held : Held k w.store) : Held k (w.patchMetadata env o).2.store := by
  rcases patchMetadata_cases env o w with ⟨e, v, h, -, store⟩ | ⟨v, h, -, store, why⟩ |
    ⟨old, v, h, -, target, store⟩ <;> rw [h, store]
  · exact held
  · rcases why with vanished | ⟨old, -, -, none⟩
    · exact absurd vanished (solitary.present _ _)
    · simp [Metadata.hasCleanup, none] at cleanup
  · exact held_put target rfl (fun _ => cleanup) held

theorem persistStatus_held {fetched : Option Status} {m m' : Object} {s : Except SyncError Unit}
    (h : (persistStatus env fetched).onObject m w = (s, m', w')) (held : Held k w.store) :
    Held k w'.store := by
  rw [onObject_persistStatus] at h
  split_ifs at h <;> cases h
  · exact patchStatus_held m held
  · exact held

theorem persistMetadata_held (solitary : env.Solitary) {fetched : Metadata} {o o' : Object}
    {b : Except SyncError Bool} (h : (persistMetadata env fetched).onObject o w = (b, o', w'))
    (held : Held k w.store) : Held k w'.store := by
  rcases persistMetadata_world h with rfl | rfl
  · exact held
  · exact patchMetadata_held solitary o.metadata.withCleanup_hasCleanup held

theorem Syncing.held (solitary : env.Solitary) {r : Except SyncError Outcome} {m : Object}
    (h : Syncing env o w talk r m w') (held : Held k w.store) : Held k w'.store := by
  cases h with
  | unready resolved _ _ kept =>
    rw [← (Resolve.leaves_of_references resolved).store] at held
    exact persistStatus_held kept held
  | unprepared resolved prepared | gone resolved prepared =>
    rw [← (Resolve.leaves_of_references resolved).store] at held
    exact persistMetadata_held solitary prepared held
  | spoken resolved prepared _ talks _ _ kept =>
    rw [← (Resolve.leaves_of_references resolved).store] at held
    have prepared := persistMetadata_held solitary prepared held
    rw [← talks.store_eq solitary.undisturbed] at prepared
    exact persistStatus_held kept prepared

theorem Syncing.stored (solitary : env.Solitary) {w₀ : World σ} {r : Except SyncError Outcome}
    {m : Object} (h : Syncing env o w talk r m w') (reads : Reads env k w₀ o w)
    (said : talk ≠ []) : ∃ x, w'.store.findObject? k = some x := by
  cases h with
  | unready | unprepared | gone => exact absurd rfl said
  | spoken resolved prepared _ talks _ _ kept =>
    obtain ⟨s, stored, cleanup, -⟩ := reads.stored_of_prepared resolved prepared
    have held := held_of_stored stored cleanup
    rw [← talks.store_eq solitary.undisturbed] at held
    have kept := persistStatus_held kept held
    obtain ⟨x, stored', -⟩ := (Option.any_eq_true _ _).mp kept
    exact ⟨x, stored'⟩

def Releases (k : Key) (s t : Store) : Prop := Held k s = true ∧ Held k t = false

theorem not_releases {s t : Store} (h : Held k s → Held k t) : ¬ Releases k s t := by
  rintro ⟨held, released⟩
  rw [h held] at released
  cases released

/-- A pass releases the finalizer only after the entity of the stored id was dismissed. -/
theorem Course.dismissed (solitary : env.Solitary) {r : Except SyncError Action}
    (h : Course env settings k w talk r w') (releases : Releases k w.store w'.store) :
    ∃ o, w.store.findObject? k = some o ∧ Dismissed o talk := by
  cases h with
  | unread read =>
    rw [(get_eq read).2] at releases
    exact absurd releases (not_releases fun held => held)
  | idle _ read =>
    have same := (get_eq read).2
    exact absurd (same ▸ releases) (not_releases fun held => held)
  | cleaned _ reads _ course =>
    obtain ⟨stored, store⟩ := reads.stored
    rw [← store] at releases
    cases course with
    | pathless => exact absurd releases (not_releases fun held => held)
    | refused _ _ _ talks =>
      have same := talks.store_eq solitary.undisturbed
      exact absurd (same ▸ releases) (not_releases fun held => held)
    | released dismissed => exact ⟨_, stored, dismissed⟩
  | @synced _ _ w₁ v _ _ _ reads _ course =>
    have kept : Held k w₁.store → Held k v.store := course.held solitary
    rw [reads.stored.2] at kept
    exact absurd releases (not_releases kept)

/-- If a pass that creates an entity goes well, the id of the entity is stored. -/
theorem Course.knows_of_created (solitary : env.Solitary) {r : Except SyncError Action}
    (h : Course env settings k w talk r w') (ok : r.isOk) {p : EntityPath}
    (created : (p, id) ∈ talk.filterMap Exchange.created?) : Knows k id w'.store := by
  obtain ⟨x, hx, created⟩ := List.mem_filterMap.mp created
  cases h with
  | unread | idle => cases hx
  | cleaned _ _ _ course =>
    rw [course.farewell.of_created hx] at created
    cases created
  | @synced o m _ v _ s _ reads _ course =>
    obtain ⟨y, stored⟩ := course.stored solitary reads (List.ne_nil_of_mem hx)
    obtain ⟨stored', store⟩ := reads.stored
    have settled := course.settles (solitary.disturbs (Store.keepsStatus_refl k)) (store ▸ stored')
      stored
    have went : s.isOk := by
      cases s with
      | error e => cases ok
      | ok _ => rfl
    refine Option.map_eq_some_iff.mpr ⟨y, stored, (Object.konnectId_congr (settled.2.2 went)).trans ?_⟩
    rcases course.learns with ⟨rfl, -⟩ | ⟨o₂, ok, id', spoken, -, learned⟩
    · cases hx
    · exact learned.trans (spoken.of_created hx created).2.1.symm

/-- At some time during the visits the id was stored. -/
def Remembers (k : Key) (id : String) (visits : List (Visit σ)) : Prop :=
  ∃ v ∈ visits, Knows k id v.after.store

section

variable {start : World σ} {visits before since : List (Visit σ)} {a : Visit σ}

theorem History.remembers
    (h : History env settings (fun w w' => w.store.KeepsStatus k w'.store) start visits w)
    (split : visits = before ++ a :: since) (knows : Knows k id w.store) :
    Remembers k id (a :: since) := by
  induction h with
  | begin => simp at split
  | meanwhile _ change ih => exact ih split (knows.of_keepsStatus change)
  | pass =>
    rcases split_concat split with ⟨rfl, rfl, -⟩ | ⟨since', rfl, -⟩
    · exact ⟨_, List.mem_cons_self, knows⟩
    · exact ⟨_, by simp, knows⟩

/-- An id that was stored stays so until Konnect tells that the entity is gone. -/
theorem History.known_or_gone (solitary : env.Solitary) (hid : id ≠ "")
    (h : History env settings (fun w w' => w.store.KeepsStatus k w'.store) start visits w)
    (split : visits = before ++ a :: since) (remembers : Remembers k id (a :: since)) :
    KnowsOnly k id w.store ∨ ∃ v ∈ since, v.key = k ∧ ∃ p, v.TellsGone p id := by
  induction h generalizing since with
  | begin => simp at split
  | meanwhile _ change ih =>
    exact (ih split remembers).imp_left (KnowsOnly.of_keepsStatus change)
  | @pass visits w h kind ns name ih =>
    obtain ⟨v, hv, knows⟩ := remembers
    rcases split_concat split with ⟨rfl, rfl, -⟩ | ⟨since', rfl, rfl⟩
    · obtain rfl := List.mem_singleton.mp hv
      exact .inl knows.only
    · rw [← List.cons_append] at hv
      rcases List.mem_append.mp hv with hv | hv
      · rcases ih rfl ⟨v, hv, knows⟩ with known | ⟨u, hu, key, gone⟩
        · have course := visit_course env settings kind ns name w
          by_cases key : (visit env settings kind ns name w).key = k
          · rw [key] at course
            rcases course.known_or_gone solitary hid known with known | gone
            · exact .inl known
            · exact .inr ⟨_, by simp, key, gone⟩
          · exact .inl (known.of_keepsStatus (course.keepsStatus_other
              (solitary.disturbs (Store.keepsStatus_refl k)) key))
        · exact .inr ⟨u, List.mem_append_left _ hu, key, gone⟩
      · obtain rfl := List.mem_singleton.mp hv
        exact .inl knows.only

theorem History.remembers_of_gone
    (h : History env settings (fun w w' => w.store.KeepsStatus k w'.store) start visits w)
    (split : visits = before ++ a :: since) {v : Visit σ} (hv : v ∈ since) (key : v.key = k)
    {p : EntityPath} (gone : v.TellsGone p id) : Remembers k id (a :: since) := by
  induction h generalizing since with
  | begin => simp at split
  | meanwhile _ _ ih => exact ih split hv
  | @pass visits w h kind ns name ih =>
    rcases split_concat split with ⟨rfl, -, -⟩ | ⟨since', rfl, rfl⟩
    · cases hv
    · have before : Remembers k id (a :: since') := by
        rcases List.mem_append.mp hv with hv | hv
        · exact ih rfl hv
        · obtain rfl := List.mem_singleton.mp hv
          subst key
          exact h.remembers rfl ((visit_course env settings kind ns name w).knows_of_gone gone)
      obtain ⟨u, hu, knows⟩ := before
      exact ⟨u, List.mem_append_left _ hu, knows⟩

end

/-- Once a pass created an entity and a later one releases the finalizer of its object, Konnect was told
in between, or the last pass was, that the entity is gone, exactly if its id was stored at some time.
It was if the pass that created it went well. Konnect tells it under the path of the creation as long
as every pass about the entity went there. -/
theorem entity_gone_iff_remembered (solitary : env.Solitary) {kind : ManagedKind}
    {ns name : String} {start w : World σ} {before since : List (Visit σ)} {a : Visit σ}
    {p : EntityPath} {id : String}
    (history : History env settings
      (fun w w' => w.store.KeepsStatus ⟨kind, ns, name⟩ w'.store) start (before ++ a :: since) w)
    (own : a.key = ⟨kind, ns, name⟩) (creates : a.Creates p id)
    (releases : Releases ⟨kind, ns, name⟩ w.store (visit env settings kind ns name w).after.store) :
    (a.result.isOk → Remembers ⟨kind, ns, name⟩ id (a :: since)) ∧
      (Remembers ⟨kind, ns, name⟩ id (a :: since) ↔
        ∃ v ∈ since ++ [visit env settings kind ns name w], v.key = ⟨kind, ns, name⟩ ∧
          ∃ q, v.TellsGone q id) ∧
      ((∀ v ∈ since ++ [visit env settings kind ns name w], v.key = ⟨kind, ns, name⟩ →
          ∀ q, v.Addresses q id → q = p) →
        (Remembers ⟨kind, ns, name⟩ id (a :: since) ↔
          ∃ v ∈ since ++ [visit env settings kind ns name w], v.key = ⟨kind, ns, name⟩ ∧
            v.TellsGone p id)) := by
  have hid : id ≠ "" := by
    obtain ⟨x, -, created⟩ := List.mem_filterMap.mp creates
    exact Exchange.ne_empty_of_created? created
  have course := visit_course env settings kind ns name w
  have remembered : Remembers ⟨kind, ns, name⟩ id (a :: since) ↔
      ∃ v ∈ since ++ [visit env settings kind ns name w], v.key = ⟨kind, ns, name⟩ ∧
        ∃ q, v.TellsGone q id := by
    constructor
    · intro remembers
      rcases history.known_or_gone solitary hid rfl remembers with known | ⟨v, hv, key, gone⟩
      · obtain ⟨o, stored, dismissed⟩ := course.dismissed solitary releases
        rcases dismissed with ⟨unknown, -⟩ | ⟨-, q, -, spoken⟩
        · exact absurd ((known o stored).symm.trans unknown) hid
        · rw [known o stored] at spoken
          exact ⟨_, by simp, rfl, q, List.mem_filterMap.mpr spoken.tells_gone⟩
      · exact ⟨v, List.mem_append_left _ hv, key, gone⟩
    · rintro ⟨v, hv, key, q, gone⟩
      rcases List.mem_append.mp hv with hv | hv
      · exact history.remembers_of_gone rfl hv key gone
      · obtain rfl := List.mem_singleton.mp hv
        exact history.remembers rfl (course.knows_of_gone gone)
  refine ⟨fun ok => ?_, remembered, fun unmoved => remembered.trans ⟨?_, ?_⟩⟩
  · have created := (own ▸ history.course (by simp)).knows_of_created solitary ok creates
    exact ⟨a, List.mem_cons_self, created⟩
  · rintro ⟨v, hv, key, q, gone⟩
    have about : v.Addresses q id := by
      obtain ⟨x, hx, gone⟩ := List.mem_filterMap.mp gone
      exact List.mem_filterMap.mpr ⟨x, hx, Exchange.about?_of_gone? gone⟩
    obtain rfl := unmoved v hv key q about
    exact ⟨v, hv, key, gone⟩
  · rintro ⟨v, hv, key, gone⟩
    exact ⟨v, hv, key, p, gone⟩

section

open Scene

/-- Its entity is created, the id stored, and once the deletion is asked for the entity is deleted. -/
theorem entity_gone_of_web :
    (opening flaky []).Creates services "e" ∧
      Releases webKey (closing flaky []).before.store (closing flaky []).after.store ∧
      ∃ v ∈ [closing flaky []], v.key = webKey ∧ v.TellsGone services "e" := by
  have creates : (opening flaky []).Creates services "e" := by
    unfold Visit.Creates
    decide +kernel
  have releases : Releases webKey (closing flaky []).before.store (closing flaky []).after.store := by
    unfold Releases
    decide +kernel
  have about : (closing flaky []).talk.filterMap Exchange.about? = [(services, "e")] := by decide +kernel
  have history : History flaky OperatorSettings.default
      (fun w w' => w.store.KeepsStatus webKey w'.store) (fresh []) ([] ++ opening flaky [] :: [])
      (closing flaky []).before := opening_history flaky []
  obtain ⟨stored, -, unmoved⟩ :=
    entity_gone_iff_remembered flaky_solitary history rfl creates releases
  refine ⟨creates, releases, (unmoved fun v hv _ q addressed => ?_).mp (stored (by decide +kernel))⟩
  obtain rfl := List.mem_singleton.mp hv
  have addressed : (q, "e") ∈ (closing flaky []).talk.filterMap Exchange.about? := addressed
  rw [about] at addressed
  cases List.mem_singleton.mp addressed
  rfl

/-- If the status can not be stored after the creation and the deletion is asked for next, the
finalizer is released and nobody was told that the entity is gone. -/
theorem entity_lost_with_its_id :
    History flaky OperatorSettings.default (fun w w' => w.store.KeepsStatus webKey w'.store)
        (fresh [.patchStatus webKey]) [opening flaky [.patchStatus webKey]]
        (closing flaky [.patchStatus webKey]).before ∧
      (opening flaky [.patchStatus webKey]).Creates services "e" ∧
      Releases webKey (closing flaky [.patchStatus webKey]).before.store
        (closing flaky [.patchStatus webKey]).after.store ∧
      ¬ ∃ v ∈ [closing flaky [.patchStatus webKey]], ∃ p, v.TellsGone p "e" := by
  have creates : (opening flaky [.patchStatus webKey]).Creates services "e" := by
    unfold Visit.Creates
    decide +kernel
  have releases : Releases webKey (closing flaky [.patchStatus webKey]).before.store
      (closing flaky [.patchStatus webKey]).after.store := by
    unfold Releases
    decide +kernel
  have told : (closing flaky [.patchStatus webKey]).talk.filterMap Exchange.gone? = [] := by
    decide +kernel
  refine ⟨opening_history flaky _, creates, releases, ?_⟩
  rintro ⟨v, hv, p, gone⟩
  obtain rfl := List.mem_singleton.mp hv
  rw [Visit.TellsGone, told] at gone
  cases gone

end

end GatewaySync.Reconcile
