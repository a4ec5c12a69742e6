import GatewaySync.Proofs.Cloud
/-!
# Where an entity is deleted

While the store takes what a pass writes, and nobody else writes meanwhile, the stored coordinates of an
object are those that its references came to last. A deletion therefore goes to the collection of that
resolution, which is the one of the entity as long as the references still lead there; it fails before
Konnect is called if the resolution left an id out that the path needs.
-/
namespace GatewaySync

namespace Store

/-- An object under the key afterwards has no status or the one that was stored before. -/
def InventsNoStatus (k : Key) (s t : Store) : Prop :=
  ∀ o, t.findObject? k = some o →
    o.status = none ∨ ∃ o₀, s.findObject? k = some o₀ ∧ o.status = o₀.status

theorem KeepsStatus.inventsNoStatus {k : Key} {s t : Store} (h : s.KeepsStatus k t) :
    s.InventsNoStatus k t := by
  intro o stored
  obtain ⟨o₀, stored₀, -, status⟩ := h o stored
  exact .inr ⟨o₀, stored₀, status⟩

end Store

namespace Reconcile

open Pass World Entity

variable {σ : Type} {env : Environment σ} {settings : OperatorSettings} {k : Key} {o o' : Object}
  {w w' : World σ} {talk : List Exchange}

theorem patchStatus_willing (writable : env.Writable) {stored : Object}
    (target : w.store.patchTarget o = .ok stored) : (w.patchStatus env o).1 = .ok () := by
  rw [World.patchStatus, attempt_willing (writable.status _ _)]
  simp [Store.patchStatus, target, Except.mapError]

theorem patchMetadata_willing (writable : env.Writable) {stored : Object}
    (target : w.store.patchTarget o = .ok stored) (kept : o.metadata.finalizerList ≠ []) :
    ∃ x, (w.patchMetadata env o).1 = .ok (some x) := by
  have key : stored.key = o.key := Store.key_of_patchTarget target
  rw [World.patchMetadata, attempt_willing (writable.metadata _ _)]
  simp [Store.patchMetadata, target, kept, Except.mapError, Store.findObject?_put, key]

theorem finalizerList_ne_nil {m : Metadata} (h : m.hasCleanup) : m.finalizerList ≠ [] := by
  intro none
  simp [Metadata.hasCleanup, none] at h

theorem persistMetadata_willing (writable : env.Writable) {fetched : Metadata}
    {b : Except SyncError Bool} {stored : Object}
    (h : (persistMetadata env fetched).onObject o w = (b, o', w'))
    (target : w.store.patchTarget (guarded o) = .ok stored) : b = .ok true := by
  obtain ⟨x, patched⟩ := patchMetadata_willing writable target
    (finalizerList_ne_nil o.metadata.withCleanup_hasCleanup)
  rw [onObject_persistMetadata] at h
  split_ifs at h
  · rcases hp : w.patchMetadata env (guarded o) with ⟨r, v⟩
    rw [hp] at h patched
    subst patched
    cases h
    rfl
  · cases h
    rfl

theorem persistStatus_willing (writable : env.Writable) {fetched : Option Status}
    {s : Except SyncError Unit} {stored : Object}
    (h : (persistStatus env fetched).onObject o w = (s, o', w'))
    (target : w.store.patchTarget o = .ok stored) : s = .ok () := by
  rw [onObject_persistStatus] at h
  split_ifs at h <;> cases h
  · exact patchStatus_willing writable target
  · rfl

/-- What was stored of an object is what a patch of it applies to once its references were resolved. -/
theorem resolved_target {o₁ : Object} {w₁ : World σ} {q : Except SyncError Readiness}
    (stored : w.store.findObject? o.key = some o)
    (resolved : (Resolve.references env).onObject o w = (q, o₁, w₁)) :
    w₁.store.patchTarget o₁ = .ok o := by
  have leaves := Resolve.leaves_of_references resolved
  refine Store.patchTarget_eq_ok.mpr ⟨?_, by rw [leaves.metadata]⟩
  rw [leaves.key, leaves.store]
  exact stored

theorem Reads.target {o₁ : Object} {w₀ w₁ : World σ} {q : Except SyncError Readiness}
    (reads : Reads env k w₀ o w) (resolved : (Resolve.references env).onObject o w = (q, o₁, w₁)) :
    w₁.store.patchTarget o₁ = .ok o := resolved_target reads.own_stored resolved

/-- With the references ready, a pass never stops before Konnect is called. -/
theorem Reads.prepares (writable : env.Writable) {o₁ : Object} {w₀ w₁ : World σ}
    {q : Except SyncError Readiness} {b : Except SyncError Bool} {fetched : Metadata}
    (reads : Reads env k w₀ o w) (resolved : (Resolve.references env).onObject o w = (q, o₁, w₁))
    (prepared : (persistMetadata env fetched).onObject o₁ w₁ = (b, o', w')) : b = .ok true := by
  have target : w₁.store.patchTarget (guarded o₁) = .ok o := by
    rw [patchTarget_guarded]
    exact reads.target resolved
  exact persistMetadata_willing writable prepared target

theorem Reads.prepared_target {o₁ o₂ : Object} {w₀ w₁ w₂ : World σ} {q : Except SyncError Readiness}
    {fetched : Metadata} (reads : Reads env k w₀ o w)
    (resolved : (Resolve.references env).onObject o w = (q, o₁, w₁))
    (prepared : (persistMetadata env fetched).onObject o₁ w₁ = (.ok true, o₂, w₂)) :
    ∃ s, w₂.store.findObject? k = some s ∧ ∀ x : Object, x.key = k → x.metadata = o₂.metadata →
      w₂.store.patchTarget x = .ok s := by
  obtain ⟨s, stored, -, -, version⟩ := reads.stored_of_prepared resolved prepared
  refine ⟨s, stored, fun x key metadata => Store.patchTarget_eq_ok.mpr ⟨?_, by rw [version, metadata]⟩⟩
  rw [key]
  exact stored

theorem persistStatus_stores (writable : env.Writable) {fetched : Option Status}
    {s : Except SyncError Unit} {stored : Object}
    (h : (persistStatus env fetched).onObject o w = (s, o', w'))
    (target : w.store.patchTarget o = .ok stored) (same : stored.status = fetched)
    (lasting : fetched.isSome → o.status.isSome) {x : Object}
    (after : w'.store.findObject? o.key = some x) : x.status = o.status := by
  have before (y : Object) (hy : w.store.findObject? o.key = some y) : y.status = fetched := by
    rw [(Store.patchTarget_eq_ok.mp target).1] at hy
    cases hy
    exact same
  have settled := (persistStatus_settles h lasting before after).2.2
  rw [persistStatus_willing writable h target] at settled
  exact settled rfl

theorem Syncing.stores (writable : env.Writable) {w₀ : World σ} {r : Except SyncError Outcome}
    {m : Object} (h : Syncing env o w talk r m w') (reads : Reads env k w₀ o w) {x : Object}
    (after : w'.store.findObject? k = some x) : x.status = m.status := by
  have key : m.key = k := h.key.trans reads.key
  rw [← key] at after
  cases h with
  | unready resolved _ noted kept =>
    have leaves := Resolve.leaves_of_references resolved
    have target := reads.target resolved
    rw [← Store.patchTarget_congr _ noted.key (by rw [noted.metadata])] at target
    exact persistStatus_stores writable kept target rfl
      (fun hs => noted.status (leaves.status hs)) after
  | unprepared resolved prepared => cases reads.prepares writable resolved prepared
  | gone resolved prepared => cases reads.prepares writable resolved prepared
  | @spoken _ _ o₁ o₂ _ w₁ w₂ w₃ _ _ _ resolved prepared _ talks learns status kept =>
    obtain ⟨s, stored, target⟩ := reads.prepared_target resolved prepared
    have leaves := Resolve.leaves_of_references resolved
    have target := target m key learns.metadata
    rw [← talks.store_eq writable.undisturbed] at target
    have same : s.status = o.status := by
      obtain ⟨o₀, stored₀, -, status⟩ := persistMetadata_keepsStatus prepared k s stored
      rw [leaves.store, reads.stored.2, reads.stored.1] at stored₀
      cases stored₀
      exact status
    exact persistStatus_stores writable kept target same (fun _ => status) after

/-- What a sync comes to leads to where the references lead, and the last entity that was named is the
one that is known there. -/
theorem Syncing.leads (writable : env.Writable) {w₀ : World σ} {r : Except SyncError Outcome}
    {m : Object} (h : Syncing env o w talk r m w') (reads : Reads env k w₀ o w) :
    m.path .delete = ((Resolve.references env).onObject o w).2.1.path .delete ∧
      ((talk.filterMap Exchange.names? = [] ∧ (m.konnectId = o.konnectId ∨ m.konnectId = "")) ∨
        ∃ p, talk.filterMap Exchange.names? = [(p, m.konnectId)] ∧ m.path .delete = .ok p) := by
  cases h with
  | unready resolved _ noted =>
    rw [resolved]
    have known := (Resolve.leaves_of_references resolved).konnectId
    exact ⟨noted.path .delete, .inl ⟨rfl, .inl (noted.id.trans known)⟩⟩
  | unprepared resolved prepared => cases reads.prepares writable resolved prepared
  | gone resolved prepared => cases reads.prepares writable resolved prepared
  | spoken resolved prepared spoken _ learns =>
    rw [resolved]
    have same := prepared_of_resolved resolved prepared
    have path := learns.path .delete
    refine ⟨path.trans same.path, ?_⟩
    rcases spoken.names with ⟨-, p, placed, names⟩ | ⟨-, id, names⟩
    · refine .inr ⟨p, ?_, path.trans (Object.path_delete placed)⟩
      rw [names, learns.id]
    · refine .inl ⟨names, ?_⟩
      rw [learns.id]
      exact id.imp_left fun known => known.trans same.konnectId

namespace Visit

/-- The entity of the object was created, written or adopted by the visit. -/
def Places (v : Visit σ) (p : EntityPath) (id : String) : Prop :=
  (p, id) ∈ v.talk.filterMap Exchange.names?

end Visit

/-- The visits after the last one that placed an entity of the object. -/
structure Placed (k : Key) (id : String) (p : EntityPath) (since visits : List (Visit σ)) :
    Prop where
  split : ∃ before a, visits = before ++ a :: since ∧ a.key = k ∧ a.Places p id
  none_since : ∀ v ∈ since, v.key = k → v.talk.filterMap Exchange.names? = []

/-- Where the references of an object that was placed led last. -/
def latest (env : Environment σ) (k : Key) (p : EntityPath) (since : List (Visit σ)) :
    Except SyncError EntityPath :=
  (since.filterMap (Visit.destination env k)).getLast?.getD (.ok p)

theorem latest_concat (p : EntityPath) (since : List (Visit σ)) (v : Visit σ) :
    latest env k p (since ++ [v]) = (v.destination env k).getD (latest env k p since) := by
  unfold latest
  rw [List.filterMap_append]
  cases h : v.destination env k <;> simp [h]

/-- References that keep leading to the entity led to it last. -/
theorem latest_of_all {p : EntityPath} {since : List (Visit σ)}
    (all : ∀ v ∈ since, ∀ d ∈ v.destination env k, d = .ok p) :
    latest env k p since = .ok p := by
  unfold latest
  cases h : (since.filterMap (Visit.destination env k)).getLast? with
  | none => rfl
  | some d =>
    obtain ⟨v, hv, led⟩ := List.mem_filterMap.mp (List.mem_of_getLast? h)
    exact all v hv d led

/-- The entity that the object knows was placed, and the object leads to where its references led last. -/
def Traces (env : Environment σ) (k : Key) (visits : List (Visit σ)) (o : Object) : Prop :=
  o.konnectId = "" ∨
    ∃ p since, Placed k o.konnectId p since visits ∧ o.path .delete = latest env k p since

section

variable {visits : List (Visit σ)}

theorem Placed.concat {id : String} {p : EntityPath} {since : List (Visit σ)}
    (h : Placed k id p since visits) {v : Visit σ}
    (none : v.key = k → v.talk.filterMap Exchange.names? = []) :
    Placed k id p (since ++ [v]) (visits ++ [v]) := by
  obtain ⟨⟨before, a, rfl, key, places⟩, none_since⟩ := h
  refine ⟨⟨before, a, by simp, key, places⟩, fun u hu => ?_⟩
  rcases List.mem_append.mp hu with hu | hu
  · exact none_since u hu
  · obtain rfl := List.mem_singleton.mp hu
    exact none

theorem Traces.congr (h : Traces env k visits o) (key : o'.key = o.key)
    (status : o'.status = o.status) : Traces env k visits o' := by
  have konnect := Object.konnect_congr status
  have id : o'.konnectId = o.konnectId := congrArg Coordinates.id konnect
  have path : o'.path .delete = o.path .delete :=
    Object.path_delete_congr key (congrArg Coordinates.controlPlaneId konnect)
      (congrArg Coordinates.parentId konnect)
  rw [Traces, id, path]
  exact h

/-- A visit that leads nowhere and places nothing leaves no trace. -/
theorem Traces.concat (h : Traces env k visits o) {v : Visit σ}
    (nowhere : v.destination env k = none)
    (none : v.key = k → v.talk.filterMap Exchange.names? = []) :
    Traces env k (visits ++ [v]) o := by
  rcases h with unknown | ⟨p, since, placed, path⟩
  · exact .inl unknown
  · refine .inr ⟨p, since ++ [v], placed.concat none, ?_⟩
    rw [latest_concat, nowhere]
    exact path

theorem Traces.sync (h : Traces env k visits o) {m : Object} {v : Visit σ} (key : v.key = k)
    (leads : v.destination env k = some (m.path .delete))
    (named : (v.talk.filterMap Exchange.names? = [] ∧
        (m.konnectId = o.konnectId ∨ m.konnectId = "")) ∨
      ∃ p, v.talk.filterMap Exchange.names? = [(p, m.konnectId)] ∧ m.path .delete = .ok p) :
    Traces env k (visits ++ [v]) m := by
  rcases named with ⟨none, same | unknown⟩ | ⟨p, names, path⟩
  · rcases h with unknown | ⟨p, since, placed, -⟩
    · exact .inl (same.trans unknown)
    · rw [← same] at placed
      refine .inr ⟨p, since ++ [v], placed.concat fun _ => none, ?_⟩
      rw [latest_concat, leads]
      rfl
  · exact .inl unknown
  · refine .inr ⟨p, [], ⟨⟨visits, v, rfl, key, ?_⟩, by simp⟩, path⟩
    rw [Visit.Places, names]
    exact List.mem_singleton_self _

def Traced (env : Environment σ) (k : Key) (visits : List (Visit σ)) (s : Store) : Prop :=
  ∀ o, s.findObject? k = some o → Traces env k visits o

theorem Traced.of_inventsNoStatus {s t : Store} (h : Traced env k visits s)
    (change : s.InventsNoStatus k t) : Traced env k visits t := by
  intro o stored
  rcases change o stored with fresh | ⟨o₀, stored₀, status⟩
  · exact .inl (by simp [Object.konnectId, Object.konnect, fresh, Coordinates.none])
  · have key := (Store.key_of_findObject? stored).trans (Store.key_of_findObject? stored₀).symm
    exact (h o₀ stored₀).congr key status

theorem Traced.pass (writable : env.Writable) (h : Traced env k visits w.store) {v : Visit σ}
    (course : Course env settings v.key v.before v.talk v.result v.after) (before : v.before = w) :
    Traced env k (visits ++ [v]) v.after.store := by
  subst before
  have others : env.Disturbs (Store.KeepsStatus k) :=
    writable.undisturbed.of_undisturbed (Store.keepsStatus_refl k)
  have idle (nowhere : v.destination env k = none)
      (none : v.key = k → v.talk.filterMap Exchange.names? = [])
      (kept : v.before.store.KeepsStatus k v.after.store) :
      Traced env k (visits ++ [v]) v.after.store :=
    Traced.of_inventsNoStatus (fun o stored => (h o stored).concat nowhere none) kept.inventsNoStatus
  by_cases key : v.key = k
  · rw [key] at course
    by_cases read : ∃ o w₁, Reads env k v.before o w₁
    · obtain ⟨o, w₁, reads⟩ := read
      have led : v.destination env k = _ := (if_pos key).trans (destination_of_reads reads)
      rcases course.of_reads reads with ⟨need, said, -, store⟩ |
        ⟨need, r, u, b, cleaning, after, -⟩ | ⟨need, r, m, u, b, syncing, after, -⟩ <;> rw [need] at led
      · exact idle led (fun _ => by rw [said]; rfl) (store ▸ Store.keepsStatus_refl k _)
      · have kept := cleaning.keepsStatus others
        rw [reads.stored.2] at kept
        exact idle led (fun _ => cleaning.farewell.names) (by rw [after]; exact kept)
      · obtain ⟨path, named⟩ := syncing.leads writable reads
        rw [if_pos rfl, ← path] at led
        have trace := (h o reads.stored.1).sync key led named
        intro x stored
        rw [after] at stored
        have same : x.key = m.key :=
          (Store.key_of_findObject? stored).trans (syncing.key.trans reads.key).symm
        exact trace.congr same (syncing.stores writable reads stored)
    · have unread (o : Object) (w₁ : World σ) : ¬ Reads env k v.before o w₁ :=
        fun reads => read ⟨o, w₁, reads⟩
      obtain ⟨said, -, store⟩ := course.of_unread unread
      exact idle ((if_pos key).trans (destination_of_unread unread)) (fun _ => by rw [said]; rfl)
        (store ▸ Store.keepsStatus_refl k _)
  · exact idle (if_neg key) (fun same => absurd same key) (course.keepsStatus_other others key)

theorem History.traced (writable : env.Writable) {start : World σ}
    (fresh : ∀ o, start.store.findObject? k = some o → o.status = none)
    (h : History env settings (fun w w' => w.store.InventsNoStatus k w'.store) start visits w) :
    Traced env k visits w.store := by
  induction h with
  | begin =>
    intro o stored
    exact .inl (by simp [Object.konnectId, Object.konnect, fresh o stored, Coordinates.none])
  | meanwhile _ change ih => exact ih.of_inventsNoStatus change
  | pass _ kind ns name ih => exact ih.pass writable (visit_course env settings kind ns name _) rfl

end

/-- The deletion of a known entity goes to where its object leads, if that is anywhere. -/
theorem Cleaning.of_known {r : Except SyncError Unit} (h : Cleaning env o w talk r w')
    (known : o.konnectId ≠ "") :
    match o.path .delete with
    | .ok q => ∃ ok, Deletion q o.konnectId talk ok
    | .error e => e.isMissingReference ∧ talk = [] ∧ r = .error e := by
  cases h with
  | pathless _ path =>
    rw [path]
    exact ⟨Object.path_error path, rfl, rfl⟩
  | refused _ path spoken =>
    rw [path]
    exact ⟨false, spoken⟩
  | released dismissed =>
    rcases dismissed with ⟨unknown, -⟩ | ⟨-, q, path, spoken⟩
    · exact absurd unknown known
    · rw [path]
      exact ⟨true, spoken⟩

/-- In a run from objects without a status, an object that is being deleted and knows an entity was
placed under that id, and the deletion goes to where its references led last since then. That is where
the entity was placed as long as they kept leading there. If they led nowhere, the pass fails for want
of an id, and Konnect is not called. -/
theorem deletion_follows_references (writable : env.Writable) {kind : ManagedKind}
    {ns name : String} {start w : World σ} {visits : List (Visit σ)} {o : Object}
    (fresh : ∀ o, start.store.findObject? ⟨kind, ns, name⟩ = some o → o.status = none)
    (history : History env settings
      (fun w w' => w.store.InventsNoStatus ⟨kind, ns, name⟩ w'.store) start visits w)
    (found : (w.get env ⟨kind, ns, name⟩).1 = .ok (some (.managed o)))
    (deleting : o.metadata.isDeleting) (cleanup : o.metadata.hasCleanup) (known : o.konnectId ≠ "") :
    ∃ p since, Placed ⟨kind, ns, name⟩ o.konnectId p since visits ∧
      ((∀ v ∈ since, ∀ d ∈ v.destination env ⟨kind, ns, name⟩, d = .ok p) →
        ∃ ok, Deletion p o.konnectId (visit env settings kind ns name w).talk ok) ∧
      match latest env ⟨kind, ns, name⟩ p since with
      | .ok q => ∃ ok, Deletion q o.konnectId (visit env settings kind ns name w).talk ok
      | .error e => e.isMissingReference ∧ (visit env settings kind ns name w).talk = [] ∧
          (visit env settings kind ns name w).result = .error e := by
  have reads : Reads env ⟨kind, ns, name⟩ w o (w.get env ⟨kind, ns, name⟩).2 :=
    ⟨some (.managed o), Prod.ext found rfl, rfl⟩
  obtain ⟨p, since, placed, path⟩ :=
    (history.traced writable fresh o reads.stored.1).resolve_left known
  have outcome : match latest env ⟨kind, ns, name⟩ p since with
      | .ok q => ∃ ok, Deletion q o.konnectId (visit env settings kind ns name w).talk ok
      | .error e => e.isMissingReference ∧ (visit env settings kind ns name w).talk = [] ∧
          (visit env settings kind ns name w).result = .error e := by
    have need : o.need = .cleanup := Object.need_eq_cleanup.mpr ⟨deleting, cleanup⟩
    have course := visit_course env settings kind ns name w
    rcases course.of_reads reads with ⟨other, -⟩ | ⟨-, r, u, b, cleaning, -, result⟩ | ⟨other, -⟩
    · cases need.symm.trans other
    · have cleaned := cleaning.of_known known
      rw [path] at cleaned
      cases led : latest env ⟨kind, ns, name⟩ p since with
      | ok q =>
        rw [led] at cleaned
        exact cleaned
      | error e =>
        rw [led] at cleaned
        exact ⟨cleaned.1, cleaned.2.1, result.trans (by rw [cleaned.2.2]; rfl)⟩
    · cases need.symm.trans other
  refine ⟨p, since, placed, fun all => ?_, outcome⟩
  rw [latest_of_all all] at outcome
  exact outcome

section

open Scene

theorem found_of_any {c : Object → Bool} {w : World Cloud}
    (h : (w.store.findObject? k).any c) :
    ∃ o, (w.get calm k).1 = .ok (some (.managed o)) ∧ c o := by
  obtain ⟨o, stored, holds⟩ := (Option.any_eq_true _ _).mp h
  rw [Store.findObject?_eq] at stored
  obtain ⟨r, found, managed⟩ := Option.bind_eq_some_iff.mp stored
  rcases r with r | _ <;> cases managed
  refine ⟨o, ?_, holds⟩
  rw [World.get, attempt_willing rfl]
  simp [found]

/-- The entity of the service is deleted where it was created. -/
theorem web_deleted_where_placed :
    ∃ o, ((closing calm []).before.get calm webKey).1 = .ok (some (.managed o)) ∧ o.konnectId = "e" ∧
      (opening calm []).Places services "e" ∧ ∃ ok, Deletion services "e" (closing calm []).talk ok := by
  have names : (opening calm []).talk.filterMap Exchange.names? = [(services, "e")] := by decide +kernel
  have stored : ((closing calm []).before.store.findObject? webKey).any fun o =>
      o.metadata.isDeleting && o.metadata.hasCleanup && o.konnectId = "e" := by
    decide +kernel
  obtain ⟨o, found, holds⟩ := found_of_any stored
  simp only [Bool.and_eq_true, decide_eq_true_eq] at holds
  obtain ⟨⟨deleting, cleanup⟩, id⟩ := holds
  have bare (o : Object) (h : (fresh []).store.findObject? webKey = some o) : o.status = none := by
    cases h
    rfl
  have history := (opening_history calm []).mono
    fun _ _ (kept : Store.KeepsStatus webKey _ _) => kept.inventsNoStatus
  obtain ⟨p, since, placed, unmoved, -⟩ := deletion_follows_references calm_writable bare history
    found deleting cleanup (by rw [id]; decide)
  obtain ⟨⟨before, a, split, -, places⟩, -⟩ := placed
  obtain ⟨rfl, same⟩ := List.append_eq_singleton_iff.mp split.symm |>.resolve_right (by simp)
  cases same
  rw [Visit.Places, names, id] at places
  cases List.mem_singleton.mp places
  rw [id] at unmoved
  refine ⟨o, found, id, ?_, unmoved (by simp)⟩
  rw [Visit.Places, names]
  exact List.mem_singleton_self _

/-- A control plane, and a service that refers to it by its name. -/
def plane : Object where
  metadata := { (default : Metadata) with name := some "main", ns := some "shop", uid := some "u-2" }
  spec := .controlPlane ⟨"main", none, none, []⟩
  status := none

def planeKey : Key := ⟨ManagedKind.controlPlane, "shop", "main"⟩

def joined : Object :=
  { web with spec := .service ⟨some (.object "main" none), none, "example.org", none, none, none, none, []⟩ }

def together : World Cloud :=
  world ((Store.empty.put (.managed plane)).put (.managed joined)) (Cloud.empty [])

def founding : Visit Cloud := visit calm OperatorSettings.default .controlPlane "shop" "main" together

/-- The pass over the service, the one after the deletion of the control plane was asked for, and the one
after that of the service was. -/
def joining : Visit Cloud := webVisit calm founding.after

def parting : Visit Cloud :=
  webVisit calm { joining.after with store := mark planeKey joining.after.store }

def leaving : Visit Cloud := webVisit calm (markWeb parting.after)

/-- Once its control plane is being deleted, a service is not deleted any more: the pass over it fails
before Konnect is called. -/
theorem deletion_stuck_without_plane :
    (∀ k o, together.store.findObject? k = some o → o.status = none) ∧
      History calm OperatorSettings.default
        (fun w w' => w.store.InventsNoStatus webKey w'.store) together
        [founding, joining, parting] leaving.before ∧
      joining.Places (.controlPlane "e" "services") "ee" ∧
      (∃ o, (leaving.before.get calm webKey).1 = .ok (some (.managed o)) ∧
        o.metadata.isDeleting ∧ o.metadata.hasCleanup ∧ o.konnectId = "ee") ∧
      leaving.talk = [] ∧
      leaving.result = .error (.missingControlPlaneId .delete "KongService" "shop/web") := by
  have history : History calm OperatorSettings.default
      (fun w w' => w.store.InventsNoStatus webKey w'.store) together [founding, joining, parting]
      leaving.before := by
    have joined : History calm OperatorSettings.default
        (fun w w' => w.store.InventsNoStatus webKey w'.store) together [founding, joining]
        { joining.after with store := mark planeKey joining.after.store } :=
      ((History.begin.pass .controlPlane "shop" "main").pass .service "shop" "web").meanwhile
        (mark_keepsStatus planeKey webKey _).inventsNoStatus
    exact (joined.pass .service "shop" "web").meanwhile
      (mark_keepsStatus webKey webKey _).inventsNoStatus
  have names : joining.talk.filterMap Exchange.names? =
      [(.controlPlane "e" "services", "ee")] := by decide +kernel
  have stored : (leaving.before.store.findObject? webKey).any fun o =>
      o.metadata.isDeleting && o.metadata.hasCleanup && o.konnectId = "ee" := by
    decide +kernel
  have silent : leaving.talk.length = 0 := by decide +kernel
  have failed : leaving.result = .error (.missingControlPlaneId .delete "KongService" "shop/web") := by
    have told : (match leaving.result with | .error e => some e | .ok _ => none) =
        some (.missingControlPlaneId .delete "KongService" "shop/web") := by decide +kernel
    rcases h : leaving.result with e | a <;> rw [h] at told <;> cases told
    rfl
  refine ⟨fun k o h => ?_, history, ?_, ?_, List.length_eq_zero_iff.mp silent, failed⟩
  · unfold together world at h
    rw [Store.findObject?_put, Store.findObject?_put] at h
    split_ifs at h <;> cases h <;> rfl
  · rw [Visit.Places, names]
    exact List.mem_singleton_self _
  · obtain ⟨o, found, holds⟩ := found_of_any stored
    simp only [Bool.and_eq_true, decide_eq_true_eq] at holds
    exact ⟨o, found, holds.1.1, holds.1.2, holds.2⟩

end

end Reconcile

end GatewaySync
