import GatewaySync.Proofs.Destination
import GatewaySync.Proofs.LiveReferences
/-!
# What a programmed object knows

An object is called programmed once its entity was written, and then its coordinates are known. Later
passes may fail on its references; they clear what they could not resolve, and leave the verdict on the
entity as it was. So the id of a programmed object is always known, and its control plane is, unless the
conditions tell of a reference that fails.
-/
namespace GatewaySync

namespace Object

/-- The conditions tell that the control plane or the parent of the object is not to be had. -/
def ReferenceFails (o : Object) : Prop :=
  o.verdict? ConditionType.controlPlaneRefValid = some .false ∨
    ∃ parent, o.kind.parentKind? = some parent ∧ o.verdict? parent.linkCondition = some .false

/-- The control plane is known if there is to be one and no reference fails. -/
def Placeable (o : Object) : Prop :=
  o.kind.controlPlaneScoped → o.controlPlaneId ≠ "" ∨ o.ReferenceFails

/-- An object that is called programmed, at whatever generation, has its coordinates. -/
def Trustworthy (o : Object) : Prop :=
  o.verdict? ConditionType.programmed = some .true → o.konnectId ≠ "" ∧ o.Placeable

variable {o o' : Object}

theorem Trustworthy.of_none (fresh : o.status = none) : o.Trustworthy := by
  intro programmed
  simp [verdict?, condition?, conditions, fresh] at programmed

theorem Trustworthy.congr (h : o.Trustworthy) (kind : o'.kind = o.kind)
    (status : o'.status = o.status) : o'.Trustworthy := by
  have verdicts (type : String) : o'.verdict? type = o.verdict? type := by
    simp only [verdict?, condition?, conditions, status]
  have home : o'.controlPlaneId = o.controlPlaneId :=
    congrArg Coordinates.controlPlaneId (konnect_congr status)
  intro programmed
  rw [verdicts] at programmed
  obtain ⟨known, placeable⟩ := h programmed
  refine ⟨konnectId_congr status ▸ known, fun inPlane => ?_⟩
  rw [home, ReferenceFails, kind, verdicts]
  simp only [verdicts]
  exact placeable (kind ▸ inPlane)

end Object

namespace Resolve

open Pass (Keeps keeps_record keeps_modifyObject)

variable {σ : Type} {env : Environment σ} {o o' : Object} {w w' : World σ}

theorem not_unread (readable : env.Readable) (a : ApiError) : ¬ Unread env a := by
  rintro ⟨key, v, failed⟩
  rw [World.get, World.attempt_willing (readable key v.outside)] at failed
  cases failed

/-- A known control plane stays known, unless the condition tells that it is not to be had. -/
def homeFrame (σ : Type) : Pass.Frame σ where
  rel s t := s.1.controlPlaneId ≠ "" ∨ s.1.verdict? ConditionType.controlPlaneRefValid = some .false →
    t.1.controlPlaneId ≠ "" ∨ t.1.verdict? ConditionType.controlPlaneRefValid = some .false
  refl _ := id
  trans h h' := h' ∘ h

theorem homeFrame_admits : Admits env (homeFrame σ) where
  read _ := Pass.keeps_tryWorld fun _ _ => id
  invalid condition reason message _ := by
    refine keeps_record fun o w t => Or.imp (fun known => ?_) fun noted => ?_
    · simpa [Object.controlPlaneId] using known
    · rw [Object.record_verdict?]
      split_ifs
      · rfl
      · exact noted
  valid condition _ other := by
    refine keeps_record fun o w t => Or.imp (fun known => ?_) fun noted => ?_
    · simpa [Object.controlPlaneId] using known
    · exact (o.record_verdict? _ t _).trans ((if_neg other).trans noted)
  resolved _ := keeps_modifyObject fun _ _ => id

/-- A parent that is not to be had is told by its condition; targets of a binding have nothing to do
with the control plane that is known. -/
theorem placeable_of_unparented (readable : env.Readable) (kind : o'.kind = o.kind)
    (placeable : o.Placeable) {q : Except SyncError Resolution}
    (parent : (parentOf env).onObject o w = (q, o', w'))
    (failed : ∀ x, q = .ok x → x = .notReady) : o'.Placeable := by
  intro inPlane
  cases child : o.kind.parentKind? with
  | some parentKind =>
    cases parented_of_parentOf child parent with
    | unset => cases failed _ rfl
    | given => cases failed _ rfl
    | found => cases failed _ rfl
    | invalid noted => exact .inr (.inr ⟨parentKind, kind ▸ child, noted⟩)
    | unread unread => exact absurd unread (not_unread readable _)
  | none =>
    rw [parentOf, Pass.onObject_bind_ok (Pass.onObject_object o w), child] at parent
    cases spec : o.spec with
    | pluginBinding s =>
      simp only [spec] at parent
      have kept : (homeFrame σ).rel (o, w) ((binding env s).onObject o w).2 :=
        binding_keeps homeFrame_admits s o w
      rw [parent] at kept
      have childless : ¬ ∃ parent, o.kind.parentKind? = some parent ∧
          o.verdict? parent.linkCondition = some .false := by
        simp [child]
      exact (kept ((placeable (kind ▸ inPlane)).imp_right (·.resolve_right childless))).imp_right .inl
    | _ =>
      simp only [spec] at parent
      cases parent
      cases failed _ rfl

/-- Unless there is no control plane to be asked for, references that are not ready leave the object
placeable. -/
theorem placeable_of_unready (readable : env.Readable) (kind : o'.kind = o.kind)
    (placeable : o.Placeable) {r : Except SyncError Readiness} (h : Resolving env o w r o')
    (unready : r ≠ .ok .ready)
    (asked : ∀ op kind key, r ≠ .error (.missingControlPlaneId op kind key)) : o'.Placeable := by
  cases h with
  | unparented parent failed => exact placeable_of_unparented readable kind placeable parent failed
  | homeless _ home failed outcome =>
    intro inPlane
    cases home with
    | unscoped => cases failed _ rfl
    | inherited => cases failed _ rfl
    | given => cases failed _ rfl
    | found => cases failed _ rfl
    | missing => exact absurd outcome (asked _ _ _)
    | invalid noted => exact .inr (.inl noted)
    | unread unread => exact absurd unread (not_unread readable _)
  | disagreeing noted =>
    intro inPlane
    rcases mismatchCondition_cases o' with own | ⟨parent, child, theirs⟩
    · exact .inr (.inl (own ▸ noted))
    · exact .inr (.inr ⟨parent, child, theirs ▸ noted⟩)
  | ready => exact absurd rfl unready

end Resolve

namespace Reconcile

open Pass World Entity

variable {σ : Type} {env : Environment σ} {settings : OperatorSettings} {k : Key}
  {o m : Object} {w w' : World σ} {talk : List Exchange}

theorem Syncing.trustworthy (readable : env.Readable) {r : Except SyncError Outcome}
    (h : Syncing env o w talk r m w') (before : o.Trustworthy) : m.Trustworthy := by
  have kind : m.kind = o.kind := Object.kind_of_key_eq h.key
  intro programmed
  cases h with
  | @unready q s o₁ _ w₁ _ resolved unready noted kept told =>
    rcases told with ⟨rfl, asked⟩ | unknown
    · have leaves := Resolve.leaves_of_references resolved
      obtain ⟨known, placeable⟩ := before (leaves.verdict?.symm.trans programmed)
      refine ⟨leaves.konnectId ▸ known, ?_⟩
      exact Resolve.placeable_of_unready readable kind placeable
        (Resolve.resolving_of_references resolved) unready asked
    · rw [programmed] at unknown
      cases unknown
  | unprepared | gone => exact before programmed
  | @spoken r _ _ o₂ _ _ _ _ _ _ id resolved prepared spoken _ learns _ _ _ told =>
    rw [programmed] at told
    cases done : r.isOk <;> rw [done] at told spoken
    · cases told
    · obtain ⟨known, p, path⟩ := spoken.ne_empty
      refine ⟨learns.id ▸ known, fun inPlane => .inl ?_⟩
      have same : m.kind = o₂.kind := congrArg Spec.kind learns.spec
      rw [learns.controlPlaneId]
      exact (Object.controlPlaneId?_of_path path (same ▸ inPlane)).1

def Trusted (k : Key) (s : Store) : Prop := ∀ o, s.findObject? k = some o → o.Trustworthy

theorem Trusted.of_inventsNoStatus {s t : Store} (h : Trusted k s)
    (change : s.InventsNoStatus k t) : Trusted k t := by
  intro o stored
  rcases change o stored with fresh | ⟨o₀, stored₀, status⟩
  · exact .of_none fresh
  · have key := (Store.key_of_findObject? stored).trans (Store.key_of_findObject? stored₀).symm
    exact (h o₀ stored₀).congr (Object.kind_of_key_eq key) status

theorem Trusted.pass (readable : env.Readable) (others : env.Disturbs (Store.KeepsStatus k))
    (h : Trusted k w.store) {key : Key} {r : Except SyncError Action}
    (course : Course env settings key w talk r w') : Trusted k w'.store := by
  by_cases same : key = k
  · subst same
    rcases course.sync_or_keepsStatus others with
      ⟨o, w₁, s, m, v, b, reads, -, syncing, rfl, -⟩ | kept
    · intro x stored
      have read := reads.stored.1
      have before := h o read
      rw [← reads.stored.2] at read
      have key : x.key = o.key := (Store.key_of_findObject? stored).trans reads.key.symm
      rcases (syncing.settles others read stored).2.1 with status | status
      · exact before.congr (Object.kind_of_key_eq key) status
      · exact (syncing.trustworthy readable before).congr
          (Object.kind_of_key_eq (key.trans syncing.key.symm)) status
    · exact h.of_inventsNoStatus kept.inventsNoStatus
  · exact h.of_inventsNoStatus (course.keepsStatus_other others same).inventsNoStatus

theorem History.trusted (readable : env.Readable) (others : env.Disturbs (Store.KeepsStatus k))
    {start : World σ} {visits : List (Visit σ)}
    (fresh : ∀ o, start.store.findObject? k = some o → o.status = none)
    (h : History env settings (fun w w' => w.store.InventsNoStatus k w'.store) start visits w) :
    Trusted k w.store := by
  induction h with
  | begin => exact fun o stored => .of_none (fresh o stored)
  | meanwhile _ change ih => exact ih.of_inventsNoStatus change
  | pass _ kind ns name ih =>
    exact ih.pass readable others (visit_course env settings kind ns name _)

/-- In a run from objects without a status, in which reads do not fail and nobody else writes a status,
a stored object that is programmed as it stands has the id of its entity. If it lives in a control plane,
it has the id of that too, unless its conditions tell of a reference that fails. -/
theorem programmed_has_coordinates (readable : env.Readable)
    (others : env.Disturbs (Store.KeepsStatus k)) {start w : World σ} {visits : List (Visit σ)}
    {o : Object} (fresh : ∀ o, start.store.findObject? k = some o → o.status = none)
    (history : History env settings (fun w w' => w.store.InventsNoStatus k w'.store) start visits w)
    (stored : w.store.findObject? k = some o) (programmed : o.isProgrammed) :
    o.konnectId ≠ "" ∧ (o.kind.controlPlaneScoped → o.controlPlaneId ≠ "" ∨ o.ReferenceFails) :=
  history.trusted readable others fresh o stored (Object.verdict?_of_isProgrammed programmed)

section

open Scene

/-- Once it was joined to the control plane, the service is programmed and has its coordinates. -/
theorem web_has_coordinates :
    ∃ o, joining.after.store.findObject? webKey = some o ∧ o.isProgrammed ∧ o.konnectId ≠ "" ∧
      (o.controlPlaneId ≠ "" ∨ o.ReferenceFails) := by
  have readable : calm.Readable := fun _ _ => rfl
  have others : calm.Disturbs (Store.KeepsStatus webKey) :=
    calm_writable.undisturbed.of_undisturbed (Store.keepsStatus_refl webKey)
  have bare (o : Object) (h : together.store.findObject? webKey = some o) : o.status = none := by
    cases h
    rfl
  have history : History calm OperatorSettings.default
      (fun w w' => w.store.InventsNoStatus webKey w'.store) together [founding, joining]
      joining.after := (History.begin.pass .controlPlane "shop" "main").pass .service "shop" "web"
  obtain ⟨o, stored, holds⟩ : ∃ o, joining.after.store.findObject? webKey = some o ∧
      (o.isProgrammed && o.kind.controlPlaneScoped) := (Option.any_eq_true _ _).mp (by decide +kernel)
  obtain ⟨programmed, inPlane⟩ := Bool.and_eq_true_iff.mp holds
  obtain ⟨known, placed⟩ :=
    programmed_has_coordinates readable others bare history stored programmed
  exact ⟨o, stored, programmed, known, placed inPlane⟩

def lane : Object where
  metadata := { (default : Metadata) with name := some "lane", ns := some "shop", uid := some "u-4" }
  spec := .route
    ⟨some (.konnectId "cp"), some (.object "web" none), none, [], [], [], [], none, []⟩
  status := none

def laneKey : Key := ⟨ManagedKind.route, "shop", "lane"⟩

def emptied (o : Object) : Object :=
  match o.spec with
  | .route s => { o with spec := .route { s with controlPlaneRef := some (.konnectId "") } }
  | _ => o

/-- The first pass over the route, and the one after somebody emptied the id of its control plane. -/
def laying : Visit Cloud :=
  visit calm OperatorSettings.default .route "shop" "lane"
    { (opening calm []).after with store := (opening calm []).after.store.put (.managed lane) }

def straying : Visit Cloud :=
  visit calm OperatorSettings.default .route "shop" "lane"
    { laying.after with store := edit laneKey emptied laying.after.store }

/-- A run from objects without a status leaves one that is programmed as it stands, lives in a control
plane, and does not know it. -/
def Strands (k : Key) (start : World Cloud) (visits : List (Visit Cloud)) (w : World Cloud) : Prop :=
  (∀ k' o, start.store.findObject? k' = some o → o.status = none) ∧
    History calm OperatorSettings.default (fun w w' => w.store.InventsNoStatus k w'.store)
      start visits w ∧
    ∃ o, w.store.findObject? k = some o ∧ o.kind.controlPlaneScoped ∧ o.isProgrammed ∧
      o.controlPlaneId = ""

/-- A service whose control plane is being deleted stays programmed without one, and so does a route
that has come to disagree with its service. -/
theorem programmed_without_plane :
    Strands webKey together [founding, joining, parting] parting.after ∧
      Strands laneKey (fresh []) [opening calm [], laying, straying] straying.after := by
  have stranded {k : Key} {s : Store} (h : (s.findObject? k).any fun o =>
      o.kind.controlPlaneScoped && o.isProgrammed && o.controlPlaneId = "") :
      ∃ o, s.findObject? k = some o ∧ o.kind.controlPlaneScoped ∧ o.isProgrammed ∧
        o.controlPlaneId = "" := by
    obtain ⟨o, stored, holds⟩ := (Option.any_eq_true _ _).mp h
    simp only [Bool.and_eq_true, decide_eq_true_eq] at holds
    exact ⟨o, stored, holds.1.1, holds.1.2, holds.2⟩
  have joined : History calm OperatorSettings.default
      (fun w w' => w.store.InventsNoStatus webKey w'.store) together [founding, joining] parting.before :=
    ((History.begin.pass .controlPlane "shop" "main").pass .service "shop" "web").meanwhile
      (mark_keepsStatus planeKey webKey _).inventsNoStatus
  have inserted : (opening calm []).after.store.InventsNoStatus laneKey laying.before.store := by
    intro o stored
    change (Store.put _ (.managed lane)).findObject? laneKey = some o at stored
    rw [Store.findObject?_put, if_pos (by decide)] at stored
    cases stored
    exact .inl rfl
  have edited : laying.after.store.InventsNoStatus laneKey straying.before.store := by
    refine (edit_keepsStatus laneKey laneKey _ fun o => ?_).inventsNoStatus
    unfold emptied
    split
    · rename_i s spec
      exact ⟨by simp [Object.key, Object.kind, spec, Spec.kind], rfl, rfl⟩
    · exact ⟨rfl, rfl, rfl⟩
  have laid : History calm OperatorSettings.default
      (fun w w' => w.store.InventsNoStatus laneKey w'.store) (fresh []) [opening calm [], laying]
      straying.before :=
    (((History.begin.pass .service "shop" "web").meanwhile inserted).pass
      .route "shop" "lane").meanwhile edited
  refine ⟨⟨fun k o h => ?_, joined.pass .service "shop" "web", stranded (by decide +kernel)⟩,
    ⟨fun k o h => ?_, laid.pass .route "shop" "lane", stranded (by decide +kernel)⟩⟩
  · unfold together world at h
    rw [Store.findObject?_put, Store.findObject?_put] at h
    split_ifs at h <;> cases h <;> rfl
  · unfold fresh world at h
    rw [Store.findObject?_put] at h
    split_ifs at h <;> cases h
    rfl

end

end Reconcile

end GatewaySync
