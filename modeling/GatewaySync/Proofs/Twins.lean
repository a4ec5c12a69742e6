import GatewaySync.Proofs.StaleStatus
import Mathlib.Data.List.Forall2
/-!
# Twins

What two runs make of one object differs at most in its revision and in the times that each of them read off
its own clock. As far as neither clock shows a time that is stored already, or both show the same, that does
not decide whether a status has to be stored.
-/
namespace GatewaySync

open Object (slots)

/-- The same condition, but for a time that each run read off its own clock. -/
structure Condition.Twin (t t' : Instant) (c c' : Condition) : Prop where
  content : c' = { c with lastTransitionTime := c'.lastTransitionTime }
  time : c'.lastTransitionTime = c.lastTransitionTime ∨
    c.lastTransitionTime = t ∧ c'.lastTransitionTime = t'

namespace Condition

variable {t t' : Instant} {c c' : Condition} {cs cs' : List Condition}

theorem Twin.refl (t t' : Instant) (c : Condition) : c.Twin t t' c := ⟨rfl, .inl rfl⟩

theorem twin_ofVerdict (t t' : Instant) (v : Verdict) (generation : Int) :
    (ofVerdict v generation t).Twin t t' (ofVerdict v generation t') := ⟨rfl, .inr ⟨rfl, rfl⟩⟩

theorem Twin.type (h : c.Twin t t' c') : c'.type = c.type := by rw [h.content]

theorem Twin.status (h : c.Twin t t' c') : c'.status = c.status := by rw [h.content]

theorem Twin.update (h : c.Twin t t' c') (v : Verdict) (generation : Int) :
    (c.update v generation t).Twin t t' (c'.update v generation t') := by
  refine ⟨?_, ?_⟩
  · simp only [Condition.update, h.type]
  · simp only [Condition.update, h.status]
    split
    · exact h.time
    · exact .inr ⟨rfl, rfl⟩

theorem twin_record (h : cs.Forall₂ (Twin t t') cs') (v : Verdict) (generation : Int) :
    (record v generation t cs).Forall₂ (Twin t t') (record v generation t' cs') := by
  induction h with
  | nil => exact .cons (twin_ofVerdict t t' v generation) .nil
  | cons twin rest ih =>
    unfold record
    rw [twin.type]
    split
    · exact .cons (twin.update v generation) rest
    · exact .cons twin ih

theorem Twin.symm (h : c.Twin t t' c') : c'.Twin t' t c where
  content := by rw [h.content]
  time := h.time.imp Eq.symm And.symm

/-- Conditions are their own twins if the second clock shows what the first one shows of their times. -/
theorem eq_of_twin (h : cs.Forall₂ (Twin t t') cs')
    (clocks : ∀ c ∈ cs, c.lastTransitionTime = t → c.lastTransitionTime = t') : cs' = cs := by
  induction h with
  | nil => rfl
  | cons twin _ ih =>
    rw [List.forall_mem_cons] at clocks
    rw [ih clocks.2, twin.content]
    congr 2
    rcases twin.time with same | ⟨now, now'⟩
    · exact same
    · exact now'.trans (clocks.1 now).symm

end Condition

namespace Object

/-- The times that are stored on the object do not tell two clock readings apart. -/
def ClocksAgree (o : Object) (t t' : Instant) : Prop :=
  ∀ c ∈ o.conditions, c.lastTransitionTime = t ↔ c.lastTransitionTime = t'

/-- The objects differ at most in their revision and in times that each run read off its own clock. -/
structure Twin (t t' : Instant) (o o' : Object) : Prop where
  spec : o'.spec = o.spec
  metadata : o'.metadata = { o.metadata with resourceVersion := o'.metadata.resourceVersion }
  there : o'.status.isSome = o.status.isSome
  konnect : o'.konnect = o.konnect
  conditions : o.conditions.Forall₂ (Condition.Twin t t') o'.conditions

variable {t t' : Instant} {o o' x x' : Object}

theorem Twin.refl (t t' : Instant) (o : Object) : o.Twin t t' o where
  spec := rfl
  metadata := rfl
  there := rfl
  konnect := rfl
  conditions := List.forall₂_same.mpr fun c _ => .refl t t' c

theorem Twin.congr (h : o.Twin t t' o') (status : x.status = o.status) (status' : x'.status = o'.status)
    (spec : x'.spec = x.spec)
    (metadata : x'.metadata = { x.metadata with resourceVersion := x'.metadata.resourceVersion }) :
    x.Twin t t' x' where
  spec := spec
  metadata := metadata
  there := by rw [status', status, h.there]
  konnect := by rw [konnect_congr status', konnect_congr status, h.konnect]
  conditions := by
    rw [Object.conditions, Object.conditions, status', status]
    exact h.conditions

section

variable (h : o.Twin t t' o')

include h

theorem Twin.symm : o'.Twin t' t o where
  spec := h.spec.symm
  metadata := by rw [h.metadata]
  there := h.there.symm
  konnect := h.konnect.symm
  conditions := h.conditions.flip.imp fun _ _ twin => twin.symm

theorem Twin.key : o'.key = o.key := by
  simp only [Object.key, Object.kind, h.spec]
  rw [h.metadata]
  rfl

theorem Twin.record (v : Verdict) : (o.record v t).Twin t t' (o'.record v t') where
  spec := h.spec
  metadata := h.metadata
  there := rfl
  konnect := by rw [record_konnect, record_konnect, h.konnect]
  conditions := by
    have recorded (x : Object) (u : Instant) : (x.record v u).conditions =
        Condition.record v x.metadata.generationValue u x.conditions := by
      rcases x with ⟨m, s, _ | status⟩ <;> rfl
    have generation : o'.metadata.generationValue = o.metadata.generationValue := by
      rw [h.metadata]
      rfl
    rw [recorded, recorded, generation]
    exact Condition.twin_record h.conditions v _

theorem Twin.withKonnect (f : Coordinates → Coordinates) :
    (o.withKonnect f).Twin t t' (o'.withKonnect f) where
  spec := h.spec
  metadata := h.metadata
  there := rfl
  konnect := by rw [withKonnect_konnect, withKonnect_konnect, h.konnect]
  conditions := by
    rw [withKonnect_conditions, withKonnect_conditions]
    exact h.conditions

theorem Twin.edited (es : List Edit) : (o.edited t es).Twin t t' (o'.edited t' es) := by
  induction es generalizing o o' with
  | nil => exact h
  | cons e es ih =>
    refine ih ?_
    cases e with
    | note v => exact h.record v
    | coordinate f value => exact h.withKonnect _
    | binding r => exact h.congr rfl rfl (congrArg (Spec.withResolved r) h.spec) h.metadata

theorem Twin.ownedBy (desired : Option OwnerReference) :
    (o.ownedBy desired).Twin t t' (o'.ownedBy desired) := by
  refine h.congr (ownedBy_status _ _) (ownedBy_status _ _) ?_ ?_
  · rw [ownedBy_spec, ownedBy_spec, h.spec]
  · have owners : o'.metadata.ownerList = o.metadata.ownerList := by rw [h.metadata]; rfl
    unfold Object.ownedBy
    rw [owners]
    split
    · exact h.metadata
    · exact congrArg (fun m : Metadata => { m with
        ownerReferences := some (OwnerReference.reconcile o.metadata.ownerList desired) }) h.metadata

theorem Twin.stored : o.stored.Twin t t' o'.stored :=
  h.congr rfl rfl (congrArg Spec.stored h.spec) (congrArg Metadata.stored h.metadata)

theorem Twin.alike : Entity.Alike o o' :=
  Entity.alike_of_resolved _ h.spec h.metadata (congrArg Coordinates.id h.konnect)
    (fun _ => congrArg Coordinates.controlPlaneId h.konnect) fun _ => congrArg Coordinates.parentId h.konnect

/-- If one twin has the status of an object whose times tell the clocks not apart, the other one has it. -/
theorem Twin.status_eq (clocks : ∀ c ∈ o.conditions, c.lastTransitionTime = t → c.lastTransitionTime = t') :
    o'.status = o.status := by
  have conditions := Condition.eq_of_twin h.conditions clocks
  have konnect := h.konnect
  have there := h.there
  rcases o with ⟨m, s, _ | ⟨k, cs⟩⟩ <;> rcases o' with ⟨m', s', _ | ⟨k', cs'⟩⟩ <;> cases there
  · rfl
  · obtain rfl : k' = k := konnect
    obtain rfl : cs' = cs := conditions
    rfl

end

/-- Whether there is a status to be stored does not depend on the clock. -/
theorem Twin.moved_iff (h : o.Twin t t' o') {f : Object} (clocks : f.ClocksAgree t t') :
    o'.status = f.status ↔ o.status = f.status := by
  have conditions {a : Object} (same : a.status = f.status) : a.conditions = f.conditions := by
    rw [Object.conditions, same, Object.conditions]
  constructor
  · intro same
    refine (h.symm.status_eq fun c hc now => ?_).trans same
    rw [conditions same] at hc
    exact (clocks c hc).mpr now
  · intro same
    refine (h.status_eq fun c hc now => ?_).trans same
    rw [conditions same] at hc
    exact (clocks c hc).mp now

/-- What is made of metadata regardless of the revision keeps twins. -/
theorem Twin.onMetadata (h : o.Twin t t' o') {f : Metadata → Metadata}
    (regardless : ∀ m version, f { m with resourceVersion := version } =
      { f m with resourceVersion := version }) :
    ({ o with metadata := f o.metadata } : Object).Twin t t' { o' with metadata := f o'.metadata } := by
  refine h.congr rfl rfl h.spec ?_
  change f o'.metadata = { f o.metadata with resourceVersion := (f o'.metadata).resourceVersion }
  rw [h.metadata, regardless]

theorem Twin.metadataPatched (h : o.Twin t t' o') (given : x.Twin t t' x') :
    (Store.metadataPatched o x).Twin t t' (Store.metadataPatched o' x') := by
  refine h.congr rfl rfl h.spec ?_
  simp only [Store.metadataPatched]
  rw [h.metadata, given.metadata]

theorem Twin.statusPatched (h : o.Twin t t' o') (given : x.Twin t t' x') :
    (Store.statusPatched o x).Twin t t' (Store.statusPatched o' x') := by
  have there := given.there
  cases status : x.status with
  | some s =>
    obtain ⟨s', status'⟩ : ∃ s', x'.status = some s' :=
      Option.isSome_iff_exists.mp (there.trans (by rw [status]; rfl))
    exact given.congr (by simp [Store.statusPatched, status]) (by simp [Store.statusPatched, status'])
      h.spec h.metadata
  | none =>
    have status' : x'.status = none := by simpa [status] using there
    exact h.congr (by simp [Store.statusPatched, status]) (by simp [Store.statusPatched, status'])
      h.spec h.metadata

theorem Twin.written (h : o.Twin t t' o') (s s' : Store) : (s.written o).Twin t t' (s'.written o') := by
  refine Twin.stored (h.congr rfl rfl h.spec ?_)
  rw [h.metadata]

theorem stored_stored (o : Object) : o.stored.stored = o.stored := by
  have whole (t : Instant) : t.whole.whole = t.whole := by
    unfold Instant.whole
    split <;> simp
  have entry (m : ManagedFields) : m.stored.stored = m.stored := by
    cases m
    simp [ManagedFields.stored, Function.comp_def, whole]
  simp [stored, Metadata.stored, Function.comp_def, whole, entry, Spec.stored]

inductive Held (t t' : Instant) : Option Object → Option Object → Prop
  | gone : Held t t' none none
  | kept {o o' : Object} (twin : o.stored.Twin t t' o'.stored) : Held t t' (some o) (some o')

theorem Held.symm {a b : Option Object} (h : Held t t' a b) : Held t' t b a := by
  cases h with
  | gone => exact .gone
  | kept twin => exact .kept twin.symm

theorem held_self (t t' : Instant) (a : Option Object) : Held t t' a a := by
  cases a with
  | none => exact .gone
  | some o => exact .kept (.refl t t' _)

end Object

/-- The stores hold the same under the keys of a sort, but for the twins that they hold under one key. -/
structure Store.Twin (sees : Key → Prop) (k : Key) (t t' : Instant) (s s' : Store) : Prop where
  own : Object.Held t t' (s.findObject? k) (s'.findObject? k)
  others : ∀ key, sees key → key ≠ k → s'.find? key = s.find? key

/-- The same call was made and answered alike, while the stores were related. -/
inductive Exchange.Twin (R : Store → Store → Prop) : Exchange → Exchange → Prop
  | mk {s s' : Store} (call : RemoteCall) (answer : Except RemoteError call.Answer) (stores : R s s') :
      Exchange.Twin R ⟨s, call, answer⟩ ⟨s', call, answer⟩

theorem Store.Twin.symm {sees : Key → Prop} {k : Key} {t t' : Instant} {s s' : Store}
    (h : s.Twin sees k t t' s') : s'.Twin sees k t' t s where
  own := h.own.symm
  others key seen other := (h.others key seen other).symm

theorem Exchange.Twin.symm {R R' : Store → Store → Prop} (flip : ∀ s s', R s s' → R' s' s) {x x' : Exchange}
    (h : x.Twin R x') : x'.Twin R' x := by
  cases h with
  | mk call answer stores => exact .mk call answer (flip _ _ stores)

namespace Reconcile

variable {t t' : Instant} {o o' : Object}

theorem twin_guarded (h : o.Twin t t' o') : (guarded o).Twin t t' (guarded o') :=
  h.onMetadata fun m version => by
    have same : ({ m with resourceVersion := version } : Metadata).hasCleanup = m.hasCleanup := rfl
    by_cases kept : m.hasCleanup = true
    · rw [Metadata.withCleanup, Metadata.withCleanup, if_pos kept, if_pos (same.trans kept)]
    · rw [Metadata.withCleanup, Metadata.withCleanup, if_neg kept, if_neg (by rwa [same])]
      rfl

theorem twin_released (h : o.Twin t t' o') : (released o).Twin t t' (released o') :=
  h.onMetadata fun _ _ => rfl

theorem twin_atRevision (h : o.Twin t t' o') (x x' : Object) :
    (atRevision o x).Twin t t' (atRevision o' x') := by
  refine h.congr rfl rfl h.spec ?_
  simp only [atRevision]
  rw [h.metadata]

end Reconcile

end GatewaySync
