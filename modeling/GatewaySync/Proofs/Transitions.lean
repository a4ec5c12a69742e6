import GatewaySync.Proofs.Confinement
import GatewaySync.Proofs.Programmed
/-!
# When the time of a condition moves

A pass notes each condition once. So a condition that is stored with the same status before and after has
the same time, and a pass that fails again as it did before finds nothing to write. Only a disagreement about
a control plane is noted on a condition that was just noted as valid: it moves the time of a condition that
failed already, and the store is written again and again.
-/
namespace GatewaySync

open Object (slots slots_append)

variable {σ : Type}

def SyncError.isControlPlaneMismatch : SyncError → Bool
  | controlPlaneMismatch .. => true
  | _ => false

/-- Whether a store call is refused does not depend on when it is made. -/
def Environment.Steady (env : Environment σ) : Prop :=
  ∀ call x y, env.refusal call y = env.refusal call x

/-- The conditions of the object under a key that keep their status keep their time, unless it is excused.
Nothing is asked of an object with several conditions of one type. -/
def Store.KeepsTimes (k : Key) (excused : Condition → Prop) (s t : Store) : Prop :=
  ∀ o x, s.findObject? k = some o → t.findObject? k = some x → o.Distinct →
    ∀ c ∈ o.conditions, ∀ d ∈ x.conditions, d.type = c.type → d.status = c.status →
      d.lastTransitionTime = c.lastTransitionTime ∨ excused d

namespace Reconcile

open Pass World Entity Tandem

variable {env : Environment σ} {k : Key} {o o' o₁ x : Object} {w w' v : World σ}
  {q : Except SyncError Readiness} {r : Except SyncError Outcome} {es ds : List Edit}

/-- The resolution of the references is a script, after which the object gets its owner. -/
inductive Scripted (o : Object) (t : Instant) : Except SyncError Readiness → Object → Prop
  | unready {q : Except SyncError Readiness} {es : List Edit} (unready : q ≠ .ok .ready)
      (script : Within (referenceSlots o.kind) es ∨ Disagrees (referenceSlots o.kind) q es) :
      Scripted o t q (o.edited t es)
  | ready {es : List Edit} (desired : Option OwnerReference)
      (within : Within (referenceSlots o.kind) es) :
      Scripted o t (.ok .ready) ((o.edited t es).ownedBy desired)

theorem references_scripted (resolved : (Resolve.references env).onObject o w = (q, o₁, v)) :
    Scripted o w.now q o₁ ∧ v.now = w.now := by
  have beside : (alone env o.kind w.now).Beside w w := beside_alone w
  cases references_resolved (resembles_alone o w.now) beside with
  | left _ excused => exact excused.elim
  | right _ excused => exact excused.elim
  | unready unready run _ beside script =>
    cases resolved.symm.trans run
    exact ⟨.unready unready script, beside.now⟩
  | ready run _ beside within =>
    cases resolved.symm.trans run
    exact ⟨.ready _ within, beside.now⟩

/-- The status comes from the script alone. -/
theorem Scripted.status {t : Instant} (h : Scripted o t q o₁) :
    ∃ es, (Within (referenceSlots o.kind) es ∨ Disagrees (referenceSlots o.kind) q es) ∧
      o₁.status = (o.edited t es).status ∧
      o₁.metadata.generationValue = o.metadata.generationValue := by
  cases h with
  | unready _ script => exact ⟨_, script, rfl, by rw [Object.edited_metadata]⟩
  | @ready es desired within =>
    refine ⟨es, .inl within, Object.ownedBy_status _ _, ?_⟩
    rw [Object.ownedBy_metadata, Object.edited_metadata]
    rfl

/-- What is noted once the references came to a result, and what the sync comes to if that is stored. -/
inductive Closing (env : Environment σ) (q : Except SyncError Readiness) :
    Except SyncError Outcome → List Edit → Prop
  | unready (unready : q ≠ .ok .ready) : Closing env q (q.map fun _ => .waiting) (notice q)
  | spoken {o : Object} {r : Except SyncError Unit} {ds : List Edit} (ready : q = .ok .ready)
      (concludes : Concludes env o r ds) : Closing env q (r.map fun _ => .synced) ds

@[simp] theorem notice_mismatch (kind key refKind own parent : String) :
    notice (.error (.controlPlaneMismatch kind key refKind own parent)) = [] := rfl

theorem notice_slots (q : Except SyncError Readiness) :
    slots (notice q) = [] ∨ slots (notice q) = [.condition ConditionType.programmed] := by
  rcases q with e | _
  · cases e <;> first | exact .inr rfl | exact .inl rfl
  · exact .inl rfl

theorem notice_apart (q : Except SyncError Readiness) {kind : ManagedKind} {s : Slot}
    (there : s ∈ referenceSlots kind) : s ∉ slots (notice q) := by
  rcases notice_slots q with none | noted
  · simp [none]
  · rw [noted, List.mem_singleton]
    rintro rfl
    exact (not_mem_referenceSlots kind).1 there

theorem notice_once (q : Except SyncError Readiness) (s : Slot) : (slots (notice q)).count s ≤ 1 := by
  rcases notice_slots q with none | noted
  · simp [none]
  · rw [noted]
    exact List.nodup_iff_count_le_one.mp (List.nodup_singleton _) s

theorem Closing.apart (h : Closing env q r ds) {kind : ManagedKind} {s : Slot}
    (there : s ∈ referenceSlots kind) : s ∉ slots ds := by
  cases h with
  | unready => exact notice_apart q there
  | spoken _ concludes => exact concludes.apart there

theorem Closing.once (h : Closing env q r ds) {s : Slot} (other : s ≠ .coordinate .id) :
    (slots ds).count s ≤ 1 := by
  cases h with
  | unready => exact notice_once q s
  | spoken _ concludes => exact concludes.once other

/-- A slot that is edited once after the references, if they do not edit it, is edited once in all. -/
theorem once_after {kind : ManagedKind} (within : Within (referenceSlots kind) es) {s : Slot}
    (apart : s ∈ referenceSlots kind → s ∉ slots ds) (once : (slots ds).count s ≤ 1) :
    (slots (es ++ ds)).count s ≤ 1 := by
  rw [slots_append, List.count_append]
  by_cases there : s ∈ slots es
  · rw [List.count_eq_zero.mpr (apart (within.subset there)), Nat.add_zero]
    exact within.once (referenceSlots_nodup _) s
  · rw [List.count_eq_zero.mpr there, Nat.zero_add]
    exact once

/-- The stored status is the one from before, or what the whole script makes of it. -/
theorem Ends.stores (others : env.Disturbs (Store.KeepsStatus k)) (h : Ends env o q o₁ v r w')
    (stored : v.store.findObject? k = some o) (key : o₁.key = k)
    (lasting : o.status.isSome → o₁.status.isSome) (after : w'.store.findObject? k = some x) :
    x.status = o.status ∨ ∃ ds, Closing env q r ds ∧ x.status = (o₁.edited v.now ds).status := by
  have same {t : Store} (kept : v.store.KeepsStatus k t) {y : Object} (found : t.findObject? k = some y) :
      y.status = o.status := by
    obtain ⟨y₀, found₀, -, status⟩ := kept y found
    rw [stored] at found₀
    cases found₀
    exact status
  have settled {u : World σ} {m : Object} (prior : v.store.KeepsStatus k u.store) (mine : m.key = k)
      (there : o.status.isSome → m.status.isSome)
      (persisted : (persistStatus env o.status).onObject m u = (.ok (), m, w')) :
      x.status = m.status := by
    subst mine
    exact (persistStatus_settles persisted there (fun _ found => same prior found) after).2.2 rfl
  cases h with
  | @unready s _ unready kept =>
    cases s with
    | error e => exact .inl (same ((persistStatus_failed kept).1 ▸ Store.keepsStatus_refl k _) after)
    | ok _ =>
      refine .inr ⟨_, .unready unready, settled (Store.keepsStatus_refl k _) ?_ (fun hs => ?_) kept⟩
      · rw [Object.edited_key, key]
      · exact Object.edited_isSome (lasting hs) v.now _
  | unprepared _ prepared => exact .inl (same (persistMetadata_keepsStatus prepared k) after)
  | gone _ prepared => exact .inl (same (persistMetadata_keepsStatus prepared k) after)
  | @spoken o₂ v₂ v₃ _ talk r s ds ready prepared _ talks concludes _ kept =>
    have prior := (persistMetadata_keepsStatus prepared k).trans
      (talks.store (Store.keepsStatus_refl k) Store.KeepsStatus.trans others)
    cases s with
    | error e =>
      rw [(persistStatus_failed kept).1] at after
      exact .inl (same prior after)
    | ok _ =>
      refine .inr ⟨ds, .spoken ready concludes, (settled prior ?_ (fun _ => concludes.status v.now) kept).trans ?_⟩
      · rw [Object.edited_key, persistMetadata_key prepared, key]
      · obtain ⟨-, status, finalizers, version, metadata⟩ := persistMetadata_keeps prepared
        refine Object.edited_status_congr status ?_ v.now ds
        rw [metadata]
        rfl

/-- The condition tells, as of a time, of a disagreement about a control plane that a pass failed with. -/
def DisagreedAt {α : Type} (r : Except SyncError α) (t : Instant) (d : Condition) : Prop :=
  ∃ e, r = .error e ∧ e.isControlPlaneMismatch ∧ d.status = .false ∧
    d.reason = Reason.controlPlaneMismatch ∧ d.lastTransitionTime = t

/-- Over the script of a whole sync, a condition that keeps its status keeps its time, or a disagreement
about a control plane was noted on it. -/
theorem Closing.keeps_time (h : Closing env q r ds) {t : Instant} {c d : Condition}
    (script : Within (referenceSlots o.kind) es ∨ Disagrees (referenceSlots o.kind) q es)
    (before : o.condition? c.type = some c)
    (after : (o.edited t (es ++ ds)).condition? c.type = some d) (same : d.status = c.status) :
    d.lastTransitionTime = c.lastTransitionTime ∨ DisagreedAt r t d := by
  rcases script with within | disagrees
  · exact .inl (Object.edited_time (once_after within h.apart (h.once (by simp))) before after same)
  · cases disagrees with
    | noted condition message within =>
      cases h with
      | spoken ready => cases ready
      | unready =>
        rw [notice_mismatch, List.append_nil] at after
        refine (Object.edited_time_of_noted (within.once (referenceSlots_nodup _) _) before after same).imp_right
          fun ⟨agrees, time⟩ => ⟨_, rfl, rfl, agrees.status, agrees.reason, time⟩

variable {settings : OperatorSettings} {kind : ManagedKind} {ns name : String}

/-- Whatever a visit comes to, the conditions of its object that keep their status keep their time, unless
the visit fails with a disagreement that is noted on them. -/
theorem visit_keepsTimes (others : env.Disturbs (Store.KeepsStatus ⟨kind, ns, name⟩)) (w : World σ) :
    w.store.KeepsTimes ⟨kind, ns, name⟩
      (DisagreedAt (visit env settings kind ns name w).result w.now)
      (visit env settings kind ns name w).after.store := by
  intro o x stored after distinct c hc d hd type status
  have before := distinct.condition? hc
  have unmoved (same : x.status = o.status) : d.lastTransitionTime = c.lastTransitionTime := by
    have found := (distinct.congr same.symm).condition? hd
    rw [type, Object.condition?_congr same, before] at found
    cases found
    rfl
  rcases (visit_course env settings kind ns name w).sync_or_keepsStatus others with
    ⟨o', w₁, -, -, -, -, reads, need, -⟩ | kept
  · cases reads.stored.1.symm.trans stored
    rcases resolved : (Resolve.references env).onObject o w₁ with ⟨q, o₁, v⟩
    obtain ⟨r, w', b, ends, result, left⟩ := visit_ends settings reads need resolved
    have leaves := Resolve.leaves_of_references resolved
    obtain ⟨scripted, now⟩ := references_scripted resolved
    obtain ⟨es, script, scripted, generation⟩ := scripted.status
    have there : v.store.findObject? ⟨kind, ns, name⟩ = some o := by
      rw [leaves.store.trans reads.stored.2]
      exact stored
    rw [left] at after
    rcases ends.stores others there (leaves.key.trans reads.key) leaves.status after with
      same | ⟨ds, closing, same⟩
    · exact .inl (unmoved same)
    · have whole : x.status = (o.edited w₁.now (es ++ ds)).status := by
        rw [same, now, Object.edited_append]
        refine Object.edited_status_congr scripted ?_ w₁.now ds
        rw [generation, Object.edited_metadata]
      have found := (distinct.edited w₁.now (es ++ ds)).congr whole.symm |>.condition? hd
      rw [type, Object.condition?_congr whole] at found
      have kept := closing.keeps_time script before found status
      rw [reads.now] at kept
      refine kept.imp_right ?_
      rintro ⟨e, rfl, rest⟩
      exact ⟨e, result, rest⟩
  · obtain ⟨o₀, stored₀, -, same⟩ := kept x after
    cases stored₀.symm.trans stored
    exact .inl (unmoved same)

inductive Fails (env : Environment σ) (o : Object) (q : Except SyncError Readiness) (o₁ : Object)
    (v : World σ) (e : SyncError) (w' : World σ) : Prop
  | noted (failed : q = .error e)
      (kept : (persistStatus env o.status).onObject (o₁.edited v.now (notice q)) v =
        (.ok (), o₁.edited v.now (notice q), w'))
  | unnoted (unready : q ≠ .ok .ready)
      (kept : (persistStatus env o.status).onObject (o₁.edited v.now (notice q)) v =
        (.error e, o₁.edited v.now (notice q), w'))
  | unprepared {o₂ : Object} (ready : q = .ok .ready)
      (prepared : (persistMetadata env o.metadata).onObject o₁ v = (.error e, o₂, w'))
  | written {o₂ : Object} {v₂ v₃ : World σ} {talk : List Exchange} {ds : List Edit}
      (ready : q = .ok .ready)
      (prepared : (persistMetadata env o.metadata).onObject o₁ v = (.ok true, o₂, v₂))
      (talks : Talks env v₂ talk v₃) (concludes : Concludes env o₂ (.error e) ds) (own : OwnFailure e)
      (kept : (persistStatus env o.status).onObject (o₂.edited v.now ds) v₃ =
        (.ok (), o₂.edited v.now ds, w'))
  | unwritten {o₂ : Object} {v₂ v₃ : World σ} {talk : List Exchange} {r : Except SyncError Unit}
      {ds : List Edit} (ready : q = .ok .ready)
      (prepared : (persistMetadata env o.metadata).onObject o₁ v = (.ok true, o₂, v₂))
      (talks : Talks env v₂ talk v₃) (concludes : Concludes env o₂ r ds)
      (kept : (persistStatus env o.status).onObject (o₂.edited v.now ds) v₃ =
        (.error e, o₂.edited v.now ds, w'))

theorem Ends.fails (h : Ends env o q o₁ v r w') {e : SyncError} (failed : r = .error e) :
    Fails env o q o₁ v e w' := by
  cases h with
  | @unready s _ unready kept =>
    rcases s with e' | _
    · cases failed
      exact .unnoted unready kept
    · cases q with
      | error => cases failed; exact .noted rfl kept
      | ok => cases failed
  | unprepared ready prepared => cases failed; exact .unprepared ready prepared
  | gone => cases failed
  | @spoken _ _ _ _ _ r s _ ready prepared _ talks concludes own kept =>
    rcases s with e' | _
    · cases failed
      exact .unwritten ready prepared talks concludes kept
    · cases r with
      | error => cases failed; exact .written ready prepared talks concludes (own _ rfl) kept
      | ok => cases failed

theorem refusal_eq_some {call : StoreCall} {a : ApiError} {y : σ} :
    env.refusal call y = some a ↔ (env.fault call y).1 = some (.refuse a) := by
  unfold Environment.refusal
  rcases (env.fault call y).1 with _ | _ | _ <;> simp

/-- A patch of the stored revision only fails if it is refused. -/
theorem refusal_of_patchStatus {e : SyncError} {f : Object} (failed : (w.patchStatus env o).1 = .error e)
    (target : w.store.patchTarget o = .ok f) :
    ∃ a, env.refusal (.patchStatus o.key) w.outside = some a := by
  rw [patchStatus_of_target env target] at failed
  cases refusal : env.refusal (.patchStatus o.key) w.outside with
  | some a => exact ⟨a, rfl⟩
  | none =>
    rw [refusal] at failed
    cases failed

theorem refusal_of_patchMetadata {e : SyncError} {f : Object}
    (failed : (w.patchMetadata env o).1 = .error e) (target : w.store.patchTarget o = .ok f) :
    ∃ a, env.refusal (.patchMetadata o.key) w.outside = some a := by
  rw [patchMetadata_of_target env target] at failed
  rcases fault : (env.fault (.patchMetadata o.key) w.outside).1 with _ | a | _ <;> rw [fault] at failed
  · dsimp only at failed
    split_ifs at failed
  · exact ⟨a, refusal_eq_some.mpr fault⟩
  · cases failed

theorem patchStatus_refused {a : ApiError} (refused : env.refusal (.patchStatus o.key) w.outside = some a) :
    (w.patchStatus env o).1 = .error (.api a) := by
  have attempted : (w.attempt env (.patchStatus o.key)).1 = some (.refuse a) := refusal_eq_some.mp refused
  unfold World.patchStatus
  rcases h : w.attempt env (.patchStatus o.key) with ⟨_ | _ | _, v⟩ <;> rw [h] at attempted <;>
    cases attempted
  rfl

theorem patchMetadata_refused {a : ApiError}
    (refused : env.refusal (.patchMetadata o.key) w.outside = some a) :
    (w.patchMetadata env o).1 = .error (.api a) := by
  have attempted : (w.attempt env (.patchMetadata o.key)).1 = some (.refuse a) := refusal_eq_some.mp refused
  unfold World.patchMetadata
  rcases h : w.attempt env (.patchMetadata o.key) with ⟨_ | _ | _, v⟩ <;> rw [h] at attempted <;>
    cases attempted
  rfl

theorem persistStatus_refused (steady : env.Steady) {fetched fetched' : Option Status} {e : SyncError}
    {f m m' : Object} {u u' : World σ}
    (h : (persistStatus env fetched).onObject o w = (.error e, m, w'))
    (target : w.store.patchTarget o = .ok f)
    (h' : (persistStatus env fetched').onObject o' u = (.ok (), m', u')) (key : o'.key = o.key) :
    u'.store = u.store := by
  have failed : (w.patchStatus env o).1 = .error e := by
    rw [onObject_persistStatus] at h
    split_ifs at h
    · exact congrArg (fun r => r.1) h
    · cases h
  obtain ⟨a, refused⟩ := refusal_of_patchStatus failed target
  rw [← key, ← steady _ _ u.outside] at refused
  rw [onObject_persistStatus] at h'
  split_ifs at h'
  · have taken : (u.patchStatus env o').1 = .ok () := congrArg (fun r => r.1) h'
    cases (patchStatus_refused refused).symm.trans taken
  · cases h'
    rfl

theorem persistMetadata_refused (steady : env.Steady) {fetched : Metadata} {e : SyncError} {b : Bool}
    {f m m' : Object} {u u' : World σ}
    (h : (persistMetadata env fetched).onObject o w = (.error e, m, w'))
    (target : w.store.patchTarget (guarded o) = .ok f) (key : o'.key = o.key)
    (metadata : o'.metadata = o.metadata) :
    (persistMetadata env fetched).onObject o' u ≠ (.ok b, m', u') := by
  intro h'
  rw [onObject_persistMetadata] at h h'
  rw [metadata] at h'
  split at h
  · rename_i needed
    have failed : (w.patchMetadata env (guarded o)).1 = .error e := by
      rcases patched : w.patchMetadata env (guarded o) with ⟨_ | _ | _, v⟩ <;> rw [patched] at h <;>
        cases h
      rfl
    obtain ⟨a, refused⟩ := refusal_of_patchMetadata failed target
    rw [guarded_key, ← key, ← guarded_key o', ← steady _ _ u.outside] at refused
    have failed := patchMetadata_refused refused
    rw [if_pos needed] at h'
    rcases patched : u.patchMetadata env (guarded o') with ⟨_ | _ | _, v⟩ <;>
      rw [patched] at h' failed <;> cases failed
    cases h'
  · cases h

section

variable {q' : Except SyncError Readiness} {x₁ : Object} {u u' v' : World σ} {e : SyncError}

/-- A sync whose references could not be read fails with an error of the cluster. -/
theorem Fails.api_of_unread (h : Fails env o q o₁ v e w') {a : ApiError} (unread : q = .error (.api a)) :
    ∃ b, e = .api b := by
  cases h with
  | noted failed =>
    cases failed.symm.trans unread
    exact ⟨a, rfl⟩
  | unnoted _ kept => exact (persistStatus_failed kept).2
  | unprepared ready => cases ready.symm.trans unread
  | written ready => cases ready.symm.trans unread
  | unwritten ready => cases ready.symm.trans unread

/-- A sync side by side with a later one that fails with the same error. Unless that is an error of the
cluster, a read that is refused makes either of them fail in another way. -/
def retried (env : Environment σ) (kind : ManagedKind) (q : Except SyncError Readiness) (e : SyncError)
    (t u : Instant) (steady : ∀ a, e = .api a → env.Steady)
    (own : ∀ a, q = .error (.api a) → ∃ b, e = .api b) : Tandem env env kind where
  now := t
  now' := u
  near _ _ := True
  fails e' := q ≠ .error e'
  fails' e' := (∃ a, e' = .api a) ∧ OwnFailure e
  drift _ _ _ _ := trivial
  reads key w w' _ := by
    by_cases api : ∃ b, e = .api b
    · obtain ⟨b, rfl⟩ := api
      exact .inr (.inr (steady b rfl _ _ _))
    · cases refused : env.refusal (.get key) w.outside with
      | some a => exact .inl ⟨a, rfl, fun same => api (own a same)⟩
      | none =>
        cases refused' : env.refusal (.get key) w'.outside with
        | some a => exact .inr (.inl ⟨a, rfl, ⟨a, rfl⟩, fun b same => api ⟨b, same⟩⟩)
        | none => exact .inr (.inr rfl)

inductive Again (o x : Object) (t u : Instant) (q : Except SyncError Readiness) (o₁ x₁ : Object) : Prop
  | unready {es : List Edit} (unready : q ≠ .ok .ready) (run : o₁ = o.edited t es)
      (run' : x₁ = x.edited u es)
      (script : Within (referenceSlots o.kind) es ∨ Disagrees (referenceSlots o.kind) q es)
  | ready {es : List Edit} {desired : Option OwnerReference} (ready : q = .ok .ready)
      (run : o₁ = (o.edited t es).ownedBy desired) (run' : x₁ = (x.edited u es).ownedBy desired)
      (within : Within (referenceSlots o.kind) es) (family : ∀ d ∈ desired, d.inFamily = true)

/-- Syncs that fail alike resolved their references alike. -/
theorem resolved_again (steady : ∀ a, e = .api a → env.Steady)
    (resolved : (Resolve.references env).onObject o w = (q, o₁, v)) (first : Fails env o q o₁ v e w')
    (resolved' : (Resolve.references env).onObject x u = (q', x₁, v'))
    (second : Fails env x q' x₁ v' e u') (kin : o.Kin x)
    (known : (x.konnectId = "" ↔ o.konnectId = "") ∨ q = .ok .ready)
    (elsewhere : ∀ key, o.key ≠ key → u.store.find? key = w.store.find? key) :
    q' = q ∧ Again o x w.now u.now q o₁ x₁ := by
  let T := retried env o.kind q e w.now u.now steady fun a => first.api_of_unread
  have resembles : T.Resembles o x := kin.resembles <| known.imp_right fun ready op kind key => by
    rintro failed
    cases ready.symm.trans failed
  have beside : T.Beside w u :=
    ⟨fun key other => elsewhere key fun same => other (congrArg Key.kind same.symm), trivial, rfl, rfl⟩
  cases references_resolved resembles beside with
  | left run excused => exact absurd (congrArg Prod.fst (resolved.symm.trans run)) excused
  | right run excused =>
    obtain ⟨⟨a, rfl⟩, own⟩ := excused
    obtain ⟨b, api⟩ := second.api_of_unread (congrArg Prod.fst (resolved'.symm.trans run))
    exact absurd api (own b)
  | unready unready run run' _ script =>
    obtain ⟨rfl, same⟩ := Prod.mk.inj (resolved.symm.trans run)
    obtain ⟨rfl, same'⟩ := Prod.mk.inj (resolved'.symm.trans run')
    exact ⟨rfl, .unready unready (congrArg Prod.fst same) (congrArg Prod.fst same') script⟩
  | ready run run' _ within _ _ family =>
    obtain ⟨rfl, same⟩ := Prod.mk.inj (resolved.symm.trans run)
    obtain ⟨rfl, same'⟩ := Prod.mk.inj (resolved'.symm.trans run')
    exact ⟨rfl, .ready rfl (congrArg Prod.fst same) (congrArg Prod.fst same') within family⟩

/-- Of references that are not ready nothing but the status is stored. -/
theorem unready_stored {s : Except SyncError Unit} (unready : q ≠ .ok .ready)
    (stored : w.store.findObject? o.key = some o)
    (resolved : (Resolve.references env).onObject o w = (q, o₁, v))
    (kept : (persistStatus env o.status).onObject (o₁.edited v.now (notice q)) v =
      (s, o₁.edited v.now (notice q), w')) :
    ∃ y, w'.store.findObject? o.key = some y ∧ o.Mirrors y ∧
      y.status = if s.isOk then (o₁.edited v.now (notice q)).status else o.status := by
  have leaves := Resolve.leaves_of_references resolved
  have key : (o₁.edited v.now (notice q)).key = o.key := (o₁.edited_key _ _).trans leaves.key
  have there : v.store.findObject? o.key = some o :=
    (congrArg (Store.findObject? · o.key) leaves.store).trans stored
  obtain ⟨mirrors, mirrors'⟩ : o₁.Mirrors o ∧ o.Mirrors o₁ := by
    obtain ⟨scripted, -⟩ := references_scripted resolved
    cases scripted with
    | @unready _ es =>
      exact ⟨Object.edited_mirrors.mpr (Object.mirrors_of_eq _ rfl rfl),
        Object.mirrors_of_eq _ (o.edited_spec_stored _ es) (o.edited_metadata _ es)⟩
    | ready => exact absurd rfl unready
  rw [← key] at there
  obtain ⟨y, found, mirrored, status⟩ := persistStatus_mirrors kept there
    (Object.edited_mirrors.mpr mirrors) rfl fun hs => Object.edited_isSome (leaves.status hs) v.now _
  rw [key] at found
  exact ⟨y, found, mirrors'.trans (Object.edited_mirrors.mp mirrored), status⟩

/-- A sync that fails keeps the object, and before its references are ready also whether it has an id. -/
theorem Fails.kin (undisturbed : env.Disturbs fun s t => t = s) (h : Fails env o q o₁ v e w')
    (resolved : (Resolve.references env).onObject o w = (q, o₁, v))
    (stored : w.store.findObject? o.key = some o) (after : w'.store.findObject? o.key = some x) :
    o.Kin x ∧ ((x.konnectId = "" ↔ o.konnectId = "") ∨ q = .ok .ready) := by
  have leaves := Resolve.leaves_of_references resolved
  have there : v.store.findObject? o.key = some o :=
    (congrArg (Store.findObject? · o.key) leaves.store).trans stored
  have unchanged (store : w'.store = v.store) :
      o.Kin x ∧ ((x.konnectId = "" ↔ o.konnectId = "") ∨ q = .ok .ready) := by
    rw [store] at after
    cases after.symm.trans there
    exact ⟨Object.kin_of_eq rfl rfl, .inl .rfl⟩
  have readied {o₂ : Object} {v₂ : World σ} {status : Option Status}
      (h : ∃ y, Readied env o o₁ o₂ y w v v₂ w'.store ∧ y.status = status) (ready : q = .ok .ready) :
      o.Kin x ∧ ((x.konnectId = "" ↔ o.konnectId = "") ∨ q = .ok .ready) := by
    obtain ⟨y, readied, -⟩ := h
    cases after.symm.trans readied.stored
    exact ⟨readied.kin, .inr ready⟩
  cases h with
  | noted failed kept =>
    subst failed
    obtain ⟨y, found, mirrors, status⟩ := unready_stored (by simp) stored resolved kept
    cases after.symm.trans found
    have id : (o₁.edited v.now (notice (.error e))).konnectId = o₁.konnectId := by
      refine Object.edited_get (f := .id) ?_ o₁ v.now
      rcases notice_slots (.error e) with none | noted
      · simp [none]
      · simp [noted]
    have same : x.konnectId = o.konnectId :=
      (Object.konnectId_congr status).trans (id.trans leaves.konnectId)
    exact ⟨mirrors.toKin, .inl (by rw [same])⟩
  | unnoted _ kept => exact unchanged (persistStatus_failed kept).1
  | unprepared _ prepared => exact unchanged (persistMetadata_failed prepared).1
  | written ready prepared talks concludes _ kept =>
    exact readied (readied_of_spoken undisturbed stored (ready ▸ resolved) prepared talks concludes kept) ready
  | unwritten ready prepared talks concludes kept =>
    exact readied (readied_of_spoken undisturbed stored (ready ▸ resolved) prepared talks concludes kept) ready

/-- A write that fails as one before it did leaves the id alone, and the verdict on it is the same. -/
theorem writes_again {o₂ : Object} {ids ids' : List Edit} {t : Instant} (h : Writes o₂ (.error e) ids)
    (h' : Writes x₁ (.error e) ids') (known : x₁.konnectId = (o₂.edited t ids).konnectId) :
    ids' = [] ∧ unprogrammed x₁ e = unprogrammed o₂ e := by
  have reason (same : e.isFailedCreation = true ∨ x₁.konnectId = o₂.konnectId) :
      unprogrammed x₁ e = unprogrammed o₂ e := by
    rw [unprogrammed, unprogrammed, failureReason_eq, failureReason_eq]
    rcases same with creation | same
    · simp [creation]
    · rw [same]
  cases h with
  | kept kept _ =>
    refine ⟨?_, reason (.inr known)⟩
    cases h' with
    | kept => rfl
    | lost there creation =>
      rcases kept with unknown | update
      · exact absurd (known.trans unknown) there
      · rw [creation] at update
        cases update
  | lost _ creation =>
    refine ⟨?_, reason (.inl creation)⟩
    cases h' with
    | kept => rfl
    | lost there =>
      refine absurd (known.trans ?_) there
      exact (learns_withId o₂ "").id

/-- A write that fails again makes nothing new of the status. -/
theorem Concludes.again {o₂ : Object} {ds' : List Edit} {t : Instant} (h : Concludes env o₂ (.error e) ds)
    (h' : Concludes env x₁ (.error e) ds') (status : x₁.status = (o₂.edited t ds).status)
    (generation : x₁.metadata.generationValue = o₂.metadata.generationValue) (u : Instant) :
    (x₁.edited u ds').status = x₁.status := by
  cases h with
  | @failed _ ids writes =>
    cases h' with
    | @failed _ ids' writes' =>
      rw [edited_note] at status
      have known : x₁.konnectId = (o₂.edited t ids).konnectId :=
        (Object.konnectId_congr status).trans (congrArg Coordinates.id (Object.record_konnect _ _ _))
      obtain ⟨rfl, same⟩ := writes_again writes writes' known
      have told : Edit.Settled x₁ (.note (unprogrammed o₂ e)) := by
        refine (Edit.settled_apply t (o₂.edited t ids) (.note (unprogrammed o₂ e))).congr status.symm ?_
        rw [Edit.apply_metadata, Object.edited_metadata, generation]
      rw [same]
      exact Object.edited_of_settled (by simpa using told) u

/-- A sync that failed is made again on what it left, and fails again with the same error. -/
structure Retry (env : Environment σ) (o x : Object) (q q' : Except SyncError Readiness) (o₁ x₁ : Object)
    (w v w' u v' u' : World σ) (e : SyncError) : Prop where
  undisturbed : env.Disturbs fun s t => t = s
  steady : ∀ a, e = .api a → env.Steady
  other : e.isControlPlaneMismatch = false
  stored : w.store.findObject? o.key = some o
  resolved : (Resolve.references env).onObject o w = (q, o₁, v)
  first : Fails env o q o₁ v e w'
  elsewhere : ∀ key, o.key ≠ key → w'.store.find? key = w.store.find? key
  store : u.store = w'.store
  left : w'.store.findObject? o.key = some x
  resolved' : (Resolve.references env).onObject x u = (q', x₁, v')
  second : Fails env x q' x₁ v' e u'

namespace Retry

variable (h : Retry env o x q q' o₁ x₁ w v w' u v' u' e)

include h

theorem kin : o.Kin x ∧ ((x.konnectId = "" ↔ o.konnectId = "") ∨ q = .ok .ready) :=
  h.first.kin h.undisturbed h.resolved h.stored h.left

theorem again : q' = q ∧ Again o x w.now u.now q o₁ x₁ :=
  resolved_again h.steady h.resolved h.first h.resolved' h.second h.kin.1 h.kin.2 fun key apart =>
    (congrArg (Store.find? · key) h.store).trans (h.elsewhere key apart)

theorem quiet : v'.store = u.store := (Resolve.leaves_of_references h.resolved').store

theorem key : x₁.key = o₁.key :=
  (Resolve.leaves_of_references h.resolved').key.trans
    (h.kin.1.key.trans (Resolve.leaves_of_references h.resolved).key.symm)

theorem target : v.store.patchTarget o₁ = .ok o := resolved_target h.stored h.resolved

theorem readied {o₂ : Object} {v₂ v₃ : World σ} {talk : List Exchange} {r s : Except SyncError Unit}
    (ready : q = .ok .ready) (prepared : (persistMetadata env o.metadata).onObject o₁ v = (.ok true, o₂, v₂))
    (talks : Talks env v₂ talk v₃) (concludes : Concludes env o₂ r ds)
    (kept : (persistStatus env o.status).onObject (o₂.edited v.now ds) v₃ = (s, o₂.edited v.now ds, w')) :
    Readied env o o₁ o₂ x w v v₂ w'.store ∧
      (x.status = if s.isOk then (o₂.edited v.now ds).status else o.status) ∧
      ∃ es desired, o₁ = (o.edited w.now es).ownedBy desired ∧ x₁ = x.edited u.now es ∧
        Within (referenceSlots o.kind) es := by
  subst ready
  obtain ⟨y, readied, status⟩ :=
    readied_of_spoken h.undisturbed h.stored h.resolved prepared talks concludes kept
  cases h.left.symm.trans readied.stored
  refine ⟨readied, status, ?_⟩
  cases h.again.2 with
  | unready unready => exact absurd rfl unready
  | ready _ run run' within family => exact ⟨_, _, run, run'.trans (readied.owned run family), within⟩

theorem noted (failed : q = .error e)
    (kept' : (persistStatus env x.status).onObject (x₁.edited v'.now (notice q)) v' =
      (.ok (), x₁.edited v'.now (notice q), u')) : u'.store = u.store := by
  have leaves := Resolve.leaves_of_references h.resolved
  have mine : (o₁.edited v.now (notice q)).key = o.key := (o₁.edited_key _ _).trans leaves.key
  cases h.first with
  | unprepared ready => cases ready.symm.trans failed
  | written ready => cases ready.symm.trans failed
  | unwritten ready => cases ready.symm.trans failed
  | unnoted _ kept =>
    obtain ⟨a, rfl⟩ := (persistStatus_failed kept).2
    have target : v.store.patchTarget (o₁.edited v.now (notice q)) = .ok o :=
      (v.store.patchTarget_edited o₁ _ _).trans h.target
    refine (persistStatus_refused (h.steady a rfl) kept target kept' ?_).trans h.quiet
    rw [Object.edited_key, Object.edited_key, h.key]
  | noted _ kept =>
    cases h.again.2 with
    | ready ready => cases ready.symm.trans failed
    | @unready es _ run run' script =>
      have within : Within (referenceSlots o.kind) es := by
        refine script.resolve_right fun disagrees => ?_
        have other := h.other
        cases disagrees
        cases failed
        cases other
      have before (y : Object) (found : v.store.findObject? (o₁.edited v.now (notice q)).key = some y) :
          y.status = o.status := by
        rw [mine, leaves.store] at found
        cases h.stored.symm.trans found
        rfl
      have status : x.status = (o.edited w.now (es ++ notice q)).status := by
        rw [Object.edited_append, ← run, ← (references_scripted h.resolved).2]
        exact (persistStatus_settles kept (fun hs => Object.edited_isSome (leaves.status hs) v.now _)
          before (mine ▸ h.left)).2.2 rfl
      have same := Object.edited_again
        (fun s => once_after within (notice_apart q) (notice_once q s)) status h.kin.1.generation u.now
      rw [Object.edited_append, ← run', ← (references_scripted h.resolved').2] at same
      rw [persistStatus_of_eq same] at kept'
      cases kept'
      exact h.quiet

theorem written {x₂ : Object} {v₂' v₃' : World σ} {talk : List Exchange} {ds' : List Edit}
    (ready : q = .ok .ready)
    (prepared' : (persistMetadata env x.metadata).onObject x₁ v' = (.ok true, x₂, v₂'))
    (talks' : Talks env v₂' talk v₃') (concludes' : Concludes env x₂ (.error e) ds') (own : OwnFailure e)
    (kept' : (persistStatus env x.status).onObject (x₂.edited v'.now ds') v₃' =
      (.ok (), x₂.edited v'.now ds', u')) : u'.store = u.store := by
  cases h.first with
  | noted failed => cases ready.symm.trans failed
  | unnoted unready => exact absurd ready unready
  | unprepared _ prepared =>
    obtain ⟨a, api⟩ := (persistMetadata_failed prepared).2
    exact absurd api (own a)
  | unwritten _ _ _ _ kept =>
    obtain ⟨a, api⟩ := (persistStatus_failed kept).2
    exact absurd api (own a)
  | @written o₂ _ _ _ _ _ prepared talks concludes _ kept =>
    obtain ⟨readied, status, es, desired, run, rfl, within⟩ :=
      h.readied ready prepared talks concludes kept
    have settled := Written.settled ⟨readied, concludes, status⟩ run within
    have same : (x.edited u.now es).status = x.status := Object.edited_of_settled settled u.now
    have generation : (x.edited u.now es).metadata.generationValue = o₂.metadata.generationValue := by
      rw [Object.edited_metadata, readied.mirrors.generation]
    rw [readied.prepared_again env (Object.edited_metadata _ _ _)] at prepared'
    cases prepared'
    have written := concludes.again concludes' (same.trans status) generation v'.now
    rw [persistStatus_of_eq (written.trans same)] at kept'
    cases kept'
    exact (talks'.store_eq h.undisturbed).trans h.quiet

theorem unwritten {a : ApiError} (api : e = .api a) {x₂ : Object} {v₂' : World σ} (ready : q = .ok .ready)
    (prepared' : (persistMetadata env x.metadata).onObject x₁ v' = (.ok true, x₂, v₂')) :
    v₂'.store = u.store := by
  subst api
  cases h.first with
  | noted failed => cases ready.symm.trans failed
  | unnoted unready => exact absurd ready unready
  | written _ _ _ _ own => exact absurd rfl (own a)
  | unprepared _ prepared =>
    have unchanged : w'.store = w.store :=
      (persistMetadata_failed prepared).1.trans (Resolve.leaves_of_references h.resolved).store
    cases (unchanged ▸ h.left).symm.trans h.stored
    have target : v.store.patchTarget (guarded o₁) = .ok o := by
      rw [patchTarget_guarded]
      exact h.target
    refine absurd prepared' (persistMetadata_refused (h.steady a rfl) prepared target h.key ?_)
    cases h.again.2 with
    | unready unready => exact absurd ready unready
    | ready _ run run' =>
      rw [run, run']
      exact Object.ownedBy_metadata_congr _ rfl _ _ _ _
  | unwritten _ prepared talks concludes kept =>
    obtain ⟨readied, -, es, desired, run, rfl, within⟩ := h.readied ready prepared talks concludes kept
    rw [readied.prepared_again env (Object.edited_metadata _ _ _)] at prepared'
    cases prepared'
    exact h.quiet

theorem rests : u'.store = u.store := by
  obtain ⟨rfl, -⟩ := h.again
  cases h.second with
  | noted failed kept' => exact h.noted failed kept'
  | unnoted _ kept' => exact (persistStatus_failed kept').1.trans h.quiet
  | unprepared _ prepared' => exact (persistMetadata_failed prepared').1.trans h.quiet
  | written ready prepared' talks' concludes' own kept' =>
    exact h.written ready prepared' talks' concludes' own kept'
  | unwritten ready prepared' talks' _ kept' =>
    obtain ⟨store, a, api⟩ := persistStatus_failed kept'
    exact store.trans ((talks'.store_eq h.undisturbed).trans (h.unwritten api ready prepared'))

end Retry

end

section

variable {talk : List Exchange} {e : SyncError}

theorem Cleaning.fails (undisturbed : env.Disturbs fun s t => t = s) {r : Except SyncError Unit}
    (h : Cleaning env o w talk r w') (failed : r = .error e) : w'.store = w.store := by
  cases h with
  | pathless => rfl
  | refused _ _ _ talks => exact talks.store_eq undisturbed
  | @released _ v _ talks =>
    rcases patchMetadata_cases env (Reconcile.released o) v with ⟨a, v', hp, -, store⟩ | ⟨v', hp, -⟩ |
      ⟨stored, v', hp, -⟩ <;> rw [hp] at failed ⊢
    · exact store.trans (talks.store_eq undisturbed)
    · cases failed
    · cases failed

/-- A pass fails for want of a read, over an object that is being deleted, or over one that it syncs. Only
in the last case it can have written something. -/
theorem Course.fails (undisturbed : env.Disturbs fun s t => t = s) {r : Except SyncError Action}
    (h : Course env settings k w talk r w') (failed : r = .error e) :
    (∃ a, e = .api a ∧ env.refusal (.get k) w.outside = some a ∧ w'.store = w.store) ∨
      (∃ o w₁, Reads env k w o w₁ ∧ o.need = .cleanup ∧ w'.store = w.store) ∨
        ∃ o w₁, Reads env k w o w₁ ∧ o.need = .sync := by
  cases h with
  | unread read =>
    cases failed
    have store := (get_eq read).2
    rw [get_eq_fetched, fetched] at read
    cases refused : env.refusal (.get k) w.outside with
    | some a =>
      rw [refused] at read
      cases read
      exact .inl ⟨a, rfl, rfl, store⟩
    | none =>
      rw [refused] at read
      cases read
  | idle => cases failed
  | @cleaned o _ _ _ r _ reads need course =>
    cases r with
    | error e' => exact .inr (.inl ⟨o, _, reads, need, (course.fails undisturbed rfl).trans reads.stored.2⟩)
    | ok => cases failed
  | synced _ reads need => exact .inr (.inr ⟨_, _, reads, need⟩)

theorem Reads.unrefused {w₁ : World σ} (h : Reads env k w o w₁) :
    env.refusal (.get k) w.outside = none := by
  obtain ⟨found, read, -⟩ := h
  rw [get_eq_fetched, fetched] at read
  cases refused : env.refusal (.get k) w.outside with
  | none => rfl
  | some a =>
    rw [refused] at read
    cases read

/-- A visit that fails again with the error of the one before it, with nothing changed in between, writes
nothing, unless the error is a disagreement about a control plane. -/
theorem visit_rests_failing (undisturbed : env.Disturbs fun s t => t = s)
    (steady : ∀ a, e = .api a → env.Steady) (other : e.isControlPlaneMismatch = false)
    (failed : (visit env settings kind ns name w).result = .error e)
    (unchanged : w'.store = (visit env settings kind ns name w).after.store)
    (again : (visit env settings kind ns name w').result = .error e) :
    (visit env settings kind ns name w').after.store = w'.store := by
  have course (y : World σ) : Course env settings ⟨kind, ns, name⟩ y (visit env settings kind ns name y).talk
      (visit env settings kind ns name y).result (visit env settings kind ns name y).after :=
    visit_course env settings kind ns name y
  have second := (course w').fails undisturbed again
  rcases second with ⟨-, -, -, store⟩ | ⟨-, -, -, -, store⟩ | ⟨x, u, reads', need'⟩
  · exact store
  · exact store
  have left : (visit env settings kind ns name w).after.store.findObject? ⟨kind, ns, name⟩ = some x :=
    unchanged ▸ reads'.stored.1
  have first := (course w).fails undisturbed failed
  rcases first with ⟨a, api, refused, -⟩ | ⟨o, w₁, reads, need, store⟩ | ⟨o, w₁, reads, need⟩
  · have refused' : env.refusal (.get ⟨kind, ns, name⟩) w'.outside = some a :=
      (steady a api _ _ _).trans refused
    cases reads'.unrefused.symm.trans refused'
  · rw [store] at left
    cases left.symm.trans reads.stored.1
    cases need.symm.trans need'
  rcases resolved : (Resolve.references env).onObject o w₁ with ⟨q, o₁, v⟩
  rcases resolved' : (Resolve.references env).onObject x u with ⟨q', x₁, v'⟩
  obtain ⟨r, z, b, ends, result, after⟩ := visit_ends settings reads need resolved
  obtain ⟨r', z', b', ends', result', after'⟩ := visit_ends settings reads' need' resolved'
  have fails {r : Except SyncError Outcome} (h : r.map (nextLook settings) = .error e) : r = .error e := by
    cases r <;> cases h
    rfl
  have leaves := Resolve.leaves_of_references resolved
  have still : Confined env (fun _ => False) o₁.key v z := ends.confined rfl
  have retry : Retry env o x q q' o₁ x₁ w₁ v z u v' z' e :=
    { undisturbed, steady, other, resolved, resolved'
      stored := reads.own_stored
      first := ends.fails (fails (result.symm.trans failed))
      elsewhere := fun key apart => (still.elsewhere key (leaves.key.trans_ne apart).symm
        (undisturbed.of_undisturbed fun _ => rfl)).trans (congrArg (Store.find? · key) leaves.store)
      store := by rw [reads'.stored.2, unchanged, after]
      left := by rw [after] at left; rw [reads.key]; exact left
      second := ends'.fails (fails (result'.symm.trans again)) }
  rw [after', ← reads'.stored.2]
  exact retry.rests

end

/-- The time of a stored condition moves only with its status, and a visit that fails again as the one before
it writes nothing, both but for a disagreement about a control plane: a visit that fails with one may move
the time of the condition that tells of it. -/
theorem transition_times_kept (env : Environment σ) (settings : OperatorSettings) (kind : ManagedKind)
    (ns name : String) (w : World σ) :
    (env.Disturbs (Store.KeepsStatus ⟨kind, ns, name⟩) →
      w.store.KeepsTimes ⟨kind, ns, name⟩ (DisagreedAt (visit env settings kind ns name w).result w.now)
        (visit env settings kind ns name w).after.store) ∧
    ∀ (w' : World σ) (e : SyncError), (env.Disturbs fun s t => t = s) →
      (∀ a, e = .api a → env.Steady) → e.isControlPlaneMismatch = false →
      (visit env settings kind ns name w).result = .error e →
      w'.store = (visit env settings kind ns name w).after.store →
      (visit env settings kind ns name w').result = .error e →
        (visit env settings kind ns name w').after.store = w'.store :=
  ⟨fun others => visit_keepsTimes others w, fun _ _ undisturbed steady other failed unchanged again =>
    visit_rests_failing undisturbed steady other failed unchanged again⟩

section

open Scene

/-- The world an hour after the service lost its control plane, and the same once the service was written by
a user in the meantime. -/
def stale : World Cloud := { parting.after with now := ⟨3600, 0⟩ }

def renewed : World Cloud :=
  { stale with
    store := edit webKey (fun o => { o with metadata := { o.metadata with generation := some 1 } })
      stale.store }

/-- The service that lost its control plane fails again without a write. Once it was written, the condition
on its control plane is noted anew, and keeps the time since when it is not valid. -/
theorem parting_times_kept :
    (webVisit calm stale).after.store = stale.store ∧
      ∃ o x c d, renewed.store.findObject? webKey = some o ∧
        (webVisit calm renewed).after.store.findObject? webKey = some x ∧ o.Distinct ∧
        c ∈ o.conditions ∧ d ∈ x.conditions ∧ c.type = ConditionType.controlPlaneRefValid ∧
        d.observedGeneration ≠ c.observedGeneration ∧
        d.type = c.type ∧ d.status = c.status ∧ d.lastTransitionTime = c.lastTransitionTime := by
  have first : parting.result = .error (.refBeingDeleted "KonnectGatewayControlPlane" "shop/main") :=
    failed_of_told (by decide +kernel)
  have second : (webVisit calm stale).result =
      .error (.refBeingDeleted "KonnectGatewayControlPlane" "shop/main") :=
    failed_of_told (by decide +kernel)
  have third : (webVisit calm renewed).result =
      .error (.refBeingDeleted "KonnectGatewayControlPlane" "shop/main") :=
    failed_of_told (by decide +kernel)
  have rests : (webVisit calm stale).after.store = stale.store :=
    (transition_times_kept calm OperatorSettings.default .service "shop" "web" parting.before).2 stale _
      calm_writable.undisturbed (fun _ api => by cases api) rfl first rfl second
  have others : calm.Disturbs (Store.KeepsStatus webKey) :=
    calm_writable.undisturbed.of_undisturbed (Store.keepsStatus_refl webKey)
  obtain ⟨o, stored, holds⟩ : ∃ o, renewed.store.findObject? webKey = some o ∧
      (decide o.Distinct && ((webVisit calm renewed).after.store.findObject? webKey).any fun x =>
        o.conditions.any fun c => x.conditions.any fun d =>
          decide (c.type = ConditionType.controlPlaneRefValid ∧
            d.observedGeneration ≠ c.observedGeneration ∧ d.type = c.type ∧ d.status = c.status)) :=
    (Option.any_eq_true _ _).mp (by decide +kernel)
  obtain ⟨distinct, noted⟩ := Bool.and_eq_true_iff.mp holds
  have distinct := of_decide_eq_true distinct
  obtain ⟨x, stored', noted⟩ := (Option.any_eq_true _ _).mp noted
  obtain ⟨c, hc, noted⟩ := List.any_eq_true.mp noted
  obtain ⟨d, hd, noted⟩ := List.any_eq_true.mp noted
  obtain ⟨plane, anew, type, status⟩ := of_decide_eq_true noted
  have kept := (transition_times_kept calm OperatorSettings.default .service "shop" "web" renewed).1 others
    o x stored stored' distinct c hc d hd type status
  refine ⟨rests, o, x, c, d, stored, stored', distinct, hc, hd, plane, anew, type, status,
    kept.resolve_right ?_⟩
  rintro ⟨e, failed, mismatch, -⟩
  cases third.symm.trans failed
  cases mismatch

def strayLane : Object where
  metadata := lane.metadata
  spec := .route
    ⟨some (.konnectId "other"), some (.object "web" none), none, [], [], [], [], none, []⟩
  status := none

def quarrel : Visit Cloud :=
  visit calm OperatorSettings.default .route "shop" "lane"
    { (opening calm []).after with store := (opening calm []).after.store.put (.managed strayLane) }

def quarrelAgain : Visit Cloud :=
  visit calm OperatorSettings.default .route "shop" "lane" { quarrel.after with now := ⟨3600, 0⟩ }

/-- The route fails again for the same reason on an unchanged store. The condition that tells why keeps its
status, but its time moves, and so the store is written. -/
theorem quarrel_moves_time :
    (∃ e, quarrel.result = .error e ∧ quarrelAgain.result = .error e) ∧
      quarrelAgain.before.store = quarrel.after.store ∧
      quarrelAgain.after.store ≠ quarrelAgain.before.store ∧
      ∃ o x c d, quarrelAgain.before.store.findObject? laneKey = some o ∧
        quarrelAgain.after.store.findObject? laneKey = some x ∧ o.Distinct ∧
        c ∈ o.conditions ∧ d ∈ x.conditions ∧ d.type = c.type ∧ d.status = c.status ∧
        d.lastTransitionTime ≠ c.lastTransitionTime := by
  have first : quarrel.result =
      .error (.controlPlaneMismatch "KongRoute" "shop/lane" "KongService" "other" "cp") :=
    failed_of_told (by decide +kernel)
  have second : quarrelAgain.result =
      .error (.controlPlaneMismatch "KongRoute" "shop/lane" "KongService" "other" "cp") :=
    failed_of_told (by decide +kernel)
  have revision : quarrelAgain.after.store.revision ≠ quarrelAgain.before.store.revision := by
    decide +kernel
  refine ⟨⟨_, first, second⟩, rfl, fun same => revision (by rw [same]), ?_⟩
  obtain ⟨o, stored, holds⟩ : ∃ o, quarrelAgain.before.store.findObject? laneKey = some o ∧
      (decide o.Distinct &&
        (quarrelAgain.after.store.findObject? laneKey).any fun x => o.conditions.any fun c =>
          x.conditions.any fun d => decide (d.type = c.type ∧ d.status = c.status ∧
            d.lastTransitionTime ≠ c.lastTransitionTime)) :=
    (Option.any_eq_true _ _).mp (by decide +kernel)
  obtain ⟨distinct, moved⟩ := Bool.and_eq_true_iff.mp holds
  obtain ⟨x, stored', moved⟩ := (Option.any_eq_true _ _).mp moved
  obtain ⟨c, hc, moved⟩ := List.any_eq_true.mp moved
  obtain ⟨d, hd, moved⟩ := List.any_eq_true.mp moved
  exact ⟨o, x, c, d, stored, stored', of_decide_eq_true distinct, hc, hd, of_decide_eq_true moved⟩

end

end Reconcile

end GatewaySync
