import GatewaySync.Proofs.Destination
import GatewaySync.Proofs.InStep
/-!
# Namespaces

A pass sees and changes nothing outside the namespace of its object. A reference that names another
namespace is refused as soon as its turn comes, before anything is read for it.
-/
namespace GatewaySync

variable {σ : Type} {env : Environment σ}

namespace Resolve

open Pass World

variable {o o' o₁ : Object} {w v : World σ} {kind : ManagedKind} {name other : String}

def foreign (o : Object) (kind : ManagedKind) (name other : String) : SyncError :=
  .crossNamespaceRef o.kind.name o.keyText kind.name (other ++ "/" ++ name)

def noteForeign (condition : String) (kind : ManagedKind) (name other : String) (t : Instant)
    (o : Object) : Object :=
  o.record ⟨condition, .false, Reason.invalid, (foreign o kind name other).message⟩ t

theorem lookup_foreign (env : Environment σ) (condition : String) (kind : ManagedKind) (name : String)
    (far : other ≠ o.metadata.namespaceText) (w : World σ) :
    (lookup env condition kind name (some other)).onObject o w =
      (.error (foreign o kind name other), noteForeign condition kind name other w.now o, w) := by
  rw [lookup, onObject_bind_ok (onObject_object o w)]
  dsimp only
  rw [if_pos (by simpa using far)]
  exact onObject_refuse o w condition _ _

theorem parent_foreign (env : Environment σ) (link : o.linkTo kind = some (.object name (some other)))
    (far : other ≠ o.metadata.namespaceText) (w : World σ) :
    (parent env kind).onObject o w = (.error (foreign o kind name other),
      (noteForeign kind.linkCondition kind name other w.now o).withParentId "", w) := by
  have sought := onObject_lookupOrForget (·.withParentId "")
    (lookup_foreign env kind.linkCondition kind name far w)
  rw [parent, onObject_bind_ok (onObject_object o w)]
  dsimp only
  rw [link]
  exact onObject_bind_error sought

theorem controlPlane_foreign (env : Environment σ) (inherited : Option String)
    (inPlane : o.kind.controlPlaneScoped = true)
    (ref : o.spec.controlPlaneRef = some (.object name (some other)))
    (far : other ≠ o.metadata.namespaceText) (w : World σ) :
    (controlPlane env inherited).onObject o w = (.error (foreign o .controlPlane name other),
      (noteForeign ConditionType.controlPlaneRefValid .controlPlane name other w.now
        o).withControlPlaneId "", w) := by
  have sought := onObject_lookupOrForget (·.withControlPlaneId "")
    (lookup_foreign env ConditionType.controlPlaneRefValid .controlPlane name far w)
  rw [controlPlane, onObject_bind_ok (onObject_object o w)]
  simp only [inPlane, ref]
  exact onObject_bind_error sought

/-- The turn of a reference to another namespace comes in the second world, with this failure. That of the
parent comes at once, that of the control plane once the parent is resolved. -/
inductive Foreign (env : Environment σ) (o : Object) (w : World σ) : World σ → SyncError → Prop
  | parent {kind : ManagedKind} {name other : String} (has : o.kind.parentKind? = some kind)
      (link : o.linkTo kind = some (.object name (some other))) (far : other ≠ o.metadata.namespaceText) :
      Foreign env o w w (foreign o kind name other)
  | controlPlane {name other : String} {q : Resolution} {o₁ : Object} {v : World σ}
      (inPlane : o.kind.controlPlaneScoped = true)
      (ref : o.spec.controlPlaneRef = some (.object name (some other)))
      (far : other ≠ o.metadata.namespaceText) (parent : (parentOf env).onObject o w = (.ok q, o₁, v))
      (resolved : q ≠ .notReady) : Foreign env o w v (foreign o .controlPlane name other)

/-- References are not resolved past one to another namespace, and it does not cost a read. -/
theorem references_foreign {e : SyncError} (h : Foreign env o w v e) :
    ∃ o', (references env).onObject o w = (.error e, o', v) := by
  cases h with
  | parent has link far =>
    exact ⟨_, onObject_references ((parentOf_eq_parent has).trans (parent_foreign env link far w))⟩
  | @controlPlane name other q o₁ v inPlane ref far parent resolved =>
    have kept : Keeps (frame env) (parentOf env) := parentOf_keeps
    have leaves : Leaves env (o, w) (o₁, v) := by
      have left := kept o w
      rwa [parent] at left
    have ns : o₁.metadata.namespaceText = o.metadata.namespaceText := by rw [leaves.metadata]; rfl
    have kind : o₁.kind = o.kind := Object.kind_congr leaves.spec
    have text : o₁.keyText = o.keyText := by rw [Object.keyText, leaves.metadata]; rfl
    have failed := controlPlane_foreign env q.inherited? (o := o₁) (by rwa [kind])
      ((Object.controlPlaneRef_congr leaves.spec).trans ref) (by rwa [ns]) v
    have run := onObject_references parent
    rw [show foreign o₁ .controlPlane name other = foreign o .controlPlane name other by
      simp only [foreign, kind, text]] at failed
    cases q with
    | notReady => exact absurd rfl resolved
    | unset => exact ⟨_, run.trans (onObject_viaControlPlane failed)⟩
    | resolved => exact ⟨_, run.trans (onObject_viaControlPlane failed)⟩

end Resolve

namespace Reconcile

open Pass World

variable {w w' : World σ} {kind : ManagedKind} {ns name : String}

/-- The visit asks the cluster for nothing outside of its namespace, and whatever is held under another key is
in the end as others left it. It follows no reference to another namespace: from its turn on nothing is read,
and nothing is said to Konnect. The visit fails with it, unless the cluster refuses to store that. -/
structure Visit.Isolated (env : Environment σ) (v : Visit σ) : Prop where
  inside : ∀ c ∈ v.calls, c.key.ns = v.ns
  elsewhere : ∀ key, key ≠ v.key → (env.Disturbs fun s t => t.find? key = s.find? key) →
    v.after.store.find? key = v.before.store.find? key
  foreign : ∀ o w₁ u e, Reads env v.key v.before o w₁ → o.need = .sync → Resolve.Foreign env o w₁ u e →
    (∃ o', (Resolve.references env).onObject o w₁ = (.error e, o', u)) ∧ Blind u v.after ∧ v.talk = [] ∧
      (v.result = .error e ∨
        ∃ x a, env.refusal (.patchStatus v.key) x = some a ∧ v.result = .error (.api a))

theorem visit_isolated (env : Environment σ) (settings : OperatorSettings) (kind : ManagedKind)
    (ns name : String) (w : World σ) : (visit env settings kind ns name w).Isolated env where
  inside := by
    obtain ⟨calls, said, within⟩ := (visit_confined env settings kind ns name w).calls
    have called : (visit env settings kind ns name w).calls = calls := Visit.calls_of_append said
    rw [called]
    intro c hc
    have within := within c hc
    cases c with
    | get key =>
      rcases within with rfl | ⟨o, stored, near⟩
      · rfl
      · exact near.2.trans (congrArg Key.ns (Store.key_of_findObject? stored))
    | patchStatus | patchMetadata => exact congrArg Key.ns within
  elsewhere := (visit_confined env settings kind ns name w).elsewhere
  foreign o w₁ u e reads need far := by
    have reads : Reads env ⟨kind, ns, name⟩ w o w₁ := reads
    obtain ⟨o', resolved⟩ := Resolve.references_foreign far
    obtain ⟨r, w₂, b, ends, result, after⟩ := visit_ends settings reads need resolved
    have blind : Blind u w₂ := (ends.confined rfl).blind
    obtain ⟨silent, fails⟩ := visit_unready settings reads need resolved (by simp)
    exact ⟨⟨o', resolved⟩, by rw [after]; exact blind, silent, fails⟩

/-- Passes over one object in stores that hold the same in its namespace, with the same answers, are twins: they
read the same, say the same to Konnect and store the same, up to revisions and the readings of their clocks. If
no stored time tells those readings apart, they make the same calls; and then, or if the cluster takes every
status, they come to the same. -/
theorem namespaces_isolated (settings : OperatorSettings) (aloof : env.Aloof)
    (others : env.Disturbs (Store.Keeps (·.ns = ns))) (outside : w'.outside = w.outside)
    (same : w.store.Keeps (·.ns = ns) w'.store) {v v' : Visit σ}
    (made : visit env settings kind ns name w = v) (made' : visit env settings kind ns name w' = v') :
    v.Isolated env ∧ v.Twin (·.ns = ns) v' ∧
      (ClocksAgree w.store v.key w.now w'.now → v'.calls = v.calls) ∧
      (ClocksAgree w.store v.key w.now w'.now ∨ env.TakesStatus → v'.result = v.result) := by
  have seen (key : Key) (legible : Legible w.store ⟨kind, ns, name⟩ key) : key.ns = ns := by
    rcases legible with rfl | ⟨o, stored, near⟩
    · rfl
    · exact near.2.trans (congrArg Key.ns (Store.key_of_findObject? stored))
  have own : v.key = ⟨kind, ns, name⟩ := made ▸ rfl
  rw [own]
  exact ⟨made ▸ visit_isolated env settings kind ns name w,
    visit_inStep settings aloof others outside same seen made made'⟩

section

open Scene

/-- A control plane of the same name in another namespace, and a service that refers to that one. -/
def bank : Object :=
  { plane with metadata := { plane.metadata with ns := some "bank", uid := some "u-5" } }

def outward : Object :=
  { web with spec :=
      .service ⟨some (.object "main" (some "bank")), none, "example.org", none, none, none, none, []⟩ }

def crowded : World Cloud := { founding.after with store := founding.after.store.put (.managed bank) }

def reaching : Visit Cloud :=
  webVisit calm (world ((Store.empty.put (.managed bank)).put (.managed outward)) (Cloud.empty []))

/-- The service joins its control plane just as if there was no other one. The service that asks for the other
one says nothing and fails. -/
theorem joining_unmoved :
    ((webVisit calm crowded).calls = joining.calls ∧ (webVisit calm crowded).result = joining.result ∧
        joining.talk ≠ []) ∧
      reaching.talk = [] ∧ reaching.result = .error (.crossNamespaceRef "KongService" "shop/web"
        "KonnectGatewayControlPlane" "bank/main") := by
  have aloof : calm.Aloof := fun _ _ _ _ => rfl
  have others : calm.Disturbs (Store.Keeps (·.ns = "shop")) :=
    calm_writable.undisturbed.of_undisturbed fun _ _ _ => rfl
  refine ⟨?_, ?_⟩
  · have same : founding.after.store.Keeps (·.ns = "shop") crowded.store := by
      intro key here
      refine (Store.find?_put _ _ _).trans (if_neg fun own => ?_)
      exact absurd ((congrArg Key.ns own).trans here) (by decide)
    have made : visit calm OperatorSettings.default .service "shop" "web" founding.after = joining := rfl
    have outside : crowded.outside = founding.after.outside := rfl
    obtain ⟨-, -, calls, result⟩ :=
      namespaces_isolated OperatorSettings.default aloof others outside same made rfl
    have clocks : ClocksAgree founding.after.store webKey founding.after.now crowded.now := fun _ _ _ _ => .rfl
    refine ⟨calls clocks, result (.inl clocks), fun silent => ?_⟩
    have said : joining.talk.length ≠ 0 := by decide +kernel
    exact said (congrArg List.length silent)
  · have made : visit calm OperatorSettings.default .service "shop" "web" reaching.before = reaching := rfl
    obtain ⟨isolated, -⟩ :=
      namespaces_isolated OperatorSettings.default aloof others rfl (fun _ _ => rfl) made made
    obtain ⟨o, found, holds⟩ := found_of_any (k := webKey) (w := reaching.before) (c := fun o => decide
      (o.kind = .service ∧ o.metadata.namespaceText = "shop" ∧ o.keyText = "shop/web" ∧ o.need = .sync ∧
        o.spec.controlPlaneRef = some (.object "main" (some "bank")))) (by decide +kernel)
    obtain ⟨kind, ns, text, need, ref⟩ := of_decide_eq_true holds
    have reads : Reads calm webKey reaching.before o (reaching.before.get calm webKey).2 :=
      ⟨_, Prod.ext found rfl, rfl⟩
    have unset {v : World Cloud} : (Resolve.parentOf calm).onObject o v = (.ok .unset, o, v) :=
      Resolve.parentOf_eq_unset (by rw [kind]; rfl) fun s spec => by rw [Object.kind, spec] at kind; cases kind
    obtain ⟨-, -, silent, fails⟩ := isolated.foreign o _ _ _ reads need
      (.controlPlane (by rw [kind]; rfl) ref (by rw [ns]; decide) unset (by simp))
    refine ⟨silent, fails.resolve_right ?_ |>.trans ?_⟩
    · rintro ⟨x, a, refusal, -⟩
      cases refusal
    · rw [Resolve.foreign, kind, text]
      rfl

end

end Reconcile

end GatewaySync
