import GatewaySync.Proofs.Destination
import GatewaySync.Proofs.InStep
/-!
# Passes that commute

A pass reads its object and what that names, and writes its object only. So passes over two objects that do not
name each other may be made in either order: neither of them can tell whether the other one was made before.
-/
namespace GatewaySync

/-- The same cluster at another time, with what answers there. -/
def World.turn {σ τ : Type} (w : World σ) (x : τ) (t : Instant) : World τ :=
  ⟨w.store, x, t, w.backoff, w.storeCalls, w.exchanges⟩

theorem Environment.Writable.takesStatus {σ : Type} {env : Environment σ} (writable : env.Writable) :
    env.TakesStatus := fun key x => by
  rw [Environment.refusal, writable.status]

namespace Reconcile

open World

variable {ρ σ τ : Type} {env : Environment σ} {env' : Environment τ} {settings : OperatorSettings}
  {w : World ρ} {kind kind' : ManagedKind} {ns ns' name name' : String}

/-- Whatever is stored under a key does not name another one. -/
def Unnamed (s : Store) (k other : Key) : Prop := ∀ o, s.findObject? k = some o → other ∉ o.named

theorem Legible.ne {s : Store} {k other key : Key} (h : Legible s k key) (different : k ≠ other)
    (unnamed : Unnamed s k other) : key ≠ other := by
  rintro rfl
  rcases h with rfl | ⟨o, stored, near⟩
  · exact different rfl
  · exact unnamed o stored near.1

theorem visit_elsewhere (undisturbed : env.Disturbs fun s t => t = s) (settings : OperatorSettings)
    (kind : ManagedKind) (ns name : String) (v : World σ) {key : Key} (other : key ≠ ⟨kind, ns, name⟩) :
    (visit env settings kind ns name v).after.store.find? key = v.store.find? key :=
  (visit_confined env settings kind ns name v).elsewhere key other
    (undisturbed.of_undisturbed fun _ => rfl)

section

variable (undisturbed : env.Disturbs fun s t => t = s) (undisturbed' : env'.Disturbs fun s t => t = s)
  (takes : env.TakesStatus) (aloof : env.Aloof) (x : σ) (y : τ) (t t' u : Instant)
  (different : (⟨kind, ns, name⟩ : Key) ≠ ⟨kind', ns', name'⟩)
  (unnamed : Unnamed w.store ⟨kind, ns, name⟩ ⟨kind', ns', name'⟩) {a a' : Visit σ} {b : Visit τ}
  (before : visit env settings kind ns name (w.turn x t) = a)
  (other : visit env' settings kind' ns' name' (w.turn y u) = b)
  (after : visit env settings kind ns name (b.after.turn x t') = a')

include undisturbed undisturbed' takes aloof different unnamed before other after

/-- A pass that is made after one over an object that is not named is the same as before it. -/
theorem visit_after :
    a.Twin (Legible w.store ⟨kind, ns, name⟩) a' ∧ a'.result = a.result := by
  have outside : (b.after.turn x t').outside = (w.turn x t).outside := rfl
  have same : (w.turn x t).store.Keeps (Legible w.store ⟨kind, ns, name⟩) (b.after.turn x t').store := by
    intro key legible
    subst other
    exact visit_elsewhere undisturbed' settings kind' ns' name' _ (legible.ne different unnamed)
  obtain ⟨twin, -, result⟩ := visit_inStep settings aloof
    (undisturbed.of_undisturbed fun _ _ _ => rfl) outside same (fun _ => id) before after
  exact ⟨twin, result (.inr takes)⟩

end

/-- Passes over two objects that do not name each other commute: in either order they read the same, say the same
to Konnect and come to the same. In the end the cluster holds the same, up to revisions and the times that each
pass read off its clock. -/
theorem visits_commute (settings : OperatorSettings) (undisturbed : env.Disturbs fun s t => t = s)
    (undisturbed' : env'.Disturbs fun s t => t = s) (takes : env.TakesStatus) (takes' : env'.TakesStatus)
    (aloof : env.Aloof) (aloof' : env'.Aloof) (x : σ) (y : τ) (t t' u u' : Instant)
    (different : (⟨kind, ns, name⟩ : Key) ≠ ⟨kind', ns', name'⟩)
    (unnamed : Unnamed w.store ⟨kind, ns, name⟩ ⟨kind', ns', name'⟩)
    (unnamed' : Unnamed w.store ⟨kind', ns', name'⟩ ⟨kind, ns, name⟩)
    {a a' : Visit σ} {b b' : Visit τ} (first : visit env settings kind ns name (w.turn x t) = a)
    (second : visit env' settings kind' ns' name' (a.after.turn y u') = b')
    (first' : visit env' settings kind' ns' name' (w.turn y u) = b)
    (second' : visit env settings kind ns name (b.after.turn x t') = a') :
    (a.Twin (Legible w.store a.key) a' ∧ a'.result = a.result) ∧
      (b.Twin (Legible w.store b.key) b' ∧ b'.result = b.result) ∧
      Object.Held t t' (b'.after.store.findObject? a.key) (a'.after.store.findObject? a.key) ∧
      Object.Held u' u (b'.after.store.findObject? b.key) (a'.after.store.findObject? b.key) ∧
      ∀ key, key ≠ a.key → key ≠ b.key → a'.after.store.find? key = b'.after.store.find? key := by
  obtain ⟨twin, result⟩ :=
    visit_after undisturbed undisturbed' takes aloof x y t t' u different unnamed first first' second'
  obtain ⟨twin', result'⟩ :=
    visit_after undisturbed' undisturbed takes' aloof' y x u u' t different.symm unnamed' first' first second
  have here : a.key = ⟨kind, ns, name⟩ := first ▸ rfl
  have there : b.key = ⟨kind', ns', name'⟩ := first' ▸ rfl
  have kept {key : Key} (other : key ≠ ⟨kind, ns, name⟩) : a.after.store.find? key = w.store.find? key ∧
      a'.after.store.find? key = b.after.store.find? key := by
    subst first second'
    exact ⟨visit_elsewhere undisturbed settings kind ns name _ other,
      visit_elsewhere undisturbed settings kind ns name _ other⟩
  have kept' {key : Key} (other : key ≠ ⟨kind', ns', name'⟩) : b.after.store.find? key = w.store.find? key ∧
      b'.after.store.find? key = a.after.store.find? key := by
    subst first' second
    exact ⟨visit_elsewhere undisturbed' settings kind' ns' name' _ other,
      visit_elsewhere undisturbed' settings kind' ns' name' _ other⟩
  rw [here, there]
  refine ⟨⟨twin, result⟩, ⟨twin', result'⟩, ?_, ?_, fun key other other' => ?_⟩
  · rw [Store.findObject?_eq b'.after.store, (kept' different).2, ← Store.findObject?_eq]
    subst first second'
    exact twin.store.own
  · rw [Store.findObject?_eq a'.after.store, (kept different.symm).2, ← Store.findObject?_eq]
    subst first' second
    exact twin'.store.own.symm
  · rw [(kept other).2, (kept' other').1, (kept' other').2, (kept other).1]

section

open Scene

/-- A control plane, and a service that is in another one. -/
def apart : World Cloud := world ((Store.empty.put (.managed plane)).put (.managed web)) (Cloud.empty [])

/-- The first pass over each of them, and the one that is made after the other one. -/
def founded : Visit Cloud :=
  visit calm OperatorSettings.default .controlPlane "shop" "main" (apart.turn (Cloud.empty []) ⟨1, 0⟩)

def served : Visit Cloud := webVisit calm (apart.turn (Cloud.empty []) ⟨2, 0⟩)

def foundedLater : Visit Cloud :=
  visit calm OperatorSettings.default .controlPlane "shop" "main" (served.after.turn (Cloud.empty []) ⟨3, 0⟩)

def servedLater : Visit Cloud := webVisit calm (founded.after.turn (Cloud.empty []) ⟨4, 0⟩)

/-- Control plane and service are programmed in either order, and end up the same. -/
theorem plane_and_web_commute :
    (foundedLater.result = founded.result ∧ servedLater.result = served.result) ∧
      (founded.talk ≠ [] ∧ served.talk ≠ []) ∧
      Object.Held ⟨1, 0⟩ ⟨3, 0⟩ (servedLater.after.store.findObject? planeKey)
        (foundedLater.after.store.findObject? planeKey) ∧
      Object.Held ⟨4, 0⟩ ⟨2, 0⟩ (servedLater.after.store.findObject? webKey)
        (foundedLater.after.store.findObject? webKey) := by
  have undisturbed := calm_writable.undisturbed
  have takes := calm_writable.takesStatus
  have aloof : calm.Aloof := fun _ _ _ _ => rfl
  have unnamed {k other : Key} (h : ((apart.store.findObject? k).all fun o => decide (other ∉ o.named)) = true) :
      Unnamed apart.store k other := by
    intro o stored
    rw [stored] at h
    exact of_decide_eq_true h
  have spoken {v : Visit Cloud} (said : v.talk.length ≠ 0) : v.talk ≠ [] :=
    fun silent => said (congrArg List.length silent)
  have first : visit calm OperatorSettings.default .controlPlane "shop" "main"
    (apart.turn (Cloud.empty []) ⟨1, 0⟩) = founded := rfl
  have first' : visit calm OperatorSettings.default .service "shop" "web"
    (apart.turn (Cloud.empty []) ⟨2, 0⟩) = served := rfl
  have second : visit calm OperatorSettings.default .service "shop" "web"
    (founded.after.turn (Cloud.empty []) ⟨4, 0⟩) = servedLater := rfl
  have second' : visit calm OperatorSettings.default .controlPlane "shop" "main"
    (served.after.turn (Cloud.empty []) ⟨3, 0⟩) = foundedLater := rfl
  obtain ⟨⟨-, again⟩, ⟨-, again'⟩, held, held', -⟩ :=
    visits_commute OperatorSettings.default undisturbed undisturbed takes takes aloof aloof (Cloud.empty [])
      (Cloud.empty []) ⟨1, 0⟩ ⟨3, 0⟩ ⟨2, 0⟩ ⟨4, 0⟩ (by decide) (unnamed (by decide +kernel))
      (unnamed (by decide +kernel)) first second first' second'
  exact ⟨⟨again, again'⟩, ⟨spoken (by decide +kernel), spoken (by decide +kernel)⟩, held, held'⟩

end

end Reconcile

end GatewaySync
