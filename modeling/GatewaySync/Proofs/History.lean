import GatewaySync.Proofs.Persistence
/-!
# Runs of passes

A run alternates passes with whatever happens to the world meanwhile. Each pass of a run is kept as a
visit, with the world that it found and the one that it left. A run extends at its end, so what every
step preserves holds of it by induction.
-/
namespace GatewaySync.Reconcile

section

variable {σ : Type} {env : Environment σ} {k : Key} {o : Object} {w w₁ : World σ}

/-- Where the references of the object lead, if a pass from here brings its entity up to date. -/
def destination (env : Environment σ) (k : Key) (w : World σ) : Option (Except SyncError EntityPath) :=
  match w.get env k with
  | (.ok (some (.managed o)), w₁) =>
    if o.need = .sync then some (((Resolve.references env).onObject o w₁).2.1.path .delete) else none
  | _ => none

theorem destination_of_reads (reads : Reads env k w o w₁) :
    destination env k w =
      if o.need = .sync then some (((Resolve.references env).onObject o w₁).2.1.path .delete)
      else none := by
  obtain ⟨found, read, fetched⟩ := reads
  rcases found with _ | _ | _ <;> cases fetched
  rw [destination, read]

theorem destination_of_unread (unread : ∀ o w₁, ¬ Reads env k w o w₁) :
    destination env k w = none := by
  unfold destination
  split
  · rename_i o w₁ read
    exact absurd ⟨_, read, rfl⟩ (unread o w₁)
  · rfl

end

variable {σ : Type} (env : Environment σ) (settings : OperatorSettings)

structure Visit (σ : Type) where
  kind : ManagedKind
  ns : String
  name : String
  before : World σ
  result : Except SyncError Action
  after : World σ

namespace Visit

def key (v : Visit σ) : Key := ⟨v.kind, v.ns, v.name⟩

def talk (v : Visit σ) : List Exchange := v.after.exchanges.drop v.before.exchanges.length

theorem talk_of_append {v : Visit σ} {talk : List Exchange}
    (said : v.after.exchanges = v.before.exchanges ++ talk) : v.talk = talk := by
  rw [Visit.talk, said]
  exact List.drop_left

theorem talk_calls {v : Visit σ} {calls : List RemoteCall}
    (said : v.after.remoteCalls = v.before.remoteCalls ++ calls) : v.talk.map (·.call) = calls := by
  rw [Visit.talk, List.map_drop]
  exact (congrArg (List.drop _) said).trans (List.drop_left' (List.length_map _))

def calls (v : Visit σ) : List StoreCall := v.after.storeCalls.drop v.before.storeCalls.length

theorem calls_of_append {v : Visit σ} {calls : List StoreCall}
    (said : v.after.storeCalls = v.before.storeCalls ++ calls) : v.calls = calls := by
  rw [Visit.calls, said]
  exact List.drop_left

def destination (env : Environment σ) (k : Key) (v : Visit σ) : Option (Except SyncError EntityPath) :=
  if v.key = k then Reconcile.destination env k v.before else none

end Visit

def visit (kind : ManagedKind) (ns name : String) (w : World σ) : Visit σ where
  kind := kind
  ns := ns
  name := name
  before := w
  result := (pass env settings kind ns name w).1
  after := (pass env settings kind ns name w).2

/-- The runs from a world: the visits that were made and the world that they led to. What happens
between passes is bound only by a relation. -/
inductive History (others : World σ → World σ → Prop) (start : World σ) :
    List (Visit σ) → World σ → Prop
  | begin : History others start [] start
  | meanwhile {visits : List (Visit σ)} {w w' : World σ} (h : History others start visits w)
      (change : others w w') : History others start visits w'
  | pass {visits : List (Visit σ)} {w : World σ} (h : History others start visits w)
      (kind : ManagedKind) (ns name : String) :
      History others start (visits ++ [visit env settings kind ns name w])
        (visit env settings kind ns name w).after

theorem visit_course (kind : ManagedKind) (ns name : String) (w : World σ) :
    Course env settings (visit env settings kind ns name w).key w
      (visit env settings kind ns name w).talk (visit env settings kind ns name w).result
      (visit env settings kind ns name w).after := by
  obtain ⟨talk, course⟩ := pass_course env settings kind ns name w
  have said : (visit env settings kind ns name w).talk = talk := Visit.talk_of_append course.exchanges
  rw [said]
  exact course

variable {env settings} {others : World σ → World σ → Prop} {start w : World σ}
  {visits : List (Visit σ)}

theorem History.mono {others' : World σ → World σ → Prop}
    (h : History env settings others start visits w) (sub : ∀ u v, others u v → others' u v) :
    History env settings others' start visits w := by
  induction h with
  | begin => exact .begin
  | meanwhile _ change ih => exact ih.meanwhile (sub _ _ change)
  | pass _ kind ns name ih => exact ih.pass kind ns name

theorem History.course (h : History env settings others start visits w) {v : Visit σ}
    (hv : v ∈ visits) : Course env settings v.key v.before v.talk v.result v.after := by
  induction h with
  | begin => cases hv
  | meanwhile _ _ ih => exact ih hv
  | pass _ kind ns name ih =>
    rcases List.mem_append.mp hv with hv | hv
    · exact ih hv
    · obtain rfl := List.mem_singleton.mp hv
      exact visit_course env settings kind ns name _

/-- A list that grew at its end was split before the new element or at it. -/
theorem split_concat {α : Type} {init before since : List α} {last a : α}
    (h : init ++ [last] = before ++ a :: since) :
    (since = [] ∧ a = last ∧ init = before) ∨
      ∃ since', since = since' ++ [last] ∧ init = before ++ a :: since' := by
  rcases since.eq_nil_or_concat with rfl | ⟨since', x, rfl⟩
  · obtain ⟨rfl, same⟩ := List.append_inj' h rfl
    exact .inl ⟨rfl, (List.singleton_inj.mp same).symm, rfl⟩
  · rw [List.concat_eq_append, ← List.cons_append, ← List.append_assoc] at h
    obtain ⟨rfl, same⟩ := List.append_inj' h rfl
    obtain rfl := List.singleton_inj.mp same
    exact .inr ⟨since', List.concat_eq_append, rfl⟩

/-- What one visit brings about, and every pass and whatever happens meanwhile keep, is found by every
later visit. -/
theorem History.after {Q : World σ → Prop} (meanwhile : ∀ w w', others w w' → Q w → Q w')
    (passes : ∀ kind ns name w, Q w → Q (visit env settings kind ns name w).after)
    (h : History env settings others start visits w) {before since : List (Visit σ)} {a : Visit σ}
    (split : visits = before ++ a :: since) (brought : Q a.after) :
    Q w ∧ ∀ v ∈ since, Q v.before ∧ Q v.after := by
  induction h generalizing since with
  | begin => simp at split
  | meanwhile _ change ih =>
    obtain ⟨now, later⟩ := ih split
    exact ⟨meanwhile _ _ change now, later⟩
  | pass _ kind ns name ih =>
    rcases split_concat split with ⟨rfl, rfl, -⟩ | ⟨since', rfl, rfl⟩
    · exact ⟨brought, by simp⟩
    · obtain ⟨now, later⟩ := ih rfl
      have kept := passes kind ns name _ now
      refine ⟨kept, fun v hv => ?_⟩
      rcases List.mem_append.mp hv with hv | hv
      · exact later v hv
      · obtain rfl := List.mem_singleton.mp hv
        exact ⟨now, kept⟩

end GatewaySync.Reconcile
