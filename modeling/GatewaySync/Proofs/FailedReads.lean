import GatewaySync.Proofs.Confinement
import GatewaySync.Proofs.Programmed
/-!
# Passes over reads that fail

A pass reads first and writes afterwards. If the cluster refuses one of its reads, nothing is said to
Konnect, and no object is written but for one status: what was found of references before the refusal is
stored, and so is that the id which the read was to give is forgotten.
-/
namespace GatewaySync

variable {σ : Type} {env : Environment σ}

namespace Reconcile

open Pass World

variable {o o' o₁ : Object} {w w' v : World σ} {k : Key}

/-- Without an object to sync, a pass reads once. -/
theorem Course.blind {settings : OperatorSettings} {talk : List Exchange} {r : Except SyncError Action}
    (h : Course env settings k w talk r w')
    (idle : ∀ o w₁, Reads env k w o w₁ → o.need ≠ .sync) : Blind (w.get env k).2 w' := by
  cases h with
  | unread read =>
    rw [read]
    exact ⟨[], by simp⟩
  | idle _ read =>
    rw [read]
    exact ⟨[], by simp⟩
  | cleaned _ reads _ course =>
    obtain ⟨_, read, -⟩ := reads
    rw [read]
    exact (course.confined rfl).blind
  | synced _ reads need => exact absurd need (idle _ _ reads)

/-- A pass whose read under a key was refused with an error: how it ended, and what it stored. The status
that it comes to is told by how far the references were resolved. -/
inductive Interrupted (env : Environment σ) (v : Visit σ) (before : List StoreCall) (key : Key)
    (a : ApiError) : Prop
  | own (key : key = v.key) (result : v.result = .error (.api a))
      (store : v.after.store = v.before.store)
  /-- There is nothing to store. -/
  | settled {o : Object} {es : List Edit} (stored : v.before.store.findObject? v.key = some o)
      (halted : Resolve.Halted o key es) (settled : (o.edited v.before.now es).status = o.status)
      (result : v.result = .error (.api a)) (store : v.after.store = v.before.store)
  /-- The status that the resolution came to is stored, and nothing else. -/
  | noted {o : Object} {es : List Edit} (stored : v.before.store.findObject? v.key = some o)
      (halted : Resolve.Halted o key es) (moved : (o.edited v.before.now es).status ≠ o.status)
      (result : v.result = .error (.api a))
      (store : v.after.store =
        v.before.store.put (.managed { o with status := (o.edited v.before.now es).status }))
  /-- That status could not be stored either. -/
  | lost {o : Object} {es : List Edit} {b : ApiError}
      (stored : v.before.store.findObject? v.key = some o) (halted : Resolve.Halted o key es)
      (moved : (o.edited v.before.now es).status ≠ o.status)
      (refused : env.refusal (.patchStatus v.key)
        (env.afterCalls (before ++ [.get key]) v.before.outside) = some b)
      (result : v.result = .error (.api b)) (store : v.after.store = v.before.store)

theorem afterCalls_concat (calls : List StoreCall) (call : StoreCall) (x : σ) :
    env.afterCalls (calls ++ [call]) x = (env.fault call (env.afterCalls calls x)).2 :=
  List.foldl_concat ..

/-- A call among those that follow reads is one of the reads or comes after them. -/
theorem reads_split {keys : List Key} {calls before since : List StoreCall} {key : Key}
    (blind : ∀ key, .get key ∉ calls) (split : keys.map .get ++ calls = before ++ .get key :: since) :
    ∃ first rest, keys = first ++ key :: rest ∧ before = first.map .get := by
  rcases List.append_eq_append_iff.mp split with ⟨more, rfl, tail⟩ | ⟨more, head, tail⟩
  · exact absurd (tail ▸ List.mem_append_right more List.mem_cons_self) (blind key)
  · cases more with
    | nil =>
      rw [List.nil_append] at tail
      exact absurd (tail ▸ List.mem_cons_self) (blind key)
    | cons call more =>
      obtain ⟨rfl, -⟩ := List.cons.inj tail
      obtain ⟨first, rest, rfl, rfl, same⟩ := List.map_eq_append_iff.mp head
      obtain ⟨_, rest, rfl, same, -⟩ := List.map_eq_cons_iff.mp same
      cases same
      exact ⟨first, rest, rfl, rfl⟩

theorem rest_of_read {own key : Key} {a : ApiError} {before since rest : List StoreCall} {x : σ}
    (willing : env.refusal (.get own) x = none) (split : .get own :: rest = before ++ .get key :: since)
    (refused : env.refusal (.get key) (env.afterCalls before x) = some a) :
    ∃ before', before = .get own :: before' ∧ rest = before' ++ .get key :: since ∧
      env.refusal (.get key) (env.afterCalls before' (env.fault (.get own) x).2) = some a := by
  cases before with
  | nil =>
    obtain ⟨same, -⟩ := List.cons.inj split
    cases same
    cases willing.symm.trans refused
  | cons call before =>
    obtain ⟨rfl, rest⟩ := List.cons.inj split
    exact ⟨before, rfl, rest, refused⟩

variable {settings : OperatorSettings}

theorem statusPatched_edited (o : Object) (t : Instant) (es : List Edit) :
    Store.statusPatched o (o.edited t es) = { o with status := (o.edited t es).status } := by
  rw [Store.statusPatched]
  congr 1
  cases there : o.status with
  | none => exact Option.or_none
  | some _ =>
    have lasting : (o.edited t es).status.isSome := Object.edited_isSome (by simp [there]) t es
    obtain ⟨status, same⟩ := Option.isSome_iff_exists.mp lasting
    rw [same]
    rfl

theorem interrupted_of_ends {kind : ManagedKind} {ns name : String} {u w₁ w₂ : World σ} {b : Backoff}
    {key : Key} {a : ApiError} {es : List Edit} {before : List StoreCall} {r : Except SyncError Outcome}
    (reads : Reads env ⟨kind, ns, name⟩ w o w₁)
    (resolved : (Resolve.references env).onObject o w₁ = (.error (.api a), o.edited w₁.now es, u))
    (halted : Resolve.Halted o key es)
    (outside : u.outside = env.afterCalls (before ++ [.get key]) w.outside)
    (ends : Ends env o (.error (.api a)) (o.edited w₁.now es) u r w₂)
    (result : (visit env settings kind ns name w).result = r.map (nextLook settings))
    (after : (visit env settings kind ns name w).after = { w₂ with backoff := b }) :
    (visit env settings kind ns name w).talk = [] ∧
      Interrupted env (visit env settings kind ns name w) before key a := by
  have stored := reads.stored.1
  have target := reads.target resolved
  have leaves := Resolve.leaves_of_references resolved
  have store : u.store = w.store := leaves.store.trans reads.stored.2
  have own : (o.edited w₁.now es).key = ⟨kind, ns, name⟩ := (o.edited_key _ _).trans reads.key
  rw [reads.now] at ends target own
  cases ends with
  | unprepared ready => cases ready
  | gone ready => cases ready
  | spoken ready => cases ready
  | unready _ kept =>
    have silent := reads.silent.trans (leaves.silent.trans (persistStatus_silent kept))
    refine ⟨Visit.talk_of_append ?_, ?_⟩
    · rw [after, List.append_nil]
      exact silent.exchanges
    · change (persistStatus env o.status).onObject (o.edited w.now es) u = (_, o.edited w.now es, w₂) at kept
      rw [onObject_persistStatus] at kept
      split_ifs at kept with moved
      · cases kept
        have patched := patchStatus_of_target env target
        cases refusal : env.refusal (.patchStatus (o.edited w.now es).key) u.outside with
        | some c =>
          simp only [refusal] at patched
          rw [patched] at result after
          rw [outside, own] at refusal
          refine .lost stored halted moved refusal result ?_
          rw [after]
          exact store
        | none =>
          simp only [refusal] at patched
          rw [patched] at result after
          refine .noted stored halted moved result ?_
          rw [after]
          change u.store.put _ = _
          rw [statusPatched_edited, store]
          rfl
      · cases kept
        refine .settled stored halted (Decidable.not_not.mp moved) result ?_
        rw [after]
        exact store

section

variable {kind : ManagedKind} {ns name : String} {before since : List StoreCall} {key : Key} {a : ApiError}

theorem interrupted_of_unread (settings : OperatorSettings) {b : ApiError}
    (own : env.refusal (.get ⟨kind, ns, name⟩) w.outside = some b)
    (calls : (visit env settings kind ns name w).after.storeCalls =
      w.storeCalls ++ (before ++ .get key :: since))
    (refused : env.refusal (.get key) (env.afterCalls before w.outside) = some a) :
    (visit env settings kind ns name w).talk = [] ∧
      Interrupted env (visit env settings kind ns name w) before key a := by
  have read := get_eq_fetched env ⟨kind, ns, name⟩ w
  rw [World.fetched, own] at read
  have course : pass env settings kind ns name w = (.error (.api b), (w.get env ⟨kind, ns, name⟩).2) := by
    rw [pass, read]
  have after : (visit env settings kind ns name w).after = (w.get env ⟨kind, ns, name⟩).2 :=
    congrArg (·.2) course
  rw [after, get_storeCalls, List.append_cancel_left_eq] at calls
  obtain ⟨rfl, same, -⟩ : before = [] ∧ StoreCall.get key = .get ⟨kind, ns, name⟩ ∧ since = [] := by
    simpa [List.singleton_eq_append_iff] using calls
  cases same
  cases own.symm.trans refused
  refine ⟨Visit.talk_of_append ?_, .own rfl (congrArg (·.1) course) ?_⟩
  · rw [after, List.append_nil]
    exact (get_silent env _ w).exchanges
  · rw [after]
    exact get_store env _ w

/-- A sync calls the store after it read its object. -/
theorem sync_storeCalls (settings : OperatorSettings) {w₁ : World σ}
    (reads : Reads env ⟨kind, ns, name⟩ w o w₁) (need : o.need = .sync) :
    ∃ rest, (visit env settings kind ns name w).after.storeCalls = w₁.storeCalls ++ rest := by
  rcases resolved : (Resolve.references env).onObject o w₁ with ⟨q, o₁, u⟩
  obtain ⟨r, w₂, b, ends, -, after⟩ := visit_ends settings reads need resolved
  obtain ⟨keys, asked⟩ := (Resolve.leaves_of_references resolved).reads.storeCalls
  obtain ⟨more, later, -⟩ := (ends.confined rfl).blind
  refine ⟨keys.map .get ++ more, ?_⟩
  rw [after, ← List.append_assoc, ← asked]
  exact later

/-- If a sync reads what is refused, that was its last read. -/
theorem interrupted_of_sync {w₁ : World σ} (reads : Reads env ⟨kind, ns, name⟩ w o w₁)
    (need : o.need = .sync)
    (calls : (visit env settings kind ns name w).after.storeCalls =
      w₁.storeCalls ++ (before ++ .get key :: since))
    (refused : env.refusal (.get key) (env.afterCalls before w₁.outside) = some a) :
    (visit env settings kind ns name w).talk = [] ∧
      Interrupted env (visit env settings kind ns name w) (.get ⟨kind, ns, name⟩ :: before) key a := by
  rcases resolved : (Resolve.references env).onObject o w₁ with ⟨q, o₁, u⟩
  obtain ⟨r, w₂, b, ends, result, after⟩ := visit_ends settings reads need resolved
  obtain ⟨more, later, blind⟩ := (ends.confined rfl).blind
  have later : (visit env settings kind ns name w).after.storeCalls = u.storeCalls ++ more := by
    rw [after]
    exact later
  rw [calls] at later
  cases Resolve.references_consulted resolved with
  | answered asks =>
    rw [asks.storeCalls, List.append_assoc, List.append_cancel_left_eq] at later
    obtain ⟨head, rest, keys, rfl⟩ := reads_split blind later.symm
    cases (asks.of_split keys).symm.trans refused
  | @refused a' es keys key' u asks refusal _ halted =>
    have asked : (u.get env key').2.storeCalls = w₁.storeCalls ++ (keys ++ [key']).map .get := by
      rw [get_storeCalls, asks.storeCalls, List.append_assoc, List.map_append]
      rfl
    rw [asked, List.append_assoc, List.append_cancel_left_eq] at later
    obtain ⟨head, rest, split, rfl⟩ := reads_split blind later.symm
    rcases split_concat split with ⟨-, rfl, rfl⟩ | ⟨rest', -, split⟩
    · rw [← asks.outside, refusal] at refused
      cases refused
      have first : w₁.outside = (env.fault (.get ⟨kind, ns, name⟩) w.outside).2 := by
        obtain ⟨_, got, -⟩ := reads
        rw [← get_outside, got]
      refine interrupted_of_ends reads resolved halted ?_ ends result after
      rw [afterCalls_concat, get_outside, asks.outside, first]
      rfl
    · cases (asks.of_split split).symm.trans refused

end

/-- A read that the cluster refuses ends the pass with that error, unless the status that was come to can not
be stored either. Nothing is said to Konnect. -/
theorem failed_read (env : Environment σ) (settings : OperatorSettings) (kind : ManagedKind)
    (ns name : String) (w : World σ) {v : Visit σ} (made : visit env settings kind ns name w = v)
    {before since : List StoreCall} {key : Key} {a : ApiError}
    (calls : v.after.storeCalls = v.before.storeCalls ++ (before ++ .get key :: since))
    (refused : env.refusal (.get key) (env.afterCalls before v.before.outside) = some a) :
    v.talk = [] ∧ Interrupted env v before key a := by
  subst made
  change (visit env settings kind ns name w).after.storeCalls = w.storeCalls ++ _ at calls
  change env.refusal _ (env.afterCalls before w.outside) = _ at refused
  cases own : env.refusal (.get ⟨kind, ns, name⟩) w.outside with
  | some b => exact interrupted_of_unread settings own calls refused
  | none =>
    have first {rest : List StoreCall}
        (after : (visit env settings kind ns name w).after.storeCalls =
          (w.get env ⟨kind, ns, name⟩).2.storeCalls ++ rest) :
        ∃ before', before = .get ⟨kind, ns, name⟩ :: before' ∧ rest = before' ++ .get key :: since ∧
          env.refusal (.get key) (env.afterCalls before' (w.get env ⟨kind, ns, name⟩).2.outside) =
            some a := by
      rw [calls, get_storeCalls, List.append_assoc, List.append_cancel_left_eq] at after
      rw [get_outside]
      exact rest_of_read own after.symm refused
    by_cases syncs : ∃ o w₁, Reads env ⟨kind, ns, name⟩ w o w₁ ∧ o.need = .sync
    · obtain ⟨o, w₁, reads, need⟩ := syncs
      obtain ⟨rest, after⟩ := sync_storeCalls settings reads need
      obtain ⟨_, read, -⟩ := id reads
      rw [read] at first
      obtain ⟨before', rfl, rfl, refused⟩ := first after
      exact interrupted_of_sync reads need after refused
    · obtain ⟨more, after, blind⟩ := (visit_course env settings kind ns name w).blind
        fun o w₁ reads need => syncs ⟨o, w₁, reads, need⟩
      obtain ⟨before', -, rfl, -⟩ := first after
      exact absurd (List.mem_append_right _ List.mem_cons_self) (blind key)

section

open Scene

def blindfold : Visit Cloud :=
  visit flaky OperatorSettings.default .route "shop" "lane"
    { laying.after with outside := { laying.after.outside with refusals := [.get webKey] } }

theorem blindfold_calls : blindfold.after.storeCalls = blindfold.before.storeCalls ++
    ([.get laneKey] ++ .get webKey :: [.patchStatus laneKey]) := by decide +kernel

theorem blindfold_refused : flaky.refusal (.get webKey)
    (flaky.afterCalls [.get laneKey] blindfold.before.outside) = some Cloud.unavailable := by
  decide +kernel

/-- The pass over the route ends with the refusal, and at most forgets the id of the service. -/
theorem lane_interrupted :
    blindfold.talk = [] ∧ Interrupted flaky blindfold [.get laneKey] webKey Cloud.unavailable :=
  failed_read flaky OperatorSettings.default .route "shop" "lane" _ rfl blindfold_calls blindfold_refused

/-- It does forget it: the stored route loses the id of its parent and gets a new revision, although nothing
was learned of the service. -/
theorem unreadable_parent_forgotten :
    blindfold.result = .error (.api Cloud.unavailable) ∧
      ∃ o x, blindfold.before.store.findObject? laneKey = some o ∧
        blindfold.after.store.findObject? laneKey = some x ∧ o.need = .sync ∧
        o.parentId ≠ "" ∧ x.parentId = "" ∧
        x.metadata.resourceVersion ≠ o.metadata.resourceVersion := by
  have result : blindfold.result = .error (.api Cloud.unavailable) := failed_of_told (by decide +kernel)
  obtain ⟨o, stored, holds⟩ : ∃ o, blindfold.before.store.findObject? laneKey = some o ∧
      (blindfold.after.store.findObject? laneKey).any fun x => decide (o.need = .sync ∧
        o.parentId ≠ "" ∧ x.parentId = "" ∧ x.metadata.resourceVersion ≠ o.metadata.resourceVersion) :=
    (Option.any_eq_true _ _).mp (by decide +kernel)
  obtain ⟨x, stored', moved⟩ := (Option.any_eq_true _ _).mp holds
  exact ⟨result, o, x, stored, stored', of_decide_eq_true moved⟩

end

end Reconcile

end GatewaySync
