import Mathlib
import GatewaySync.Proofs.Cloud
import GatewaySync.Proofs.Trace
/-!
# No update is lost

The store takes a patch only for the revision that it holds. A pass knows the revision that it fetched,
or the one of its own last patch, and whoever else writes the object takes a revision that was never
taken before. So once a pass was overtaken, its next patch is refused as a conflict and is its last
act. While nobody overtakes it, all of its patches are taken.
-/
namespace GatewaySync

namespace Store

/-- Others write the object under a key at a revision that was not taken before, or leave it. -/
def Rewrites (k : Key) (s t : Store) : Prop :=
  s.revision ≤ t.revision ∧
    (t.findObject? k = s.findObject? k ∨
      ∃ o n, t.findObject? k = some o ∧ o.metadata.resourceVersion = some (toString n) ∧
        s.revision < n ∧ n ≤ t.revision)

def Dated (k : Key) (s : Store) : Prop :=
  ∀ o, s.findObject? k = some o → ∃ n ≤ s.revision, o.metadata.resourceVersion = some (toString n)

def Taken (known : Option String) (s : Store) : Prop :=
  ∃ n ≤ s.revision, known = some (toString n)

def Ahead (k : Key) (known : Option String) (s : Store) : Prop :=
  ∃ o m n, s.findObject? k = some o ∧ o.metadata.resourceVersion = some (toString n) ∧
    n ≤ s.revision ∧ known = some (toString m) ∧ m < n

def Current (k : Key) (known : Option String) (s : Store) : Prop :=
  ∃ o, s.findObject? k = some o ∧ o.metadata.resourceVersion = known

variable {k : Key} {known : Option String} {s t : Store} {given : Object}

theorem Taken.mono (h : Taken known s) (later : s.revision ≤ t.revision) : Taken known t := by
  obtain ⟨n, taken, rfl⟩ := h
  exact ⟨n, taken.trans later, rfl⟩

theorem Rewrites.ahead (h : Rewrites k s t) (changed : t.findObject? k ≠ s.findObject? k)
    (taken : Taken known s) : Ahead k known t := by
  obtain ⟨m, le, rfl⟩ := taken
  obtain ⟨-, same | ⟨o, n, found, version, fresh, made⟩⟩ := h
  · exact absurd same changed
  · exact ⟨o, m, n, found, version, made, rfl, le.trans_lt fresh⟩

theorem Ahead.rewritten (h : Ahead k known s) (others : Rewrites k s t) : Ahead k known t := by
  by_cases changed : t.findObject? k = s.findObject? k
  · obtain ⟨o, m, n, found, version, made, rfl, later⟩ := h
    exact ⟨o, m, n, changed.trans found, version, made.trans others.1, rfl, later⟩
  · obtain ⟨-, m, n, -, -, made, rfl, later⟩ := h
    exact others.ahead changed ⟨m, later.le.trans made, rfl⟩

theorem Ahead.modified (h : Ahead k known s) (key : given.key = k)
    (version : given.metadata.resourceVersion = known) :
    s.patchTarget given = .error Store.modified := by
  obtain ⟨o, m, n, found, stored, -, rfl, later⟩ := h
  have differs : o.metadata.resourceVersion ≠ given.metadata.resourceVersion := by
    rw [stored, version]
    intro same
    exact later.ne' (Nat.repr_inj.mp (Option.some.inj same))
  rw [patchTarget, key, found]
  exact if_neg differs

theorem Current.target (h : Current k known s) (key : given.key = k)
    (version : given.metadata.resourceVersion = known) :
    ∃ stored, s.patchTarget given = .ok stored := by
  obtain ⟨o, found, same⟩ := h
  exact ⟨o, patchTarget_eq_ok.mpr ⟨key ▸ found, same.trans version.symm⟩⟩

/-- Whoever writes an object by the means of the store takes a revision that was not taken before. -/
theorem rewrites_put (k : Key) (s : Store) (o : Object) : s.Rewrites k (s.put (.managed o)) := by
  refine ⟨Nat.le_succ _, ?_⟩
  rw [findObject?_put]
  split_ifs
  · exact .inr ⟨_, s.revision + 1, rfl, rfl, Nat.lt_succ_self _, le_rfl⟩
  · exact .inl rfl

end Store

variable {σ : Type}

/-- The store refuses a patch only for what it holds. Reads may still fail. -/
structure Environment.Faultless (env : Environment σ) : Prop where
  status : ∀ key x, (env.fault (.patchStatus key) x).1 = none
  metadata : ∀ key x, (env.fault (.patchMetadata key) x).1 = none

namespace Reconcile

open World

variable {env : Environment σ} {k : Key} {known : Option String} {w w' w₁ : World σ} {act : Act}
  {acts before since : List Act} {final : Option (Except SyncError Unit)} {given x : Object}

theorem patchStatus_eq (faultless : env.Faultless) (o : Object) (w : World σ) :
    w.patchStatus env o = ((w.store.patchStatus o).1.mapError .api,
      { (w.attempt env (.patchStatus o.key)).2 with store := (w.store.patchStatus o).2 }) := by
  rw [World.patchStatus, attempt_willing (faultless.status o.key w.outside)]
  rfl

theorem patchMetadata_eq (faultless : env.Faultless) (o : Object) (w : World σ) :
    w.patchMetadata env o = ((w.store.patchMetadata o).1.mapError .api,
      { (w.attempt env (.patchMetadata o.key)).2 with store := (w.store.patchMetadata o).2 }) := by
  rw [World.patchMetadata, attempt_willing (faultless.metadata o.key w.outside)]
  rfl

theorem Act.outcome_ok (faultless : env.Faultless) (patch : act.given? = some given)
    {stored : Object} (target : w.store.patchTarget given = .ok stored) :
    act.outcome env w = .ok () := by
  cases act with
  | read | ask => cases patch
  | patchStatus given =>
    cases patch
    rw [outcome, patchStatus_eq faultless, Store.patchStatus, target]
    rfl
  | patchMetadata given =>
    cases patch
    rw [outcome, patchMetadata_eq faultless, Store.patchMetadata, target]
    dsimp only
    split_ifs <;> rfl

theorem Act.outcome_error (faultless : env.Faultless) (patch : act.given? = some given)
    {e : ApiError} (target : w.store.patchTarget given = .error e) :
    act.outcome env w = .error (.api e) ∧ (act.after env w).store = w.store := by
  cases act with
  | read | ask => cases patch
  | patchStatus given =>
    cases patch
    rw [outcome, after, patchStatus_eq faultless, Store.patchStatus, target]
    exact ⟨rfl, rfl⟩
  | patchMetadata given =>
    cases patch
    rw [outcome, after, patchMetadata_eq faultless, Store.patchMetadata, target]
    exact ⟨rfl, rfl⟩

theorem Act.target_of_outcome (faultless : env.Faultless) (patch : act.given? = some given)
    (taken : act.outcome env w = .ok ()) : ∃ stored, w.store.patchTarget given = .ok stored := by
  cases target : w.store.patchTarget given with
  | ok stored => exact ⟨stored, rfl⟩
  | error e =>
    rw [(outcome_error faultless patch target).1] at taken
    cases taken

/-- The object that a metadata patch is answered with is the stored one, at the newest revision. -/
theorem store_of_written (taken : w.patchMetadata env given = (.ok (some x), w₁)) :
    w₁.store.revision = w.store.revision + 1 ∧ w₁.store.findObject? given.key = some x ∧
      x.metadata.resourceVersion = some (toString (w.store.revision + 1)) := by
  rcases patchMetadata_cases env given w with ⟨e, v, h, -⟩ | ⟨v, h, -⟩ |
    ⟨stored, v, h, -, target, store⟩ <;> rw [h] at taken
  · cases taken
  · cases taken
  · have answer := congrArg (fun r => r.1) taken
    obtain rfl : v = w₁ := congrArg (fun r => r.2) taken
    have found : v.store.findObject? given.key = some x := Except.ok.inj answer
    refine ⟨congrArg Store.revision store, found, ?_⟩
    rw [store, Store.findObject?_put, Store.metadataPatched_key, Store.key_of_patchTarget target,
      if_pos rfl] at found
    cases found
    rfl

structure Kept (env : Environment σ) (k : Key) (I : Option String → Store → Prop) : Prop where
  others : ∀ known, env.Disturbs fun s t => I known s → I known t
  written : ∀ {known given x} {w w₁ : World σ}, given.key = k → I known w.store →
    w.patchMetadata env given = (.ok (some x), w₁) → I x.metadata.resourceVersion w₁.store

theorem kept_taken (others : env.Disturbs (Store.Rewrites k)) : Kept env k Store.Taken where
  others _ call s x taken := taken.mono (others call s x).1
  written _ _ patch := by
    obtain ⟨revision, -, version⟩ := store_of_written patch
    exact ⟨_, revision.ge, version⟩

theorem kept_current (others : env.Disturbs fun s t => t.findObject? k = s.findObject? k) :
    Kept env k (Store.Current k) where
  others _ call s x current := by
    obtain ⟨o, found, version⟩ := current
    exact ⟨o, (others call s x).trans found, version⟩
  written key _ patch := ⟨_, key ▸ (store_of_written patch).2.1, rfl⟩

/-- What acts keep holds at each of them. -/
theorem Heeds.reach {I : Option String → Store → Prop} (kept : Kept env k I)
    (h : Heeds env k known w (before ++ act :: since) final w') (start : I known w.store) :
    ∃ known, I known (run env before w).store ∧
      Heeds env k known (run env before w) (act :: since) final w' := by
  induction before generalizing known w with
  | nil => exact ⟨known, start, h⟩
  | cons first before ih =>
    generalize same : first :: before ++ act :: since = acts at h
    cases h with
    | done => cases same
    | read key rest =>
      cases same
      exact ih rest (get_store env key w ▸ start)
    | ask call rest =>
      cases same
      exact ih rest (kept.others _ call _ _ start)
    | written key version taken rest =>
      cases same
      rw [run, Act.after, taken]
      exact ih rest (kept.written key start taken)
    | last => simp at same

/-- Of all acts only the last one is a patch. It is refused as a conflict, and nothing is stored. -/
def Conflicts (env : Environment σ) (w : World σ) (acts : List Act) (w' : World σ) : Prop :=
  ∃ calls patch, acts = calls ++ [patch] ∧ (∀ act ∈ calls, act.given? = none) ∧
    patch.given?.isSome ∧ patch.outcome env (run env calls w) = .error (.api Store.modified) ∧
    w'.store = (run env calls w).store

theorem Conflicts.cons (h : Conflicts env (act.after env w) acts w') (idle : act.given? = none) :
    Conflicts env w (act :: acts) w' := by
  obtain ⟨calls, patch, rfl, unpatched, rest⟩ := h
  exact ⟨act :: calls, patch, rfl, List.forall_mem_cons.mpr ⟨idle, unpatched⟩, rest⟩

/-- A pass that was overtaken has no patch left, or it ends with a conflict. -/
theorem Heeds.overtaken (faultless : env.Faultless) (others : env.Disturbs (Store.Rewrites k))
    (h : Heeds env k known w acts final w') (ahead : w.store.Ahead k known) :
    final = none ∨ final = some (.error (.api Store.modified)) ∧ Conflicts env w acts w' := by
  induction h with
  | done => exact .inl rfl
  | read key _ ih =>
    rw [← get_store env key] at ahead
    exact (ih ahead).imp_right (.imp_right fun h => h.cons rfl)
  | ask call _ ih =>
    exact (ih (ahead.rewritten (others call _ _))).imp_right (.imp_right fun h => h.cons rfl)
  | written key version taken =>
    have refused := patchMetadata_eq faultless _ _ ▸ taken
    rw [Store.patchMetadata, ahead.modified key version] at refused
    cases refused
  | last act patch key version =>
    obtain ⟨outcome, unwritten⟩ := act.outcome_error faultless patch (ahead.modified key version)
    exact .inr ⟨congrArg some outcome, [], act, rfl, by simp, by simp [patch], outcome, unwritten⟩

theorem Heeds.rest_of_ask {call : RemoteCall}
    (h : Heeds env k known w (.ask call :: since) final w') :
    Heeds env k known (w.ask env call).2 since final w' := by
  cases h with
  | ask _ rest => exact rest
  | last _ patch => cases patch

theorem Heeds.outcome_ok (faultless : env.Faultless)
    (h : Heeds env k known w (act :: since) final w') (current : w.store.Current k known) :
    act.outcome env w = .ok () := by
  cases h with
  | read | ask => rfl
  | written key version =>
    obtain ⟨stored, target⟩ := current.target key version
    exact Act.outcome_ok faultless rfl target
  | last _ patch key version =>
    obtain ⟨stored, target⟩ := current.target key version
    exact act.outcome_ok faultless patch target

def Made (env : Environment σ) (k : Key) (w : World σ) (acts : List Act) (version : Option String) :
    Prop :=
  ∃ first given rest, acts = first ++ .patchMetadata given :: rest ∧
    (Act.patchMetadata given).outcome env (run env first w) = .ok () ∧
    version = ((Act.patchMetadata given).after env (run env first w)).store.version? k

theorem Made.cons {version : Option String} (h : Made env k (act.after env w) acts version) :
    Made env k w (act :: acts) version := by
  obtain ⟨first, given, rest, rfl, made⟩ := h
  exact ⟨act :: first, given, rest, rfl, made⟩

/-- Every patch is made for the known revision or for one that the acts before it made. -/
theorem Heeds.version (h : Heeds env k known w (before ++ act :: since) final w')
    (patch : act.given? = some given) :
    given.key = k ∧ (given.metadata.resourceVersion = known ∨
      Made env k w before given.metadata.resourceVersion) := by
  induction before generalizing known w with
  | nil =>
    cases h with
    | read | ask => cases patch
    | written key version =>
      cases patch
      exact ⟨key, .inl version⟩
    | last _ own key version =>
      rw [patch] at own
      cases own
      exact ⟨key, .inl version⟩
  | cons first before ih =>
    generalize same : first :: before ++ act :: since = acts at h
    cases h with
    | done => cases same
    | read key rest =>
      cases same
      exact (ih rest).imp_right (.imp_right Made.cons)
    | ask call rest =>
      cases same
      exact (ih rest).imp_right (.imp_right Made.cons)
    | @written _ _ w₁ _ _ _ own written key version taken rest =>
      cases same
      have after : (Act.patchMetadata own).after env w = w₁ := congrArg (·.2) taken
      have outcome : (Act.patchMetadata own).outcome env w = .ok () := by
        rw [Act.outcome, taken]
        rfl
      rw [← after] at rest
      refine (ih rest).imp_right fun made => .inr ?_
      rcases made with known | made
      · refine ⟨[], own, before, rfl, outcome, ?_⟩
        rw [known, run, after, Store.version?_of_findObject? (key ▸ (store_of_written taken).2.1)]
      · exact made.cons
    | last => simp at same

structure Visit.Careful (env : Environment σ) (settings : OperatorSettings) (v : Visit σ)
    (acts : List Act) : Prop where
  /-- The visit comes to what its acts do. -/
  done : run env acts v.before = { v.after with backoff := v.before.backoff }
  /-- A patch that is taken is applied to an object at the revision that was fetched, or at one that an
  own metadata patch made. -/
  applied : ∀ before act since given, acts = before ++ act :: since → act.given? = some given →
    act.outcome env (run env before v.before) = .ok () →
    ∃ stored, (run env before v.before).store.findObject? v.key = some stored ∧
      (stored.metadata.resourceVersion = v.before.store.version? v.key ∨
        Made env v.key v.before before stored.metadata.resourceVersion)
  /-- If others rewrite the object while Konnect is called, a visit that owes a write ends with a
  conflict: it stores nothing more, is made again after a second, and no failure is counted. -/
  overtaken : env.Disturbs (Store.Rewrites v.key) → v.before.store.Dated v.key →
    Owes env v.key v.before → ∀ before call since, acts = before ++ .ask call :: since →
    ((run env before v.before).ask env call).2.store.findObject? v.key ≠
      (run env before v.before).store.findObject? v.key →
    Conflicts env ((run env before v.before).ask env call).2 since v.after ∧
      ∃ e, v.result = .error e ∧ e.isWriteConflict ∧
        onError settings v.key e v.after.backoff = (.requeue 1, v.after.backoff) ∧
        v.after.backoff = v.before.backoff
  /-- If nobody else writes the object, every patch is taken. -/
  alone : (env.Disturbs fun s t => t.findObject? v.key = s.findObject? v.key) →
    ∀ before act since, acts = before ++ act :: since →
      act.outcome env (run env before v.before) = .ok ()

/-- No visit loses an update that others make, and none is in conflict with itself. -/
theorem no_update_lost (faultless : env.Faultless) (settings : OperatorSettings) (kind : ManagedKind)
    (ns name : String) (w : World σ) :
    ∃ acts, (visit env settings kind ns name w).Careful env settings acts := by
  have course := visit_course env settings kind ns name w
  generalize made : visit env settings kind ns name w = v at course ⊢
  obtain rfl : v.before = w := made ▸ rfl
  obtain ⟨acts, final, heeds, refused, owed, stored⟩ := course.heeds
  refine ⟨acts, heeds.run_eq, ?_, ?_, ?_⟩
  · rintro before act since given rfl patch taken
    obtain ⟨key, version⟩ := heeds.version patch
    obtain ⟨stored, target⟩ := act.target_of_outcome faultless patch taken
    obtain ⟨found, same⟩ := Store.patchTarget_eq_ok.mp target
    exact ⟨stored, key ▸ found, same ▸ version⟩
  · rintro others dated owes before call since rfl changed
    have said : v.talk ≠ [] := by
      intro silent
      have logged := course.exchanges
      rw [silent, List.append_nil] at logged
      exact exchanges_of_ask call ((congrArg World.exchanges heeds.run_eq).trans logged)
    obtain ⟨o, w₁, reads, -⟩ := id owes
    obtain ⟨n, le, version⟩ := dated o reads.stored.1
    rw [Store.version?_of_findObject? reads.stored.1, version] at heeds
    obtain ⟨known, taken, rest⟩ := heeds.reach (kept_taken others) ⟨n, le, rfl⟩
    rcases rest.rest_of_ask.overtaken faultless others ((others call _ _).ahead changed taken) with
      ended | ⟨rfl, conflict⟩
    · exact absurd ended (owed said owes)
    · obtain ⟨failed, same⟩ := refused _ rfl
      exact ⟨conflict, _, failed, rfl, rfl, same⟩
  · intro alone before act since split
    rcases stored with stored | rfl
    · obtain ⟨o, found⟩ := Option.isSome_iff_exists.mp stored
      rw [split, Store.version?_of_findObject? found] at heeds
      obtain ⟨known, current, rest⟩ := heeds.reach (kept_current alone) ⟨o, found, rfl⟩
      exact rest.outcome_ok faultless current
    · have mem : act ∈ before ++ act :: since := List.mem_append_right before List.mem_cons_self
      rw [← split, List.mem_singleton] at mem
      rw [mem]
      rfl

section

open Scene

def annotated (o : Object) : Object :=
  { o with metadata := { o.metadata with
      annotations := some (("seen", "") :: o.metadata.annotations.getD []) } }

def restless : Environment Cloud :=
  Cloud.environment (fun _ x => (none, x)) fun s =>
    s.put (.managed (annotated ((s.findObject? webKey).getD web)))

theorem restless_faultless : restless.Faultless := ⟨fun _ _ => rfl, fun _ _ => rfl⟩

theorem restless_rewrites : restless.Disturbs (Store.Rewrites webKey) := fun _ s _ =>
  Store.rewrites_put webKey s _

theorem restless_changes (call : RemoteCall) (w : World Cloud) :
    (w.ask restless call).2.store.findObject? webKey ≠ w.store.findObject? webKey := by
  change (w.store.put (.managed (annotated ((w.store.findObject? webKey).getD web)))).findObject?
    webKey ≠ _
  cases found : w.store.findObject? webKey with
  | none =>
    have key : (annotated web).key = webKey := rfl
    rw [Option.getD_none, Store.findObject?_put, if_pos key]
    simp
  | some o =>
    have key : o.key = webKey := Store.key_of_findObject? found
    rw [Option.getD_some, Store.findObject?_put, if_pos (show (annotated o).key = webKey from key)]
    intro same
    have grown := congrArg (fun o => (o.metadata.annotations.getD []).length) (Option.some.inj same)
    simp [Store.written, annotated, Object.stored, Metadata.stored] at grown

theorem fresh_dated (refusals : List StoreCall) : (fresh refusals).store.Dated webKey := by
  intro o found
  obtain rfl : Store.empty.written web = o := Option.some.inj found
  exact ⟨1, le_rfl, rfl⟩

theorem restless_owes : Owes restless webKey (fresh []) := by
  have changed : (((sync restless).onObject (Store.empty.written web)
      ((fresh []).get restless webKey).2).2.1.status != none) = true := by decide +kernel
  exact ⟨Store.empty.written web, _, ⟨_, rfl, rfl⟩, .inl ⟨rfl, bne_iff_ne.mp changed⟩⟩

/-- The first pass over the service has all its patches taken if nobody else writes it. If others annotate
it meanwhile, the pass fails and is made again, and what they wrote stays. -/
theorem web_keeps_annotations :
    (∃ acts, run calm acts (fresh []) =
        { (opening calm []).after with backoff := (fresh []).backoff } ∧
      ∀ before act since given, acts = before ++ act :: since → act.given? = some given →
        ∃ stored, (run calm before (fresh [])).store.findObject? webKey = some stored ∧
          (stored.metadata.resourceVersion = some "1" ∨
            Made calm webKey (fresh []) before stored.metadata.resourceVersion)) ∧
      ∃ before call since e, run restless (before ++ .ask call :: since) (fresh []) =
          { (opening restless []).after with backoff := (fresh []).backoff } ∧
        Conflicts restless ((run restless before (fresh [])).ask restless call).2 since
          (opening restless []).after ∧
        (opening restless []).result = .error e ∧
        onError OperatorSettings.default webKey e (opening restless []).after.backoff =
          (.requeue 1, (opening restless []).after.backoff) := by
  constructor
  · have faultless : calm.Faultless := ⟨calm_writable.status, calm_writable.metadata⟩
    obtain ⟨acts, careful⟩ :=
      no_update_lost faultless OperatorSettings.default .service "shop" "web" (fresh [])
    have taken := careful.alone fun call s x =>
      congrArg (Store.findObject? · webKey) (calm_writable.undisturbed call s x)
    exact ⟨acts, careful.done, fun before act since given split patch =>
      careful.applied before act since given split patch (taken before act since split)⟩
  · obtain ⟨acts, careful⟩ :=
      no_update_lost restless_faultless OperatorSettings.default .service "shop" "web" (fresh [])
    have said : (opening restless []).after.exchanges.length ≠ 0 := by decide +kernel
    have asks : (run restless acts (fresh [])).exchanges ≠ (fresh []).exchanges := fun silent =>
      said (congrArg List.length ((congrArg World.exchanges careful.done).symm.trans silent))
    obtain ⟨before, call, since, rfl⟩ := ask_of_exchanges asks
    obtain ⟨conflict, e, failed, -, again, -⟩ := careful.overtaken restless_rewrites (fresh_dated [])
      restless_owes before call since rfl (restless_changes call _)
    exact ⟨before, call, since, e, careful.done, conflict, failed, again⟩

end

end Reconcile

end GatewaySync
