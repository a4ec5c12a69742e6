import GatewaySync.Proofs.Confinement
import GatewaySync.Proofs.Twins
/-!
# Passes in step

Two passes over one object in stores that hold the same under the keys that the object names do the same step
by step, and make twins of the object. They may differ only in the very last step: a status is stored if it
changed, and that may turn on a clock that shows a time which is stored already.
-/
namespace GatewaySync

open Object (slots)

variable {σ : Type}

def StoreCall.read? : StoreCall → Option Key
  | get key => some key
  | _ => none

def Store.Keeps (sees : Key → Prop) (s t : Store) : Prop := ∀ key, sees key → t.find? key = s.find? key

def Environment.TakesStatus (env : Environment σ) : Prop :=
  ∀ key x, env.refusal (.patchStatus key) x = none

theorem Store.Keeps.findObject? {sees : Key → Prop} {s t : Store} (h : s.Keeps sees t) {k : Key} (mine : sees k) :
    t.findObject? k = s.findObject? k := by
  rw [findObject?_eq, findObject?_eq, h k mine]

namespace Tandem

open Pass World Entity

variable {env : Environment σ} {kind : ManagedKind} {sees : Key → Prop} {k : Key} {u u' : World σ}
  {f f' g g' o x x' m m' : Object} {w w' v v' : World σ} {clocks : Prop}

/-- Since two worlds the same was said to Konnect and answered alike, while the stores were twins. -/
def SaidAlike (sees : Key → Prop) (k : Key) (u u' w w' : World σ) : Prop :=
  ∃ talk talk', w.exchanges = u.exchanges ++ talk ∧ w'.exchanges = u'.exchanges ++ talk' ∧
    talk.Forall₂ (Exchange.Twin (Store.Twin sees k u.now u'.now)) talk'

theorem SaidAlike.ask (said : SaidAlike sees k u u' w w')
    (stores : Store.Twin sees k u.now u'.now w.store w'.store) {call : RemoteCall}
    (answered : (w'.ask env call).1 = (w.ask env call).1) :
    SaidAlike sees k u u' (w.ask env call).2 (w'.ask env call).2 := by
  obtain ⟨talk, talk', here, there, twins⟩ := said
  refine ⟨talk ++ [⟨w.store, call, (w.ask env call).1⟩], talk' ++ [⟨w'.store, call, (w.ask env call).1⟩],
    ?_, ?_, List.rel_append twins (.cons (.mk call _ stores) .nil)⟩
  · rw [ask_exchanges, here, List.append_assoc]
  · rw [ask_exchanges, there, answered, List.append_assoc]

theorem SaidAlike.symm (said : SaidAlike sees k u u' w w') : SaidAlike sees k u' u w' w := by
  obtain ⟨talk, talk', here, there, twins⟩ := said
  exact ⟨talk', talk, there, here, twins.flip.imp fun _ _ twin => twin.symm fun _ _ => Store.Twin.symm⟩

/-- Besides, the same was asked of the cluster. Each store holds the object under the key in a given state. -/
structure Abreast (sees : Key → Prop) (k : Key) (u u' : World σ) (f f' : Object) (w w' : World σ) : Prop where
  outside : w'.outside = w.outside
  calls : ∃ calls, w.storeCalls = u.storeCalls ++ calls ∧ w'.storeCalls = u'.storeCalls ++ calls
  talk : SaidAlike sees k u u' w w'
  own : w.store.findObject? k = some f
  own' : w'.store.findObject? k = some f'

/-- Runs over the object under a key that see the same besides it. -/
def inStep (env : Environment σ) (kind : ManagedKind) (sees : Key → Prop) (k : Key) (u u' : World σ)
    (f f' : Object) : Tandem env env kind where
  now := u.now
  now' := u'.now
  sees key := sees key ∧ key ≠ k
  near := Abreast sees k u u' f f'
  fails _ := False
  fails' _ := False
  drift call w w' near := by
    obtain ⟨calls, here, there⟩ := near.calls
    refine ⟨?_, ⟨calls ++ [call], ?_, ?_⟩, near.talk, near.own, near.own'⟩
    · change (env.fault call w'.outside).2 = (env.fault call w.outside).2
      rw [near.outside]
    · change w.storeCalls ++ [call] = _
      rw [here, List.append_assoc]
    · change w'.storeCalls ++ [call] = _
      rw [there, List.append_assoc]
  reads key w w' near := .inr (.inr (by rw [near.outside]))

/-- What two runs come to since two worlds. What they read is the same, and all their calls are if the clocks
do not matter. -/
structure Parted (sees : Key → Prop) (k : Key) (u u' : World σ) (clocks : Prop) (w w' : World σ) : Prop where
  calls : ∃ calls calls', w.storeCalls = u.storeCalls ++ calls ∧ w'.storeCalls = u'.storeCalls ++ calls' ∧
    calls'.filterMap StoreCall.read? = calls.filterMap StoreCall.read? ∧ (clocks → calls' = calls)
  talk : SaidAlike sees k u u' w w'
  store : Store.Twin sees k u.now u'.now w.store w'.store

theorem Parted.symm (h : Parted sees k u u' clocks w w') : Parted sees k u' u clocks w' w where
  calls := by
    obtain ⟨calls, calls', here, there, reads, same⟩ := h.calls
    exact ⟨calls', calls, there, here, reads.symm, fun clocks => (same clocks).symm⟩
  talk := h.talk.symm
  store := h.store.symm

section

variable (beside : (inStep env kind sees k u u' f f').Beside w w')

include beside

theorem Beside.symm : (inStep env kind sees k u' u f' f).Beside w' w where
  store key seen := (beside.store key seen).symm
  near := by
    obtain ⟨calls, here, there⟩ := beside.near.calls
    exact ⟨beside.near.outside.symm, ⟨calls, there, here⟩, beside.near.talk.symm, beside.near.own',
      beside.near.own⟩
  now := beside.now'
  now' := beside.now

theorem Beside.twin (twin : f.Twin u.now u'.now f') : Store.Twin sees k u.now u'.now w.store w'.store where
  own := by
    rw [beside.near.own, beside.near.own']
    exact .kept twin.stored
  others key seen other := beside.store key ⟨seen, other⟩

theorem Beside.parted (twin : f.Twin u.now u'.now f') : Parted sees k u u' clocks w w' where
  calls := by
    obtain ⟨calls, here, there⟩ := beside.near.calls
    exact ⟨calls, calls, here, there, rfl, fun _ => rfl⟩
  talk := beside.near.talk
  store := beside.twin twin

theorem Beside.attempt (call : StoreCall) :
    (inStep env kind sees k u u' f f').Beside (w.attempt env call).2 (w'.attempt env call).2 :=
  ⟨beside.store, (inStep env kind sees k u u' f f').drift call w w' beside.near, beside.now, beside.now'⟩

theorem Beside.put (key : x.key = k) (key' : x'.key = k) :
    (inStep env kind sees k u u' (w.store.written x) (w'.store.written x')).Beside
      { w with store := w.store.put (.managed x) } { w' with store := w'.store.put (.managed x') } where
  store key seen := by
    have elsewhere {s : Store} {y : Object} (own : y.key = k) :
        (s.put (.managed y)).find? key = s.find? key := by
      rw [Store.find?_put]
      exact if_neg fun same => seen.2 (same.symm.trans own)
    exact (elsewhere key').trans ((beside.store key seen).trans (elsewhere ‹_›).symm)
  near := by
    refine ⟨beside.near.outside, beside.near.calls, beside.near.talk, ?_, ?_⟩
    · exact (Store.findObject?_put _ _ _).trans (if_pos key)
    · exact (Store.findObject?_put _ _ _).trans (if_pos key')
  now := beside.now
  now' := beside.now'

theorem Beside.erase : Parted sees k u u' clocks { w with store := w.store.erase k }
    { w' with store := w'.store.erase k } where
  calls := by
    obtain ⟨calls, here, there⟩ := beside.near.calls
    exact ⟨calls, calls, here, there, rfl, fun _ => rfl⟩
  talk := beside.near.talk
  store := by
    refine ⟨?_, fun key seen other => ?_⟩
    · rw [Store.findObject?_erase, if_pos rfl, Store.findObject?_erase, if_pos rfl]
      exact .gone
    · rw [Store.find?_erase, Store.find?_erase, if_neg other.symm, if_neg other.symm]
      exact beside.store key ⟨seen, other⟩

end

theorem inStep_asks (aloof : env.Aloof) (others : env.Disturbs (Store.Keeps sees)) (mine : sees k)
    (twin : f.Twin u.now u'.now f') : (inStep env kind sees k u u' f f').Asks where
  sure _ := id
  sure' _ := id
  answers call w w' beside := by
    have near := beside.near
    have disturbed : (env.disturb call w'.store w'.outside).2 = (env.disturb call w.store w.outside).2 := by
      rw [near.outside]
      exact aloof call _ _ _
    have answered : (w'.ask env call).1 = (w.ask env call).1 := by
      change (env.answer call (env.disturb call w'.store w'.outside).2).1 = _
      rw [disturbed]
      rfl
    have kept (y : World σ) : y.store.Keeps sees (y.ask env call).2.store := others call y.store y.outside
    refine ⟨answered, fun key seen => ?_, ⟨?_, near.calls, near.talk.ask (beside.twin twin) answered, ?_, ?_⟩,
      beside.now, beside.now'⟩
    · rw [kept w' key seen.1, kept w key seen.1]
      exact beside.store key seen
    · change (env.answer call (env.disturb call w'.store w'.outside).2).2 = _
      rw [disturbed]
      rfl
    · rw [(kept w).findObject? mine, near.own]
    · rw [(kept w').findObject? mine, near.own']

/-- What comes of metadata patches that are made in step: both are refused, or the object goes away, or it is
written in both stores. -/
inductive Patched (env : Environment σ) (kind : ManagedKind) (sees : Key → Prop) (k : Key) (u u' : World σ)
    (f f' : Object) : Except SyncError (Option Object) → Except SyncError (Option Object) →
      World σ → World σ → Prop
  | refused {e : SyncError} {v v' : World σ} (parted : ∀ clocks, Parted sees k u u' clocks v v') :
      Patched env kind sees k u u' f f' (.error e) (.error e) v v'
  | gone {v v' : World σ} (parted : ∀ clocks, Parted sees k u u' clocks v v') :
      Patched env kind sees k u u' f f' (.ok none) (.ok none) v v'
  | written {g g' : Object} {v v' : World σ} (twin : g.Twin u.now u'.now g') (status : g.status = f.status)
      (status' : g'.status = f'.status) (beside : (inStep env kind sees k u u' g g').Beside v v') :
      Patched env kind sees k u u' f f' (.ok (some g)) (.ok (some g')) v v'

section

variable (beside : (inStep env kind sees k u u' f f').Beside w w') (twin : f.Twin u.now u'.now f')
  (given : x.Twin u.now u'.now x') (key : x.key = k)
  (version : f.metadata.resourceVersion = x.metadata.resourceVersion)
  (version' : f'.metadata.resourceVersion = x'.metadata.resourceVersion)

include beside given key version version'

theorem Beside.targets : w.store.patchTarget x = .ok f ∧ w'.store.patchTarget x' = .ok f' := by
  refine ⟨Store.patchTarget_eq_ok.mpr ⟨?_, version⟩, Store.patchTarget_eq_ok.mpr ⟨?_, version'⟩⟩
  · rw [key]
    exact beside.near.own
  · rw [given.key, key]
    exact beside.near.own'

include twin

theorem patchMetadata_inStep :
    Patched env kind sees k u u' f f' (w.patchMetadata env x).1 (w'.patchMetadata env x').1
      (w.patchMetadata env x).2 (w'.patchMetadata env x').2 := by
  obtain ⟨target, target'⟩ := beside.targets given key version version'
  have attempted := beside.attempt (.patchMetadata x.key)
  have patched := patchMetadata_of_target env target
  have patched' := patchMetadata_of_target env target'
  have last : (f'.metadata.isDeleting ∧ x'.metadata.finalizerList = []) =
      (f.metadata.isDeleting ∧ x.metadata.finalizerList = []) := by
    rw [twin.metadata, given.metadata]
    rfl
  rw [given.key, beside.near.outside] at patched'
  simp only [last] at patched'
  rw [patched, patched']
  cases (env.fault (.patchMetadata x.key) w.outside).1 with
  | some fault =>
    cases fault with
    | refuse e => exact .refused fun _ => attempted.parted twin
    | vanish =>
      rw [key] at attempted ⊢
      exact .gone fun _ => attempted.erase
  | none =>
    split_ifs
    · rw [key] at attempted ⊢
      exact .gone fun _ => attempted.erase
    · refine .written ((twin.metadataPatched given).written _ _) rfl rfl (attempted.put ?_ ?_)
      · exact (Store.key_of_patchTarget target).trans key
      · exact (Store.key_of_patchTarget target').trans (given.key.trans key)

theorem patchStatus_inStep :
    (w'.patchStatus env x').1 = (w.patchStatus env x).1 ∧
      ∀ clocks, Parted sees k u u' clocks (w.patchStatus env x).2 (w'.patchStatus env x').2 := by
  obtain ⟨target, target'⟩ := beside.targets given key version version'
  have attempted := beside.attempt (.patchStatus x.key)
  have patched := patchStatus_of_target env target
  have patched' := patchStatus_of_target env target'
  rw [given.key, beside.near.outside] at patched'
  rw [patched, patched']
  cases env.refusal (.patchStatus x.key) w.outside with
  | some e => exact ⟨rfl, fun _ => attempted.parted twin⟩
  | none =>
    have own : (Store.statusPatched f x).key = k := (Store.key_of_patchTarget target).trans key
    have own' : (Store.statusPatched f' x').key = k :=
      (Store.key_of_patchTarget target').trans (given.key.trans key)
    exact ⟨rfl, fun _ => (attempted.put own own').parted ((twin.statusPatched given).written _ _)⟩

end

end Tandem

namespace Reconcile

open Pass World Entity Tandem

variable {env : Environment σ} {kind : ManagedKind} {sees : Key → Prop} {k : Key} {u u' : World σ}
  {f f' o x x' m m' : Object} {w w' v v' : World σ}

/-- How objects come out of being prepared in step: the pass ends there, or what is held are twins, at the
revisions that the objects at hand are at. -/
inductive Poised (env : Environment σ) (kind : ManagedKind) (sees : Key → Prop) (k : Key) (u u' : World σ)
    (o : Object) : Except SyncError Bool → Object → Object → World σ → World σ → Prop
  | parted {b : Except SyncError Bool} {m m' : Object} {v v' : World σ} (unprepared : b ≠ .ok true)
      (parted : ∀ clocks, Parted sees k u u' clocks v v') : Poised env kind sees k u u' o b m m' v v'
  | poised {g g' m m' : Object} {v v' : World σ} (twin : g.Twin u.now u'.now g')
      (status : g.status = o.status) (status' : g'.status = o.status)
      (version : g.metadata.resourceVersion = m.metadata.resourceVersion)
      (version' : g'.metadata.resourceVersion = m'.metadata.resourceVersion)
      (alike : m.Twin u.now u'.now m') (beside : (inStep env kind sees k u u' g g').Beside v v') :
      Poised env kind sees k u u' o (.ok true) m m' v v'

theorem persistMetadata_inStep (fetched : Metadata)
    (beside : (inStep env kind sees k u u' o o).Beside w w') (given : x.Twin u.now u'.now x')
    (key : x.key = k) (version : o.metadata.resourceVersion = x.metadata.resourceVersion)
    (version' : o.metadata.resourceVersion = x'.metadata.resourceVersion) :
    ∃ b m m' v v', (persistMetadata env fetched).onObject x w = (b, m, v) ∧
      (persistMetadata env fetched).onObject x' w' = (b, m', v') ∧
        Poised env kind sees k u u' o b m m' v v' := by
  have kept (y : Object) : (guarded y).metadata.resourceVersion = y.metadata.resourceVersion := by
    rw [guarded, Metadata.withCleanup_eq]
  have needed : (!x'.metadata.hasCleanup || x'.metadata.ownerList ≠ fetched.ownerList : Bool) =
      (!x.metadata.hasCleanup || x.metadata.ownerList ≠ fetched.ownerList : Bool) := by
    rw [given.metadata]
    rfl
  have run := onObject_persistMetadata env fetched x w
  have run' := onObject_persistMetadata env fetched x' w'
  rw [needed] at run'
  rw [run, run']
  split_ifs
  · have patched := patchMetadata_inStep beside (.refl _ _ o) (twin_guarded given) ((guarded_key x).trans key)
      (version.trans (kept x).symm) (version'.trans (kept x').symm)
    rcases hp : w.patchMetadata env (guarded x) with ⟨r, v⟩
    rcases hp' : w'.patchMetadata env (guarded x') with ⟨r', v'⟩
    rw [hp, hp'] at patched
    cases patched with
    | refused parted => exact ⟨_, _, _, _, _, rfl, rfl, .parted (by simp) parted⟩
    | gone parted => exact ⟨_, _, _, _, _, rfl, rfl, .parted (by simp) parted⟩
    | written twin status status' beside =>
      exact ⟨_, _, _, _, _, rfl, rfl,
        .poised twin status status' rfl rfl (twin_atRevision (twin_guarded given) _ _) beside⟩
  · exact ⟨_, _, _, _, _, rfl, rfl, .poised (.refl _ _ o) rfl rfl (version.trans (kept x).symm)
      (version'.trans (kept x').symm) (twin_guarded given) beside⟩

/-- Of a status that is stored in one run only the store tells no more than the other one does. -/
theorem held_of_statusPatched {t t' : Instant} {s : Store} (twin : f.Twin t t' f') (given : m.Twin t t' m')
    (same : m'.status = f'.status) (lasting : f.status.isSome → m.status.isSome) :
    Object.Held t t' (some (s.written (Store.statusPatched f m))) (some f') := by
  have status : m.status.or f.status = m.status := by
    cases here : m.status with
    | some _ => rfl
    | none =>
      rw [here] at lasting
      simpa using lasting
  refine .kept (given.congr ?_ ?_ ?_ ?_)
  · exact status
  · exact same.symm
  · rw [Store.written, Object.stored_stored]
    exact congrArg Spec.stored twin.spec
  · rw [Store.written, Object.stored_stored]
    exact congrArg Metadata.stored twin.metadata

/-- A status that is stored in one run only, while the clocks do tell the runs apart. -/
theorem patchStatus_alone (apart : ¬ clocks) (beside : (inStep env kind sees k u u' f f').Beside w w')
    (twin : f.Twin u.now u'.now f') (given : m.Twin u.now u'.now m') (key : m.key = k)
    (version : f.metadata.resourceVersion = m.metadata.resourceVersion) (same : m'.status = f'.status)
    (lasting : f.status.isSome → m.status.isSome) :
    Parted sees k u u' clocks (w.patchStatus env m).2 w' ∧
      (env.TakesStatus → (w.patchStatus env m).1 = .ok ()) := by
  have target : w.store.patchTarget m = .ok f :=
    Store.patchTarget_eq_ok.mpr ⟨key ▸ beside.near.own, version⟩
  have calls : ∃ calls calls', w.storeCalls ++ [.patchStatus m.key] = u.storeCalls ++ calls ∧
      w'.storeCalls = u'.storeCalls ++ calls' ∧
        calls'.filterMap StoreCall.read? = calls.filterMap StoreCall.read? ∧ (clocks → calls' = calls) := by
    obtain ⟨calls, here, there⟩ := beside.near.calls
    refine ⟨calls ++ [.patchStatus m.key], calls, ?_, there, by simp [StoreCall.read?], (absurd · apart)⟩
    rw [here, List.append_assoc]
  have patched := patchStatus_of_target env target
  cases refusal : env.refusal (.patchStatus m.key) w.outside with
  | some e =>
    rw [refusal] at patched
    rw [patched]
    refine ⟨⟨calls, beside.near.talk, beside.twin twin⟩, fun takes => ?_⟩
    rw [takes] at refusal
    cases refusal
  | none =>
    have own : (Store.statusPatched f m).key = k := (Store.key_of_patchTarget target).trans key
    rw [refusal] at patched
    rw [patched]
    refine ⟨⟨calls, beside.near.talk, ⟨?_, fun key' seen other => ?_⟩⟩, fun _ => rfl⟩
    · rw [Store.findObject?_put, if_pos own, beside.near.own']
      exact held_of_statusPatched twin given same lasting
    · rw [Store.find?_put]
      exact (beside.store key' ⟨seen, other⟩).trans (if_neg fun same => other (same.symm.trans own)).symm

/-- What was noted on twins is stored alike, unless the clocks tell the runs apart. Then only one of them may
store it, and be refused to. -/
theorem persistStatus_inStep (beside : (inStep env kind sees k u u' f f').Beside w w')
    (twin : f.Twin u.now u'.now f') (status : f.status = o.status) (status' : f'.status = o.status)
    (given : m.Twin u.now u'.now m') (key : m.key = k)
    (version : f.metadata.resourceVersion = m.metadata.resourceVersion)
    (version' : f'.metadata.resourceVersion = m'.metadata.resourceVersion)
    (lasting : o.status.isSome → m.status.isSome) :
    ∃ s s' v v', (persistStatus env o.status).onObject m w = (s, m, v) ∧
      (persistStatus env o.status).onObject m' w' = (s', m', v') ∧
        Parted sees k u u' (o.ClocksAgree u.now u'.now) v v' ∧
          (o.ClocksAgree u.now u'.now ∨ env.TakesStatus → s' = s) := by
  rw [onObject_persistStatus, onObject_persistStatus]
  by_cases still : m.status = o.status <;> by_cases still' : m'.status = o.status
  · rw [if_neg (not_not.mpr still), if_neg (not_not.mpr still')]
    exact ⟨_, _, _, _, rfl, rfl, beside.parted twin, fun _ => rfl⟩
  · have apart : ¬ o.ClocksAgree u.now u'.now := fun clocks => still' ((given.moved_iff clocks).mpr still)
    obtain ⟨parted, taken⟩ := patchStatus_alone apart
      beside.symm twin.symm given.symm (given.key.trans key) version' (still.trans status.symm)
      fun there => given.there ▸ lasting (status' ▸ there)
    rw [if_neg (not_not.mpr still), if_pos still']
    exact ⟨_, _, _, _, rfl, rfl, parted.symm, fun firm => taken (firm.resolve_left apart)⟩
  · have apart : ¬ o.ClocksAgree u.now u'.now := fun clocks => still ((given.moved_iff clocks).mp still')
    obtain ⟨parted, taken⟩ := patchStatus_alone apart beside twin given key version
      (still'.trans status'.symm) fun there => lasting (status ▸ there)
    rw [if_pos still, if_neg (not_not.mpr still')]
    exact ⟨_, _, _, _, rfl, rfl, parted, fun firm => (taken (firm.resolve_left apart)).symm⟩
  · obtain ⟨same, parted⟩ := patchStatus_inStep beside twin given key version version'
    rw [if_pos still, if_pos still']
    exact ⟨_, _, _, _, rfl, rfl, parted _, fun _ => same⟩

/-- Entities of twins are written alike, and the same is noted of it. -/
theorem writeEntity_inStep (asks : (inStep env kind sees k u u' f f').Asks)
    (beside : (inStep env kind sees k u u' f f').Beside w w') (given : x.Twin u.now u'.now x')
    (fetched : Option Status) :
    ∃ r es v v', (inStep env kind sees k u u' f f').Beside v v' ∧ (x.edited u.now es).status.isSome ∧
      (writeEntity env fetched).onObject x w =
        (persistStatus env fetched >>= fun _ => Pass.ofExcept r).onObject (x.edited u.now es) v ∧
      (writeEntity env fetched).onObject x' w' =
        (persistStatus env fetched >>= fun _ => Pass.ofExcept r).onObject (x'.edited u'.now es) v' := by
  have noted (es : List Edit) (v : Verdict) : (x.edited u.now (es ++ [.note v])).status.isSome := by
    rw [edited_note]
    rfl
  cases write_agree asks beside given.alike with
  | left _ excused => exact absurd excused (asks.sure _)
  | right _ excused => exact absurd excused (asks.sure' _)
  | @both r es v v' run run' beside =>
    have ends := onObject_writeEntity env run fetched
    have ends' := onObject_writeEntity env run' fetched
    cases r with
    | error e =>
      have verdict : unprogrammed x' e = unprogrammed x e := by
        simp only [unprogrammed, given.alike.id]
      dsimp only at ends ends'
      rw [beside.now] at ends
      rw [beside.now', verdict] at ends'
      refine ⟨.error e, es ++ [.note (unprogrammed x e)], v, v', beside, noted _ _, ?_, ?_⟩
      · rw [edited_note]
        exact ends
      · rw [edited_note]
        exact ends'
    | ok _ =>
      obtain ⟨same, after⟩ := asks.answers .organizationId v v' beside
      dsimp only at ends ends'
      rw [beside.now] at ends
      rw [beside.now', same] at ends'
      refine ⟨.ok (), es ++ origin env.serverUrl (v.ask env .organizationId).1 ++ [.note upToDate], _, _, after,
        noted _ _, ?_, ?_⟩
      · rw [edited_note, Object.edited_append, ← located_eq]
        exact ends
      · rw [edited_note, Object.edited_append, ← located_eq]
        exact ends'

theorem cleanup_inStep (asks : (inStep env kind sees k u u' o o).Asks)
    (beside : (inStep env kind sees k u u' o o).Beside w w') (own : o.key = k) :
    ∃ r m m' v v', (cleanup env).onObject o w = (r, m, v) ∧ (cleanup env).onObject o w' = (r, m', v') ∧
      ∀ clocks, Parted sees k u u' clocks v v' := by
  have ending {v v' : World σ} (deleted : (delete env).onObject o w = (.ok (), o, v))
      (deleted' : (delete env).onObject o w' = (.ok (), o, v'))
      (beside : (inStep env kind sees k u u' o o).Beside v v') :
      ∃ r m m' v v', (cleanup env).onObject o w = (r, m, v) ∧ (cleanup env).onObject o w' = (r, m', v') ∧
        ∀ clocks, Parted sees k u u' clocks v v' := by
    rw [onObject_release env deleted, onObject_release env deleted']
    have patched := patchMetadata_inStep beside (.refl _ _ o) (twin_released (.refl _ _ o)) own rfl rfl
    rcases hp : v.patchMetadata env (released o) with ⟨r, z⟩
    rcases hp' : v'.patchMetadata env (released o) with ⟨r', z'⟩
    rw [hp, hp'] at patched
    cases patched with
    | refused parted => exact ⟨_, _, _, _, _, rfl, rfl, parted⟩
    | gone parted => exact ⟨_, _, _, _, _, rfl, rfl, parted⟩
    | written twin _ _ beside => exact ⟨_, _, _, _, _, rfl, rfl, fun _ => beside.parted twin⟩
  by_cases known : o.konnectId = ""
  · exact ending (onObject_delete_unknown env known w) (onObject_delete_unknown env known w') beside
  · cases path : o.path .delete with
    | error e =>
      exact ⟨_, _, _, _, _, onObject_bind_error (onObject_delete_pathless env known path w),
        onObject_bind_error (onObject_delete_pathless env known path w'), fun _ => beside.parted (.refl _ _ o)⟩
    | ok p =>
      have deleted := onObject_delete env known path w
      have deleted' := onObject_delete env known path w'
      obtain ⟨same, after⟩ := asks.answers (.delete p o.konnectId) w w' beside
      rcases h : w.ask env (.delete p o.konnectId) with ⟨answer, v⟩
      rcases h' : w'.ask env (.delete p o.konnectId) with ⟨answer', v'⟩
      rw [h, h'] at same after
      change answer' = answer at same
      rw [h] at deleted
      rw [h', same] at deleted'
      rcases answer with e | _
      · by_cases lost : e.isNotFound = true
        · simp only [lost, if_true] at deleted deleted'
          exact ending deleted deleted' after
        · simp only [lost, Bool.false_eq_true, if_false] at deleted deleted'
          exact ⟨_, _, _, _, _, onObject_bind_error deleted, onObject_bind_error deleted',
            fun _ => after.parted (.refl _ _ o)⟩
      · exact ending deleted deleted' after

/-- The references of one object are resolved alike, and what becomes of it after that are twins. -/
theorem sync_inStep (aloof : env.Aloof) (others : env.Disturbs (Store.Keeps sees)) (mine : sees k)
    (own : o.key = k) (seen : ∀ key, o.Near key → sees key)
    (beside : (inStep env o.kind sees k u u' o o).Beside w w') :
    ∃ r r' m m' v v', (sync env).onObject o w = (r, m, v) ∧ (sync env).onObject o w' = (r', m', v') ∧
      Parted sees k u u' (o.ClocksAgree u.now u'.now) v v' ∧
        (o.ClocksAgree u.now u'.now ∨ env.TakesStatus → r' = r) := by
  have resembles : (inStep env o.kind sees k u u' o o).Resembles o o := ⟨rfl, rfl, rfl, rfl, .inl .rfl⟩
  have sighted (key : Key) (near : o.Near key) : (inStep env o.kind sees k u u' o o).sees key :=
    ⟨seen key near, fun same => near.kind_ne (same ▸ congrArg Key.kind own.symm)⟩
  cases references_resolved resembles beside sighted with
  | left _ excused => exact excused.elim
  | right _ excused => exact excused.elim
  | @unready q es v v' unready run run' beside =>
    have edited := (Object.Twin.refl u.now u'.now o).edited (es ++ notice q)
    rw [Object.edited_append, Object.edited_append] at edited
    obtain ⟨s, s', z, z', kept, kept', parted, same⟩ := persistStatus_inStep beside (.refl _ _ o) rfl rfl edited
      (((o.edited u.now es).edited_key _ _).trans ((o.edited_key _ _).trans own))
      (by simp only [Object.edited_metadata]) (by simp only [Object.edited_metadata])
      (fun there => Object.edited_isSome (Object.edited_isSome there _ _) _ _)
    have clock : v.now = u.now := beside.now
    have clock' : v'.now = u'.now := beside.now'
    have kept : (persistStatus env o.status).onObject ((o.edited u.now es).edited v.now (notice q)) v =
        (s, (o.edited u.now es).edited u.now (notice q), z) := by rw [clock, kept]
    have kept' : (persistStatus env o.status).onObject ((o.edited u'.now es).edited v'.now (notice q)) v' =
        (s', (o.edited u'.now es).edited u'.now (notice q), z') := by rw [clock', kept']
    exact ⟨_, _, _, _, z, z', sync_of_unready run unready kept, sync_of_unready run' unready kept', parted,
      fun firm => by rw [same firm]⟩
  | @ready es desired v v' run run' beside =>
    have twin := ((Object.Twin.refl u.now u'.now o).edited es).ownedBy desired
    have version (t : Instant) : o.metadata.resourceVersion =
        ((o.edited t es).ownedBy desired).metadata.resourceVersion := by
      rw [Object.ownedBy_metadata, Object.edited_metadata]
    obtain ⟨b, x, x', z, z', prepared, prepared', poised⟩ := persistMetadata_inStep o.metadata beside twin
      (by rw [Object.ownedBy_key, Object.edited_key, own]) (version _) (version _)
    cases poised with
    | parted unprepared parted =>
      exact ⟨_, _, _, _, z, z', sync_of_unprepared run prepared unprepared,
        sync_of_unprepared run' prepared' unprepared, parted _, fun _ => rfl⟩
    | poised held status status' version version' alike beside =>
      obtain ⟨r, ds, y, y', beside, there, wrote, wrote'⟩ :=
        writeEntity_inStep (inStep_asks aloof others mine held) beside alike o.status
      have key : x.key = k := by
        rw [persistMetadata_key prepared, Object.ownedBy_key, Object.edited_key, own]
      obtain ⟨s, s', z, z', kept, kept', parted, same⟩ := persistStatus_inStep beside held status status'
        (alike.edited ds) ((x.edited_key _ _).trans key) (by rw [Object.edited_metadata, version])
        (by rw [Object.edited_metadata, version']) fun _ => there
      exact ⟨_, _, _, _, z, z', sync_of_prepared run prepared (wrote.trans (onObject_bind_ofExcept kept r)),
        sync_of_prepared run' prepared' (wrote'.trans (onObject_bind_ofExcept kept' r)), parted,
        fun firm => by rw [same firm]⟩

namespace Visit

def reads (v : Visit σ) : List Key := v.calls.filterMap StoreCall.read?

/-- The visits read the same, say the same to Konnect and are answered alike. At every call and in the end the
stores hold the same under the keys of a sort, but for twins under the key that is visited. -/
structure Twin (sees : Key → Prop) (v v' : Visit σ) : Prop where
  reads : v'.reads = v.reads
  talk : v.talk.Forall₂ (Exchange.Twin (Store.Twin sees v.key v.before.now v'.before.now)) v'.talk
  store : Store.Twin sees v.key v.before.now v'.before.now v.after.store v'.after.store

theorem twin_of_parted {v v' : Visit σ} {z z' : World σ} {b b' : Backoff} {clocks : Prop}
    (after : v.after = { z with backoff := b }) (after' : v'.after = { z' with backoff := b' })
    (parted : Parted sees v.key v.before v'.before clocks z z') :
    v.Twin sees v' ∧ (clocks → v'.calls = v.calls) := by
  obtain ⟨calls, calls', here, there, reads, same⟩ := parted.calls
  obtain ⟨talk, talk', spoken, spoken', twins⟩ := parted.talk
  have said : v.calls = calls := calls_of_append ((congrArg World.storeCalls after).trans here)
  have said' : v'.calls = calls' := calls_of_append ((congrArg World.storeCalls after').trans there)
  refine ⟨⟨?_, ?_, ?_⟩, fun clocks => ?_⟩
  · rw [Visit.reads, Visit.reads, said, said', reads]
  · rw [talk_of_append ((congrArg World.exchanges after).trans spoken),
      talk_of_append ((congrArg World.exchanges after').trans spoken')]
    exact twins
  · rw [after, after']
    exact parted.store
  · rw [said, said', same clocks]

end Visit

section

variable (outside : w'.outside = w.outside) (same : w.store.Keeps sees w'.store) (mine : sees k)

include outside same mine

theorem fetched_inStep (env : Environment σ) : w'.fetched env k = w.fetched env k := by
  rw [World.fetched, World.fetched, outside, same k mine]

omit outside in
theorem parted_of_get (env : Environment σ) :
    Parted sees k w w' True (w.attempt env (.get k)).2 (w'.attempt env (.get k)).2 where
  calls := ⟨[.get k], [.get k], rfl, rfl, rfl, fun _ => rfl⟩
  talk := ⟨[], [], (List.append_nil _).symm, (List.append_nil _).symm, .nil⟩
  store := by
    refine ⟨?_, fun key seen _ => same key seen⟩
    rw [attempt_store, attempt_store, same.findObject? mine]
    exact Object.held_self _ _ _

theorem beside_of_get (env : Environment σ) (stored : w.store.findObject? k = some o) :
    (inStep env o.kind sees k w w' o o).Beside (w.attempt env (.get k)).2 (w'.attempt env (.get k)).2 where
  store key seen := same key seen.1
  near := by
    refine ⟨?_, ⟨[.get k], rfl, rfl⟩, (parted_of_get same mine env).talk, stored, ?_⟩
    · change (env.fault _ w'.outside).2 = (env.fault _ w.outside).2
      rw [outside]
    · exact (same.findObject? mine).trans stored
  now := rfl
  now' := rfl

end

/-- The times that are stored under a key do not tell two clock readings apart. -/
def ClocksAgree (s : Store) (k : Key) (t t' : Instant) : Prop :=
  ∀ o, s.findObject? k = some o → o.ClocksAgree t t'

/-- Passes over one object, in worlds that hold the same as far as they may read and that answer alike, are
twins. If the clocks do not matter, they ask the same of the cluster; and then, or if the cluster takes every
status, they come to the same. -/
theorem visit_inStep (settings : OperatorSettings) {kind : ManagedKind} {ns name : String} (aloof : env.Aloof)
    (others : env.Disturbs (Store.Keeps sees)) (outside : w'.outside = w.outside)
    (same : w.store.Keeps sees w'.store) (seen : ∀ key, Legible w.store ⟨kind, ns, name⟩ key → sees key)
    {a a' : Visit σ} (made : visit env settings kind ns name w = a)
    (made' : visit env settings kind ns name w' = a') :
    a.Twin sees a' ∧ (ClocksAgree w.store ⟨kind, ns, name⟩ w.now w'.now → a'.calls = a.calls) ∧
      (ClocksAgree w.store ⟨kind, ns, name⟩ w.now w'.now ∨ env.TakesStatus → a'.result = a.result) := by
  have mine : sees ⟨kind, ns, name⟩ := seen _ (.inl rfl)
  have read := get_eq_fetched env ⟨kind, ns, name⟩ w
  have read' := get_eq_fetched env ⟨kind, ns, name⟩ w'
  rw [fetched_inStep outside same mine] at read'
  subst made made'
  generalize w.fetched env ⟨kind, ns, name⟩ = r at read read'
  by_cases idle : ∀ found o, r = .ok found → found.bind Resource.object? = some o → o.need = .nothing
  · obtain ⟨result, b, after⟩ := visit_of_idle settings read idle
    obtain ⟨result', b', after'⟩ := visit_of_idle settings read' idle
    obtain ⟨twin, calls⟩ := Visit.twin_of_parted after after' (parted_of_get same mine env)
    exact ⟨twin, fun _ => calls trivial, fun _ => by rw [result, result']⟩
  · push Not at idle
    obtain ⟨found, o, rfl, fetched, busy⟩ := idle
    have reads : Reads env ⟨kind, ns, name⟩ w o _ := ⟨found, read, fetched⟩
    have reads' : Reads env ⟨kind, ns, name⟩ w' o _ := ⟨found, read', fetched⟩
    have stored := reads.stored.1
    have beside := beside_of_get outside same mine env stored
    cases need : o.need with
    | nothing => exact absurd need busy
    | cleanup =>
      obtain ⟨r, m, m', v, v', run, run', parted⟩ :=
        cleanup_inStep (inStep_asks aloof others mine (.refl _ _ o)) beside reads.key
      obtain ⟨result, b, after⟩ := visit_of_cleanup settings reads need run
      obtain ⟨result', b', after'⟩ := visit_of_cleanup settings reads' need run'
      obtain ⟨twin, calls⟩ := Visit.twin_of_parted after after' (parted True)
      exact ⟨twin, fun _ => calls trivial, fun _ => by rw [result, result']⟩
    | sync =>
      obtain ⟨r, r', m, m', v, v', run, run', parted, stays⟩ := sync_inStep aloof others mine reads.key
        (fun key near => seen key (.inr ⟨o, stored, near⟩)) beside
      obtain ⟨result, b, after⟩ := visit_of_sync settings reads need run
      obtain ⟨result', b', after'⟩ := visit_of_sync settings reads' need run'
      obtain ⟨twin, calls⟩ := Visit.twin_of_parted after after' parted
      refine ⟨twin, fun clocks => calls (clocks o stored), fun firm => ?_⟩
      rw [result, result', stays (firm.imp_left fun clocks => clocks o stored)]

end Reconcile

end GatewaySync
