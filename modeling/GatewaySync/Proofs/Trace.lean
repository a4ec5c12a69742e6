import GatewaySync.Proofs.Persistence
/-!
# The acts of a pass, one by one

A pass acts on the world by reads, by patches of its own object, and by calls to Konnect. What it does
is the run of a list of such acts. A patch is always made for the revision that the pass knows: the one
that it fetched, or the one of its last patch that was answered with the object. A patch that is not
answered so is the last act, and if it is refused, the pass fails with the refusal.
-/
namespace GatewaySync.Reconcile

open Pass World Entity

variable {σ : Type} (env : Environment σ)

inductive Act where
  | read (key : Key)
  | patchStatus (given : Object)
  | patchMetadata (given : Object)
  | ask (call : RemoteCall)

namespace Act

def given? : Act → Option Object
  | patchStatus given => some given
  | patchMetadata given => some given
  | _ => none

def after : Act → World σ → World σ
  | read key, w => (w.get env key).2
  | patchStatus given, w => (w.patchStatus env given).2
  | patchMetadata given, w => (w.patchMetadata env given).2
  | ask call, w => (w.ask env call).2

/-- What comes of a patch. Other acts are not asked about. -/
def outcome : Act → World σ → Except SyncError Unit
  | patchStatus given, w => (w.patchStatus env given).1
  | patchMetadata given, w => (w.patchMetadata env given).1.map fun _ => ()
  | _, _ => .ok ()

end Act

def run : List Act → World σ → World σ
  | [], w => w
  | act :: acts, w => run acts (act.after env w)

/-- The acts heed the known revision of the object under a key: every patch is made for it, and the pass
goes on after a patch only with the revision of its answer. What came of the last patch is kept if the
acts end with it. -/
inductive Heeds (k : Key) :
    Option String → World σ → List Act → Option (Except SyncError Unit) → World σ → Prop
  | done (known : Option String) (w : World σ) : Heeds k known w [] none w
  | read {known : Option String} {w w' : World σ} {acts : List Act}
      {final : Option (Except SyncError Unit)} (key : Key)
      (rest : Heeds k known (w.get env key).2 acts final w') :
      Heeds k known w (.read key :: acts) final w'
  | ask {known : Option String} {w w' : World σ} {acts : List Act}
      {final : Option (Except SyncError Unit)} (call : RemoteCall)
      (rest : Heeds k known (w.ask env call).2 acts final w') :
      Heeds k known w (.ask call :: acts) final w'
  | written {known : Option String} {w w₁ w' : World σ} {acts : List Act}
      {final : Option (Except SyncError Unit)} {given written : Object} (key : given.key = k)
      (version : given.metadata.resourceVersion = known)
      (taken : w.patchMetadata env given = (.ok (some written), w₁))
      (rest : Heeds k written.metadata.resourceVersion w₁ acts final w') :
      Heeds k known w (.patchMetadata given :: acts) final w'
  | last {known : Option String} {w : World σ} {given : Object} (act : Act)
      (patch : act.given? = some given) (key : given.key = k)
      (version : given.metadata.resourceVersion = known) :
      Heeds k known w [act] (some (act.outcome env w)) (act.after env w)

theorem run_append (before since : List Act) (w : World σ) :
    run env (before ++ since) w = run env since (run env before w) := by
  induction before generalizing w with
  | nil => rfl
  | cons act before ih => exact ih _

/-- No act counts failures or forgets them. -/
theorem Act.after_backoff (act : Act) (w : World σ) : (act.after env w).backoff = w.backoff := by
  cases act with
  | read key => rcases get_cases env key w with ⟨e, h⟩ | h <;> rw [Act.after, h] <;> rfl
  | ask call => rfl
  | patchStatus given =>
    rw [Act.after, World.patchStatus]
    rcases h : w.attempt env (.patchStatus given.key) with ⟨_ | ⟨e⟩ | _, v⟩ <;>
      exact congrArg (fun r => r.2.backoff) h.symm
  | patchMetadata given =>
    rw [Act.after, World.patchMetadata]
    rcases h : w.attempt env (.patchMetadata given.key) with ⟨_ | ⟨e⟩ | _, v⟩ <;>
      exact congrArg (fun r => r.2.backoff) h.symm

theorem run_backoff (acts : List Act) (w : World σ) : (run env acts w).backoff = w.backoff := by
  induction acts generalizing w with
  | nil => rfl
  | cons act acts ih => exact (ih _).trans (act.after_backoff env w)

theorem Act.asks_or_silent (act : Act) (w : World σ) :
    (∃ call, act = .ask call) ∨ (act.after env w).exchanges = w.exchanges := by
  cases act with
  | read key => exact .inr (get_silent env key w).exchanges
  | patchStatus given => exact .inr (patchStatus_silent env given w).exchanges
  | patchMetadata given => exact .inr (patchMetadata_silent env given w).exchanges
  | ask call => exact .inl ⟨call, rfl⟩

theorem run_exchanges_le (acts : List Act) (w : World σ) :
    w.exchanges.length ≤ (run env acts w).exchanges.length := by
  induction acts generalizing w with
  | nil => exact Nat.le_refl _
  | cons act acts ih =>
    refine Nat.le_trans ?_ (ih _)
    rcases act.asks_or_silent env w with ⟨call, rfl⟩ | silent
    · simp [Act.after, ask_exchanges]
    · exact Nat.le_of_eq (congrArg List.length silent.symm)

variable {env} {k : Key} {known : Option String} {o o' m : Object} {w w' u : World σ}
  {acts before since : List Act} {final : Option (Except SyncError Unit)} {talk : List Exchange}

theorem Heeds.run_eq (h : Heeds env k known w acts final w') : run env acts w = w' := by
  induction h with
  | done => rfl
  | read _ _ ih => exact ih
  | ask _ _ ih => exact ih
  | written _ _ taken _ ih =>
    rw [run, Act.after, taken]
    exact ih
  | last => rfl

theorem Heeds.backoff (h : Heeds env k known w acts final w') : w'.backoff = w.backoff := by
  rw [← h.run_eq]
  exact run_backoff env acts w

/-- The acts are over when failures are counted or forgotten. -/
theorem Heeds.settled (h : Heeds env k known w acts final w') (b : Backoff) :
    Heeds env k known w acts final
      { ({ w' with backoff := b } : World σ) with backoff := w.backoff } := by
  rw [← h.backoff]
  exact h

theorem ask_of_exchanges (said : (run env acts w).exchanges ≠ w.exchanges) :
    ∃ before call since, acts = before ++ .ask call :: since := by
  induction acts generalizing w with
  | nil => exact absurd rfl said
  | cons act acts ih =>
    rcases act.asks_or_silent env w with ⟨call, rfl⟩ | silent
    · exact ⟨[], call, acts, rfl⟩
    · rw [run, ← silent] at said
      obtain ⟨before, call, since, rfl⟩ := ih said
      exact ⟨act :: before, call, since, rfl⟩

theorem exchanges_of_ask (call : RemoteCall) :
    (run env (before ++ .ask call :: since) w).exchanges ≠ w.exchanges := by
  intro same
  have first := run_exchanges_le env before w
  have rest := run_exchanges_le env since ((run env before w).ask env call).2
  rw [run_append, run, Act.after] at same
  rw [same, ask_exchanges, List.length_append, List.length_singleton] at rest
  omega

theorem heeds_reading (h : Reading env w w') (rest : Heeds env k known w' acts final u) :
    ∃ acts, Heeds env k known w acts final u := by
  induction h using Relation.ReflTransGen.head_induction_on with
  | refl => exact ⟨acts, rest⟩
  | head read _ ih =>
    obtain ⟨key, rfl⟩ := read
    obtain ⟨acts, heeds⟩ := ih
    exact ⟨_, .read key heeds⟩

theorem heeds_talks (h : Talks env w talk w') (rest : Heeds env k known w' acts final u) :
    ∃ acts, Heeds env k known w acts final u := by
  induction h with
  | done => exact ⟨acts, rest⟩
  | ask call _ ih =>
    obtain ⟨acts, heeds⟩ := ih rest
    exact ⟨_, .ask call heeds⟩

theorem heeds_persistStatus {fetched : Option Status} {s : Except SyncError Unit}
    (h : (persistStatus env fetched).onObject o w = (s, o', w')) (key : o.key = k)
    (version : o.metadata.resourceVersion = known) :
    ∃ acts final, Heeds env k known w acts final w' ∧
      (final = some s ∨ final = none ∧ o.status = fetched) := by
  rw [onObject_persistStatus] at h
  split_ifs at h with changed <;> cases h
  · exact ⟨_, _, .last (.patchStatus o) rfl key version, .inl rfl⟩
  · exact ⟨[], none, .done known w, .inr ⟨rfl, Decidable.not_not.mp changed⟩⟩

theorem guarded_resourceVersion (o : Object) :
    (guarded o).metadata.resourceVersion = o.metadata.resourceVersion := by
  rw [guarded, Metadata.withCleanup_eq]

theorem heeds_unprepared {fetched : Metadata} {b : Except SyncError Bool}
    (h : (persistMetadata env fetched).onObject o w = (b, o', w')) (unprepared : b ≠ .ok true)
    (key : o.key = k) (version : o.metadata.resourceVersion = known) :
    ∃ acts, Heeds env k known w acts (some (b.map fun _ => ())) w' := by
  have patch : Heeds env k known w [.patchMetadata (guarded o)] _ _ :=
    .last (.patchMetadata (guarded o)) rfl ((guarded_key o).trans key)
      ((guarded_resourceVersion o).trans version)
  rw [Act.outcome, Act.after] at patch
  rw [onObject_persistMetadata] at h
  split_ifs at h
  · rcases hp : w.patchMetadata env (guarded o) with ⟨e | _ | written, v⟩ <;> rw [hp] at h patch <;>
      cases h
    · exact ⟨_, patch⟩
    · exact ⟨_, patch⟩
    · exact absurd rfl unprepared
  · cases h
    exact absurd rfl unprepared

/-- With finalizer and owner stored, the pass goes on with the revision that they were stored at. -/
theorem heeds_prepared {fetched : Metadata}
    (h : (persistMetadata env fetched).onObject o w = (.ok true, o', w')) (key : o.key = k)
    (version : o.metadata.resourceVersion = known)
    (rest : Heeds env k o'.metadata.resourceVersion w' acts final u) :
    ∃ acts, Heeds env k known w acts final u := by
  rw [onObject_persistMetadata] at h
  split_ifs at h
  · rcases hp : w.patchMetadata env (guarded o) with ⟨e | _ | written, v⟩ <;> rw [hp] at h <;> cases h
    exact ⟨_, .written ((guarded_key o).trans key) ((guarded_resourceVersion o).trans version) hp rest⟩
  · cases h
    rw [guarded_resourceVersion, version] at rest
    exact ⟨acts, rest⟩

/-- A sync fails if its last patch does. After a talk it has no last patch only if it comes to the status
that was fetched. -/
theorem Syncing.heeds {r : Except SyncError Outcome} (h : Syncing env o w talk r m w')
    (key : o.key = k) :
    ∃ acts final, Heeds env k o.metadata.resourceVersion w acts final w' ∧
      (∀ e, final = some (.error e) → r = .error e) ∧
      (talk ≠ [] → final = none → m.status = o.status) := by
  cases h with
  | unready resolved _ noted kept =>
    have leaves := Resolve.leaves_of_references resolved
    have version : m.metadata.resourceVersion = o.metadata.resourceVersion := by
      rw [noted.metadata, leaves.metadata]
    obtain ⟨acts, final, heeds, stored⟩ :=
      heeds_persistStatus kept (noted.key.trans (leaves.key.trans key)) version
    obtain ⟨acts, heeds⟩ := heeds_reading leaves.reads heeds
    refine ⟨acts, final, heeds, fun e refused => ?_, fun said => absurd rfl said⟩
    rcases stored with rfl | ⟨rfl, -⟩ <;> cases refused
    rfl
  | unprepared resolved prepared =>
    have leaves := Resolve.leaves_of_references resolved
    obtain ⟨acts, heeds⟩ := heeds_unprepared prepared (by simp) (leaves.key.trans key)
      (congrArg Metadata.resourceVersion leaves.metadata)
    obtain ⟨acts, heeds⟩ := heeds_reading leaves.reads heeds
    refine ⟨acts, _, heeds, fun e refused => ?_, fun said => absurd rfl said⟩
    cases refused
    rfl
  | gone resolved prepared =>
    have leaves := Resolve.leaves_of_references resolved
    obtain ⟨acts, heeds⟩ := heeds_unprepared prepared (by simp) (leaves.key.trans key)
      (congrArg Metadata.resourceVersion leaves.metadata)
    obtain ⟨acts, heeds⟩ := heeds_reading leaves.reads heeds
    exact ⟨acts, _, heeds, by simp [Except.map], fun said => absurd rfl said⟩
  | spoken resolved prepared _ talks learns _ kept =>
    have leaves := Resolve.leaves_of_references resolved
    have same := prepared_of_resolved resolved prepared
    obtain ⟨acts, final, heeds, stored⟩ := heeds_persistStatus kept
      (learns.key.trans (same.key.trans key)) (congrArg Metadata.resourceVersion learns.metadata)
    obtain ⟨acts, heeds⟩ := heeds_talks talks heeds
    obtain ⟨acts, heeds⟩ := heeds_prepared prepared (leaves.key.trans key)
      (congrArg Metadata.resourceVersion leaves.metadata) heeds
    obtain ⟨acts, heeds⟩ := heeds_reading leaves.reads heeds
    refine ⟨acts, final, heeds, fun e refused => ?_, fun _ unwritten => ?_⟩
    · rcases stored with rfl | ⟨rfl, -⟩ <;> cases refused
      rfl
    · rcases stored with rfl | ⟨-, unchanged⟩
      · cases unwritten
      · exact unchanged

/-- A cleanup fails if its last patch does. It has no last patch only if the entity could not be
deleted. -/
theorem Cleaning.heeds {r : Except SyncError Unit} (h : Cleaning env o w talk r w')
    (key : o.key = k) :
    ∃ acts final, Heeds env k o.metadata.resourceVersion w acts final w' ∧
      (∀ e, final = some (.error e) → r = .error e) ∧
      (final = none → ((delete env).onObject o w).1 ≠ .ok ()) := by
  cases h with
  | pathless known path =>
    refine ⟨[], none, .done _ w, by simp, fun _ => ?_⟩
    rw [onObject_delete_pathless env known path]
    simp
  | refused known path spoken talks =>
    obtain ⟨acts, heeds⟩ := heeds_talks talks (.done o.metadata.resourceVersion w')
    refine ⟨acts, none, heeds, by simp, fun _ => ?_⟩
    cases spoken with
    | refused there =>
      obtain ⟨answered, -⟩ := talks.said
      rw [onObject_delete env known path]
      rcases h : w.ask env (.delete _ o.konnectId) with ⟨answer, v⟩
      rw [h] at answered
      cases answered
      simp [there]
  | @released _ v _ talks =>
    have patch : Heeds env k o.metadata.resourceVersion v [.patchMetadata (Reconcile.released o)] _ _ :=
      .last (.patchMetadata (Reconcile.released o)) rfl key rfl
    obtain ⟨acts, heeds⟩ := heeds_talks talks patch
    exact ⟨acts, _, heeds, fun e refused => Option.some.inj refused, by simp⟩

/-- What is done with an object that was read heeds the revision that is stored. -/
theorem Reads.heeds {w₁ : World σ} (h : Reads env k w o w₁)
    (rest : Heeds env k o.metadata.resourceVersion w₁ acts final w') :
    Heeds env k (w.store.version? k) w (.read k :: acts) final w' := by
  rw [Store.version?_of_findObject? h.stored.1]
  obtain ⟨found, read, -⟩ := h
  refine .read k ?_
  rw [read]
  exact rest

/-- When a pass from here is done with Konnect, it has something left to write: a status that is not the
one that it fetched, or the release of the finalizer. -/
def Owes (env : Environment σ) (k : Key) (w : World σ) : Prop :=
  ∃ o w₁, Reads env k w o w₁ ∧
    (o.need = .sync ∧ ((sync env).onObject o w₁).2.1.status ≠ o.status ∨
      o.need = .cleanup ∧ ((delete env).onObject o w₁).1 = .ok ())

/-- Every pass heeds the revision that it finds, fails if its last patch does, and has a last patch if it
owes one. Failures are counted afterwards. -/
theorem Course.heeds {settings : OperatorSettings} {r : Except SyncError Action}
    (h : Course env settings k w talk r w') :
    ∃ acts final, Heeds env k (w.store.version? k) w acts final { w' with backoff := w.backoff } ∧
      (∀ e, final = some (.error e) → r = .error e ∧ w'.backoff = w.backoff) ∧
      (talk ≠ [] → Owes env k w → final ≠ none) ∧
      ((w.store.findObject? k).isSome ∨ acts = [.read k]) := by
  have silent {found : Except SyncError (Option Resource)} {v : World σ}
      (read : w.get env k = (found, v)) : Heeds env k (w.store.version? k) w [.read k] none v := by
    refine .read k ?_
    rw [read]
    exact .done _ v
  cases h with
  | unread read =>
    exact ⟨_, none, (silent read).settled w'.backoff, by simp, fun said => absurd rfl said, .inr rfl⟩
  | idle b read =>
    exact ⟨_, none, (silent read).settled b, by simp, fun said => absurd rfl said, .inr rfl⟩
  | cleaned b reads need course failed =>
    obtain ⟨acts, final, heeds, refused, owed⟩ := course.heeds reads.key
    have heeds := reads.heeds heeds
    refine ⟨_, final, heeds.settled b, fun e same => ?_, ?_, .inl (by rw [reads.stored.1]; rfl)⟩
    · obtain rfl := refused e same
      exact ⟨rfl, (failed e rfl).trans heeds.backoff⟩
    · rintro - ⟨o', v, reads', owes⟩ unwritten
      obtain ⟨rfl, rfl⟩ := reads.unique reads'
      rcases owes with ⟨sync, -⟩ | ⟨-, deleted⟩
      · cases need.symm.trans sync
      · exact owed unwritten deleted
  | synced b reads need course failed ends =>
    obtain ⟨acts, final, heeds, refused, owed⟩ := course.heeds reads.key
    have heeds := reads.heeds heeds
    refine ⟨_, final, heeds.settled b, fun e same => ?_, ?_, .inl (by rw [reads.stored.1]; rfl)⟩
    · obtain rfl := refused e same
      exact ⟨rfl, (failed e rfl).trans heeds.backoff⟩
    · rintro said ⟨o', v, reads', owes⟩ unwritten
      obtain ⟨rfl, rfl⟩ := reads.unique reads'
      rcases owes with ⟨-, changed⟩ | ⟨cleanup, -⟩
      · rw [ends said] at changed
        exact changed (owed said unwritten)
      · cases need.symm.trans cleanup

end GatewaySync.Reconcile
