import GatewaySync.Proofs.Cloud
import GatewaySync.Proofs.Confinement
import GatewaySync.Proofs.Transitions
import GatewaySync.Sync.Watch
/-!
# Who has to be woken up

A resolution and a watch read the same reference apart from each other. Whatever a resolution looks up is
named by the object, in its own namespace, and every name that is followed there is one that the watch on its
kind compares. So an object that waits for a missing target is woken once the target is there.
-/
namespace GatewaySync

variable {σ α β : Type} {env : Environment σ}

def Key.place (k : Key) : String := k.ns ++ "/" ++ k.name

/-- What is missing or being deleted, by kind and place. -/
def SyncError.lost? : SyncError → Option (String × String)
  | refNotFound kind place => some (kind, place)
  | refBeingDeleted kind place => some (kind, place)
  | _ => none

/-- The error says that what the key names is missing, or is being deleted. -/
def SyncError.Blames (e : SyncError) (key : Key) : Prop := e.lost? = some (key.kind.name, key.place)

theorem SyncError.lost?_of_isOperational {e : SyncError} (h : e.isOperational) : e.lost? = none := by
  cases e <;> first | rfl | cases h

theorem Reconcile.onError_of_blames {e : SyncError} {lost : Key} (h : e.Blames lost)
    (settings : OperatorSettings) (key : Key) (b : Backoff) :
    onError settings key e b = (.awaitChange, b) := by
  cases e <;> first | rfl | cases h

namespace Watch

/-- Whoever the watch on the kind of a resource wakes when the resource changes. -/
def woken (changed : Resource) (candidates : List Object) : List Object :=
  match changed with
  | .plugin p => bindingsOf p.metadata candidates
  | .managed o =>
    match o.kind with
    | .controlPlane => inControlPlane o.metadata candidates
    | kind => linkedTo kind o.metadata candidates

def NamesTarget (c : Object) (kind : Kind) (name : String) : Prop :=
  match kind with
  | .plugin => ∃ s, c.spec = .pluginBinding s ∧ s.plugin = name
  | .managed .controlPlane => ∃ ns, c.spec.controlPlaneRef = some (.object name ns)
  | .managed kind => ∃ ns, c.linkTo kind = some (.object name ns)

variable {c : Object} {changed : Resource} {candidates : List Object}

theorem mem_wokenBy {m : Metadata} {refersTo : Object → String → Bool} :
    c ∈ wokenBy m refersTo candidates ↔
      c ∈ candidates ∧ c.metadata.ns = m.ns ∧ refersTo c m.nameText := by
  simp [wokenBy]

theorem named_iff {r : Option Reference} {name : String} :
    (match r with
      | some (.object n _) => decide (n = name)
      | _ => false) = true ↔ ∃ ns, r = some (.object name ns) := by
  rcases r with _ | _ | _ <;> simp

theorem inControlPlaneNamed_iff {name : String} :
    inControlPlaneNamed c name ↔ ∃ ns, c.spec.controlPlaneRef = some (.object name ns) :=
  named_iff

theorem linksTo_iff {kind : ManagedKind} {name : String} :
    c.linksTo kind name ↔ ∃ ns, c.linkTo kind = some (.object name ns) := named_iff

theorem appliesPluginNamed_iff {name : String} :
    appliesPluginNamed c name ↔ ∃ s, c.spec = .pluginBinding s ∧ s.plugin = name := by
  unfold appliesPluginNamed
  split <;> simp_all

/-- A watch wakes exactly those that live next to what changed and refer to it by its name. -/
theorem mem_woken : c ∈ woken changed candidates ↔
    c ∈ candidates ∧ c.metadata.ns = changed.metadata.ns ∧
      NamesTarget c changed.kind changed.metadata.nameText := by
  rcases changed with o | p
  · simp only [woken, Resource.kind, Resource.metadata]
    cases o.kind <;>
      simp only [NamesTarget, inControlPlane, linkedTo, mem_wokenBy, inControlPlaneNamed_iff, linksTo_iff]
  · simp only [woken, bindingsOf, mem_wokenBy, appliesPluginNamed_iff]
    rfl

theorem woken_sublist (changed : Resource) (candidates : List Object) :
    (woken changed candidates).Sublist candidates := by
  rcases changed with o | p
  · simp only [woken]
    split <;> exact List.filter_sublist
  · exact List.filter_sublist

/-- Whatever an object names lives next to it, and is named in the way that the watch on its kind looks for. -/
theorem namesTarget_of_named {key : Key} (h : key ∈ c.named) : NamesTarget c key.kind key.name := by
  rcases List.mem_append.mp h with there | there
  · rcases List.mem_append.mp there with there | there
    · unfold Object.applied at there
      split at there <;> simp at there
      rename_i s spec
      rw [there]
      exact ⟨s, spec, rfl⟩
    · obtain ⟨kind, linked, leads⟩ := List.mem_filterMap.mp there
      obtain ⟨ref, link, leads⟩ := Option.bind_eq_some_iff.mp leads
      cases ref with
      | konnectId id => cases leads
      | object name ns =>
        cases leads
        have other : kind ≠ .controlPlane := by
          rintro rfl
          cases own : c.kind <;> rw [own] at linked <;>
            simp [ManagedKind.linkedKinds, ManagedKind.parentKind?] at linked
        cases kind with
        | controlPlane => exact absurd rfl other
        | _ => exact ⟨ns, link⟩
  · obtain ⟨ref, held, leads⟩ := Option.bind_eq_some_iff.mp (Option.mem_toList.mp there)
    cases ref with
    | konnectId id => cases leads
    | object name ns =>
      cases leads
      exact ⟨ns, held⟩

/-- Whoever names a resource that lives next to it is woken by it. -/
theorem mem_woken_of_near (near : c.Near changed.key) (placed : c.metadata.ns.isSome)
    (placed' : changed.metadata.ns.isSome) (candidate : c ∈ candidates) : c ∈ woken changed candidates := by
  obtain ⟨named, beside⟩ := near
  obtain ⟨ns, here⟩ := Option.isSome_iff_exists.mp placed
  obtain ⟨ns', there⟩ := Option.isSome_iff_exists.mp placed'
  have key : changed.key = ⟨changed.kind, changed.metadata.namespaceText, changed.metadata.nameText⟩ := by
    cases changed <;> rfl
  rw [key] at named beside
  have same : ns' = ns := by
    simpa [Metadata.namespaceText, here, there] using beside
  refine mem_woken.mpr ⟨candidate, ?_, namesTarget_of_named named⟩
  rw [here, there, same]

end Watch

namespace Resolve

open Pass World

/-- What the cluster is asked for when the references of an object are resolved. -/
def calls (env : Environment σ) (c : Object) (w : World σ) : List StoreCall :=
  ((references env).onObject c w).2.2.storeCalls.drop w.storeCalls.length

theorem near_of_mem_calls {c : Object} {w : World σ} {key : Key} (h : .get key ∈ calls env c w) :
    c.Near key := by
  rcases run : (references env).onObject c w with ⟨q, c', w'⟩
  obtain ⟨asked, said, within⟩ := (Reconcile.references_confined run key).calls
  rw [calls, run] at h
  dsimp only at h
  rw [said, List.drop_left] at h
  exact within _ h

/-- If the action fails for want of a target, that target was read, by the action or before it. -/
def Accounts (seen : List StoreCall) (p : Pass σ α) : Prop :=
  ∀ o w, ∃ calls, (p.onObject o w).2.2.storeCalls = w.storeCalls ++ calls ∧
    ∀ e x, (p.onObject o w).1 = .error e → e.lost? = some x →
      ∃ key, .get key ∈ seen ++ calls ∧ e.Blames key

section

variable {seen : List StoreCall} {p : Pass σ α} {f : α → Pass σ β}

theorem accounts_of_quiet (quiet : ∀ o w, (p.onObject o w).2.2.storeCalls = w.storeCalls)
    (fails : FailsWith (fun e => e.lost? = none ∨ ∃ key, .get key ∈ seen ∧ e.Blames key) p) :
    Accounts seen p := by
  intro o w
  refine ⟨[], by rw [quiet, List.append_nil], fun e x failed lost => ?_⟩
  rcases fails o w e failed with none | blamed
  · rw [none] at lost
    cases lost
  · rwa [List.append_nil]

theorem accounts_pure (a : α) : Accounts seen (pure a : Pass σ α) :=
  accounts_of_quiet (fun _ _ => rfl) (failsWith_pure a)

theorem accounts_object : Accounts seen (object : Pass σ Object) :=
  accounts_of_quiet (fun _ _ => rfl) failsWith_object

theorem accounts_modifyObject (f : Object → Object) : Accounts seen (modifyObject f : Pass σ Unit) :=
  accounts_of_quiet (fun _ _ => rfl) (failsWith_modifyObject f)

theorem accounts_record (v : Verdict) : Accounts seen (record v : Pass σ Unit) :=
  accounts_of_quiet (fun _ _ => rfl) (failsWith_record v)

theorem accounts_throw {e : SyncError} (h : e.lost? = none) : Accounts seen (throw e : Pass σ α) :=
  accounts_of_quiet (fun _ _ => rfl) (failsWith_throw (.inl h))

theorem Accounts.bind (hp : Accounts seen p) (hf : ∀ a, Accounts seen (f a)) : Accounts seen (p >>= f) := by
  intro o w
  obtain ⟨calls, said, blames⟩ := hp o w
  rcases run : p.onObject o w with ⟨e | a, o', w'⟩ <;> rw [run] at said blames
  · rw [onObject_bind_error run]
    exact ⟨calls, said, fun e' x failed lost => by cases failed; exact blames e x rfl lost⟩
  · obtain ⟨more, said', blames'⟩ := hf a o' w'
    rw [onObject_bind_ok run]
    refine ⟨calls ++ more, by rw [said', said, List.append_assoc], fun e x failed lost => ?_⟩
    obtain ⟨key, mem, tells⟩ := blames' e x failed lost
    refine ⟨key, ?_, tells⟩
    simp only [List.mem_append] at mem ⊢
    exact mem.imp_right .inr

theorem accounts_get (key : Key) {f : Option Resource → Pass σ β}
    (hf : ∀ found, Accounts (.get key :: seen) (f found)) :
    Accounts seen (tryWorld (World.get env key) >>= f) := by
  intro o w
  have run := onObject_tryWorld (World.get env key) o w
  have said := get_storeCalls env key w
  rcases read : w.get env key with ⟨e | found, w'⟩ <;> rw [read] at run said
  · rw [onObject_bind_error run]
    refine ⟨_, said, fun e' x failed lost => ?_⟩
    rcases get_cases env key w with ⟨a, refused⟩ | answered
    · rw [read] at refused
      cases refused
      cases failed
      cases lost
    · rw [read] at answered
      cases answered
  · rw [onObject_bind_ok run]
    obtain ⟨more, said', blames⟩ := hf found o w'
    refine ⟨.get key :: more, by rw [said', said, List.append_assoc]; rfl, fun e x failed lost => ?_⟩
    obtain ⟨key', mem, tells⟩ := blames e x failed lost
    refine ⟨key', ?_, tells⟩
    simp only [List.mem_append, List.mem_cons] at mem ⊢
    tauto

theorem accounts_refuse (condition reason : String) {e : SyncError}
    (h : e.lost? = none ∨ ∃ key, .get key ∈ seen ∧ e.Blames key) :
    Accounts seen (refuse condition reason e : Pass σ α) :=
  (accounts_record _).bind fun _ => accounts_of_quiet (fun _ _ => rfl) (failsWith_throw h)

variable (env)

theorem lookup_accounts (condition : String) (kind : ManagedKind) (name : String) (ns : Option String) :
    Accounts seen (lookup env condition kind name ns) := by
  refine accounts_object.bind fun o => ?_
  dsimp only
  split
  · exact accounts_refuse _ _ (.inl rfl)
  · refine accounts_get _ fun found => ?_
    split
    · exact accounts_refuse _ _ (.inr ⟨_, List.mem_cons_self, rfl⟩)
    · exact accounts_refuse _ _ (.inr ⟨_, List.mem_cons_self, rfl⟩)
    · exact (accounts_record _).bind fun _ => accounts_pure _
    · exact accounts_pure _

theorem lookupOrForget_accounts (forget : Object → Object) (condition : String) (kind : ManagedKind)
    (name : String) (ns : Option String) :
    Accounts seen (lookupOrForget env forget condition kind name ns) := by
  intro o w
  have found : Accounts seen (lookup env condition kind name ns) := lookup_accounts env condition kind name ns
  obtain ⟨calls, said, blames⟩ := found o w
  rcases run : (lookup env condition kind name ns).onObject o w with ⟨r, o', w'⟩
  rw [run] at said blames
  rw [onObject_lookupOrForget forget run]
  rcases r with e | _ | target <;> exact ⟨calls, said, blames⟩

theorem parent_accounts (kind : ManagedKind) : Accounts seen (parent env kind) := by
  have settled (id : String) (q : Resolution) : Accounts seen (do
      Pass.modifyObject (·.withParentId id)
      Pass.record (.valid kind.linkCondition)
      return q : Pass σ Resolution) :=
    (accounts_modifyObject _).bind fun _ => (accounts_record _).bind fun _ => accounts_pure _
  refine accounts_object.bind fun o => ?_
  dsimp only
  split
  · exact settled _ _
  · exact settled _ _
  · refine (lookupOrForget_accounts env _ _ _ _ _).bind fun found => ?_
    cases found with
    | none => exact accounts_pure _
    | some target => exact settled _ _

theorem plugin_accounts (ns name : String) : Accounts seen (plugin env ns name) := by
  refine accounts_get _ fun found => ?_
  split
  · split
    · exact accounts_refuse _ _ (.inr ⟨_, List.mem_cons_self, rfl⟩)
    · exact (accounts_record _).bind fun _ => accounts_pure _
  · exact accounts_refuse _ _ (.inr ⟨_, List.mem_cons_self, rfl⟩)

theorem target_accounts (kind : ManagedKind) (name : Option String) :
    Accounts seen (target env kind name) := by
  cases name with
  | none => exact accounts_pure _
  | some name =>
    refine (lookup_accounts env _ _ _ _).bind fun found => ?_
    cases found with
    | none => exact accounts_pure _
    | some found => exact (accounts_record _).bind fun _ => accounts_pure _

theorem binding_accounts (s : PluginBindingSpec) : Accounts seen (binding env s) := by
  refine (accounts_modifyObject _).bind fun _ => accounts_object.bind fun o => ?_
  refine (plugin_accounts env _ _).bind fun applied => ?_
  refine (target_accounts env _ _).bind fun service => ?_
  refine (target_accounts env _ _).bind fun route => ?_
  refine (target_accounts env _ _).bind fun consumer => ?_
  dsimp only
  split
  · exact accounts_pure _
  · split
    · exact accounts_refuse _ _ (.inl rfl)
    · exact (accounts_modifyObject _).bind fun _ => accounts_pure _

theorem parentOf_accounts : Accounts seen (parentOf env) := by
  refine accounts_object.bind fun o => ?_
  split
  · exact binding_accounts env _
  · exact parent_accounts env _
  · exact accounts_pure _

theorem controlPlane_accounts (inherited : Option String) : Accounts seen (controlPlane env inherited) := by
  refine accounts_object.bind fun o => ?_
  dsimp only
  split
  · exact accounts_pure _
  · split
    · exact (accounts_modifyObject _).bind fun _ => accounts_pure _
    · exact (accounts_modifyObject _).bind fun _ => accounts_throw rfl
    · exact (accounts_modifyObject _).bind fun _ => (accounts_record _).bind fun _ => accounts_pure _
    · refine (lookupOrForget_accounts env _ _ _ _ _).bind fun found => ?_
      cases found with
      | none => exact accounts_pure _
      | some found =>
        exact (accounts_modifyObject _).bind fun _ => (accounts_record _).bind fun _ => accounts_pure _

theorem finish_accounts (parentOwner controlPlaneOwner : Option OwnerReference) (inherited : Option String) :
    Accounts seen (references.finish parentOwner controlPlaneOwner inherited : Pass σ Readiness) := by
  have last : Accounts seen (do
      own (parentOwner.or controlPlaneOwner)
      return .ready : Pass σ Readiness) := (accounts_modifyObject _).bind fun _ => accounts_pure _
  refine accounts_object.bind fun o => ?_
  cases inherited with
  | none => exact last
  | some id =>
    dsimp only
    split
    · have differs : Accounts seen (mismatch id : Pass σ PUnit) :=
        accounts_object.bind fun o => accounts_refuse _ _ (.inl rfl)
      exact differs.bind fun _ => last
    · exact last

/-- Whenever references fail for want of a target, the target was looked up. -/
theorem references_accounts : Accounts [] (references env) := by
  have left (owner : Option OwnerReference) (inherited : Option String) :
      Accounts [] (references.viaControlPlane env owner inherited) := by
    refine (controlPlane_accounts env _).bind fun q => ?_
    cases q with
    | notReady => exact accounts_pure _
    | unset => exact finish_accounts _ _ _
    | resolved owner id => exact finish_accounts _ _ _
  refine (parentOf_accounts env).bind fun q => ?_
  cases q with
  | notReady => exact accounts_pure _
  | unset => exact left _ _
  | resolved owner id => exact left _ _

end

end Resolve

namespace Reconcile

open Pass World Entity

variable {o m : Object} {w w₂ : World σ}

theorem persistStatus_failsWith (fetched : Option Status) :
    FailsWith (fun e => e.lost? = none) (persistStatus env fetched) := by
  intro o w e failed
  rcases run : (persistStatus env fetched).onObject o w with ⟨r, o', w'⟩
  rw [run] at failed
  cases failed
  obtain ⟨a, rfl⟩ := (persistStatus_failed run).2
  rfl

theorem writeEntity_failsWith (fetched : Option Status) :
    FailsWith (fun e => e.lost? = none) (writeEntity env fetched) := by
  intro o w e failed
  rcases run : (write env o.konnectId).onObject o w with ⟨r, o', w'⟩
  rw [onObject_writeEntity env run] at failed
  cases r with
  | error e' =>
    have other : e'.lost? = none :=
      SyncError.lost?_of_isOperational (write_failsWith env o.konnectId o w e' (by rw [run]))
    exact ((persistStatus_failsWith fetched).bind fun _ => failsWith_throw other) _ _ e failed
  | ok _ => exact ((persistStatus_failsWith fetched).bind fun _ => failsWith_pure _) _ _ e failed

theorem cleanup_failsWith : FailsWith (fun e => e.lost? = none) (cleanup env) := by
  have deleted : FailsWith (fun e => e.lost? = none) (Entity.delete env) := fun o w e failed =>
    SyncError.lost?_of_isOperational (delete_failsWith env o w e failed)
  refine deleted.bind fun _ => (failsWith_modifyObject _).bind fun _ => failsWith_object.bind fun o => ?_
  refine (failsWith_tryWorld fun w e failed => ?_).bind fun _ => failsWith_pure _
  rcases patchMetadata_cases env o w with ⟨a, v, run, -⟩ | ⟨v, run, -⟩ | ⟨g, v, run, -⟩ <;>
    rw [run] at failed <;> cases failed
  rfl

/-- A sync that fails for want of a target found that out from its references, and the status tells of it. -/
theorem sync_of_lost {e : SyncError} {x : String × String}
    (run : (sync env).onObject o w = (.error e, m, w₂)) (lost : e.lost? = some x) :
    ∃ o₁ v, (Resolve.references env).onObject o w = (.error e, o₁, v) ∧
      (persistStatus env o.status).onObject (o₁.edited v.now (notice (.error e))) v =
        (.ok (), o₁.edited v.now (notice (.error e)), w₂) := by
  have never {e' : SyncError} (other : e'.lost? = none) (same : e' = e) : False := by
    rw [same, lost] at other
    cases other
  rcases resolved : (Resolve.references env).onObject o w with ⟨q, o₁, v⟩
  by_cases ready : q = .ok .ready
  · subst ready
    rcases prepared : (persistMetadata env o.metadata).onObject o₁ v with ⟨e' | _ | _, o₂, v₂⟩
    · cases run.symm.trans (sync_of_unprepared resolved prepared (by simp))
      obtain ⟨a, rfl⟩ := (persistMetadata_failed prepared).2
      exact (never rfl rfl).elim
    · cases run.symm.trans (sync_of_unprepared resolved prepared (by simp))
    · rcases written : (writeEntity env o.status).onObject o₂ v₂ with ⟨e' | _, m', w'⟩
      · cases run.symm.trans (sync_of_prepared resolved prepared written)
        exact (never (writeEntity_failsWith o.status o₂ v₂ e (by rw [written])) rfl).elim
      · cases run.symm.trans (sync_of_prepared resolved prepared written)
  · obtain ⟨s, w', kept⟩ := persistStatus_keeps_object env o.status (o₁.edited v.now (notice q)) v
    have same := run.symm.trans (sync_of_unready resolved ready kept)
    rcases s with e' | _
    · cases same
      obtain ⟨a, rfl⟩ := (persistStatus_failed kept).2
      exact (never rfl rfl).elim
    · rcases q with e' | _
      · cases same
        exact ⟨o₁, v, rfl, kept⟩
      · cases same

/-- A visit that fails for want of a target is one of a sync. -/
theorem visit_of_lost (settings : OperatorSettings) {kind : ManagedKind} {ns name : String} {w : World σ}
    {e : SyncError} {x : String × String}
    (failed : (visit env settings kind ns name w).result = .error e) (lost : e.lost? = some x) :
    ∃ o w₁ m w₂ b, Reads env ⟨kind, ns, name⟩ w o w₁ ∧ (sync env).onObject o w₁ = (.error e, m, w₂) ∧
      (visit env settings kind ns name w).after = { w₂ with backoff := b } := by
  rcases read : w.get env ⟨kind, ns, name⟩ with ⟨r, w₁⟩
  by_cases idle : ∀ found o, r = .ok found → found.bind Resource.object? = some o → o.need = .nothing
  · rw [(visit_of_idle settings read idle).1] at failed
    rcases get_cases env ⟨kind, ns, name⟩ w with ⟨a, got⟩ | got <;> rw [got] at read <;> cases read <;>
      cases failed
    cases lost
  · push Not at idle
    obtain ⟨found, o, rfl, fetched, busy⟩ := idle
    have reads : Reads env ⟨kind, ns, name⟩ w o w₁ := ⟨found, read, fetched⟩
    cases need : o.need with
    | nothing => exact absurd need busy
    | cleanup =>
      rcases run : (cleanup env).onObject o w₁ with ⟨r, m, w₂⟩
      rw [(visit_of_cleanup settings reads need run).1] at failed
      cases r with
      | ok _ => cases failed
      | error e' =>
        cases failed
        have other : e.lost? = none := cleanup_failsWith o w₁ e (by rw [run])
        rw [lost] at other
        cases other
    | sync =>
      rcases run : (sync env).onObject o w₁ with ⟨r, m, w₂⟩
      obtain ⟨result, b, after⟩ := visit_of_sync settings reads need run
      rw [result] at failed
      cases r with
      | ok _ => cases failed
      | error e' =>
        cases failed
        exact ⟨o, w₁, m, w₂, b, reads, run, after⟩

/-- A visit that failed for want of a target is not repeated until the target changes. It looked the target
up, and whatever appears in its place wakes the object as the visit left it. -/
structure Visit.Waits (settings : OperatorSettings) (v : Visit σ) (e : SyncError) (lost : Key) (o : Object) :
    Prop where
  blames : e.Blames lost
  asked : .get lost ∈ v.calls
  stays : ∀ b, onError settings v.key e b = (.awaitChange, b)
  stored : v.after.store.findObject? v.key = some o
  woken : ∀ changed candidates, changed.key = lost → changed.metadata.ns.isSome → o.metadata.ns.isSome →
    o ∈ candidates → o ∈ Watch.woken changed candidates

theorem visit_waits (settings : OperatorSettings) {kind : ManagedKind} {ns name : String} {w : World σ}
    {e : SyncError} {x : String × String} (failed : (visit env settings kind ns name w).result = .error e)
    (lost : e.lost? = some x) : ∃ key o, (visit env settings kind ns name w).Waits settings e key o := by
  obtain ⟨o, w₁, m, w₂, b, reads, run, after⟩ := visit_of_lost settings failed lost
  obtain ⟨o₁, v, resolved, kept⟩ := sync_of_lost run lost
  obtain ⟨y, there, mirrors, -⟩ := unready_stored (by simp) reads.own_stored resolved kept
  have key : (o₁.edited v.now (notice (.error e))).key = ⟨kind, ns, name⟩ :=
    (o₁.edited_key _ _).trans ((Resolve.leaves_of_references resolved).key.trans reads.key)
  obtain ⟨asked, said, blames⟩ := Resolve.references_accounts env o w₁
  rw [resolved] at said blames
  obtain ⟨target, mem, tells⟩ := blames e x rfl lost
  have stored : Confined env (fun _ => False) ⟨kind, ns, name⟩ v w₂ := persistStatus_confined kept key
  obtain ⟨more, said', -⟩ := stored.calls
  have near : o.Near target := by
    have read : .get target ∈ Resolve.calls env o w₁ := by
      rw [Resolve.calls, resolved, said, List.drop_left]
      exact mem
    exact Resolve.near_of_mem_calls read
  have calls : (visit env settings kind ns name w).calls = .get ⟨kind, ns, name⟩ :: (asked ++ more) := by
    apply Visit.calls_of_append
    obtain ⟨found, read, -⟩ := reads
    have first : w₁.storeCalls = w.storeCalls ++ [.get ⟨kind, ns, name⟩] := by
      rw [← get_storeCalls env, read]
    have said : v.storeCalls = w₁.storeCalls ++ asked := said
    rw [after]
    simp [said', said, first, visit]
  refine ⟨target, y, tells, ?_, onError_of_blames tells settings _, ?_, ?_⟩
  · rw [calls]
    exact List.mem_cons_of_mem _ (List.mem_append_left _ mem)
  · rw [after]
    exact (congrArg _ reads.key.symm).trans there
  · intro changed candidates same placed' placed candidate
    have named : y.named = o.named := Object.named_congr mirrors.spec mirrors.ns
    refine Watch.mem_woken_of_near ⟨?_, ?_⟩ placed placed' candidate
    · rw [named, same]
      exact near.1
    · rw [same, mirrors.ns]
      exact near.2

end Reconcile

/-- The watches wake whoever would look at what changed. If the references of an object are resolved, in
whatever world, and a resource is read, then the watch on that resource wakes the object. An object whose
visit failed for want of a target waits for just that. And only candidates are woken, in their order, that
live next to what changed and refer to it by its name. -/
theorem Watch.wakes_who_looks_up (env : Environment σ) (settings : OperatorSettings) :
    (∀ (c : Object) (w : World σ) (changed : Resource) (candidates : List Object),
      .get changed.key ∈ Resolve.calls env c w → c.metadata.ns.isSome → changed.metadata.ns.isSome →
        c ∈ candidates → c ∈ woken changed candidates) ∧
    (∀ kind ns name w e, (Reconcile.visit env settings kind ns name w).result = .error e → e.lost?.isSome →
      ∃ lost o, (Reconcile.visit env settings kind ns name w).Waits settings e lost o) ∧
    ∀ (changed : Resource) (candidates : List Object), (woken changed candidates).Sublist candidates ∧
      ∀ c ∈ woken changed candidates, c.metadata.ns = changed.metadata.ns ∧
        NamesTarget c changed.kind changed.metadata.nameText := by
  refine ⟨?_, ?_, ?_⟩
  · intro c w changed candidates read placed placed' candidate
    exact mem_woken_of_near (Resolve.near_of_mem_calls read) placed placed' candidate
  · intro kind ns name w e failed lost
    obtain ⟨x, lost⟩ := Option.isSome_iff_exists.mp lost
    exact Reconcile.visit_waits settings failed lost
  · intro changed candidates
    exact ⟨woken_sublist changed candidates, fun c woken => (mem_woken.mp woken).2⟩

section

open Scene

def Scene.unanchored : Reconcile.Visit Cloud :=
  webVisit calm (world (Store.empty.put (.managed
    { web with spec := .service ⟨some (.named "eu"), none, "example.org", none, none, none, none, []⟩ }))
    (Cloud.empty []))

def Scene.europe : Object where
  metadata := { (default : Metadata) with name := some "eu", ns := some "shop" }
  spec := .controlPlane ⟨"Europe", none, none, []⟩
  status := none

theorem Watch.wakes_unanchored :
    ∃ e o, Scene.unanchored.result = .error e ∧ e.lost? = some ("KonnectGatewayControlPlane", "shop/eu") ∧
      (∀ b, Reconcile.onError OperatorSettings.default webKey e b = (.awaitChange, b)) ∧
      Scene.unanchored.after.store.findObject? webKey = some o ∧
      o ∈ woken (.managed Scene.europe) [web, o] ∧ web ∉ woken (.managed Scene.europe) [web, o] := by
  have failed : Scene.unanchored.result =
      .error (.refNotFound "KonnectGatewayControlPlane" "shop/eu") := failed_of_told (by decide +kernel)
  obtain ⟨-, waits, only⟩ := wakes_who_looks_up calm OperatorSettings.default
  obtain ⟨lost, o, waits⟩ := waits .service "shop" "web" _ _ failed rfl
  have calls : Scene.unanchored.calls = [.get webKey, .get Scene.europe.key, .patchStatus webKey] := by
    decide +kernel
  have target : Scene.europe.key = lost := by
    have asked : .get lost ∈ Scene.unanchored.calls := waits.asked
    have blames := waits.blames
    rw [calls] at asked
    simp only [List.mem_cons, StoreCall.get.injEq, reduceCtorEq, List.not_mem_nil, or_false] at asked
    rcases asked with rfl | rfl
    · exact absurd (congrArg (Option.map Prod.fst) blames) (by decide)
    · rfl
  have stored : Scene.unanchored.after.store.findObject? webKey = some o := waits.stored
  obtain ⟨o', stored', placed⟩ : ∃ o', Scene.unanchored.after.store.findObject? webKey = some o' ∧
      o'.metadata.ns.isSome := (Option.any_eq_true _ _).mp (by decide +kernel)
  cases stored.symm.trans stored'
  refine ⟨_, o, failed, rfl, waits.stays, stored, ?_, fun other => ?_⟩
  · exact waits.woken (.managed Scene.europe) [web, o] target rfl placed (by simp)
  · obtain ⟨-, ns, ref⟩ := (only _ _).2 web other
    cases ref

end

end GatewaySync
