import GatewaySync.Proofs.Tandem
/-!
# What a resolution reads

References are read one after the other, and the resolution ends with the first read that is refused. All
that is read is named by the object and lies in its namespace. Up to a refused read, the script of the
resolution tells of references that were found, and at most forgets the id that the read was to give.
-/
namespace GatewaySync

variable {σ α β : Type}

def Environment.afterCalls (env : Environment σ) (calls : List StoreCall) (x : σ) : σ :=
  calls.foldl (fun x call => (env.fault call x).2) x

namespace World

variable {env : Environment σ} {w w' u : World σ} {keys : List Key}

/-- Objects are read one after the other, and no read is refused. -/
inductive Answered (env : Environment σ) : World σ → List Key → World σ → Prop
  | done (w : World σ) : Answered env w [] w
  | read {w w' : World σ} {keys : List Key} (key : Key)
      (willing : env.refusal (.get key) w.outside = none)
      (rest : Answered env (w.get env key).2 keys w') : Answered env w (key :: keys) w'

namespace Answered

theorem append {more : List Key} (h : Answered env w keys w') (h' : Answered env w' more u) :
    Answered env w (keys ++ more) u := by
  induction h with
  | done => exact h'
  | read key willing _ ih => exact .read key willing (ih h')

theorem now (h : Answered env w keys w') : w'.now = w.now := by
  induction h with
  | done => rfl
  | read key _ _ ih => rw [ih, get_now]

theorem storeCalls (h : Answered env w keys w') : w'.storeCalls = w.storeCalls ++ keys.map .get := by
  induction h with
  | done => simp
  | read key _ _ ih => rw [ih, get_storeCalls, List.append_assoc, List.map_cons, List.singleton_append]

theorem outside (h : Answered env w keys w') :
    w'.outside = env.afterCalls (keys.map .get) w.outside := by
  induction h with
  | done => rfl
  | read key _ _ ih =>
    rw [ih, get_outside]
    rfl

theorem of_split (h : Answered env w keys w') {before since : List Key} {key : Key}
    (split : keys = before ++ key :: since) :
    env.refusal (.get key) (env.afterCalls (before.map .get) w.outside) = none := by
  induction h generalizing before with
  | done => simp at split
  | read first willing _ ih =>
    cases before with
    | nil =>
      obtain ⟨rfl, -⟩ := List.cons.inj split
      exact willing
    | cons _ before =>
      obtain ⟨rfl, rest⟩ := List.cons.inj split
      have later := ih rest
      rwa [get_outside] at later

end Answered

end World

namespace Resolve

open Pass World

/-- An edit that tells of a reference that was looked up: it holds, it is not ready, or it has this id. -/
inductive Tells : Edit → Prop
  | valid (condition : String) : Tells (.note (.valid condition))
  | unready (condition message : String) : Tells (.note ⟨condition, .false, Reason.notReady, message⟩)
  | parent (id : String) : Tells (.coordinate .parentId id)
  | binding (r : Option ResolvedBinding) : Tells (.binding r)

/-- The action only reads what it may. It comes to a result by a script, or it ends with the first read
that is refused, and with that error. -/
inductive Consults (env : Environment σ) (may : Key → Prop)
    (P : Except SyncError α → List Edit → Prop) (H : Key → List Edit → Prop) (p : Pass σ α)
    (o : Object) (w : World σ) : Prop
  | answered {r : Except SyncError α} {l : List Edit} {keys : List Key} {w' : World σ}
      (run : p.onObject o w = (r, o.edited w.now l, w')) (reads : Answered env w keys w')
      (asked : ∀ k ∈ keys, may k) (script : P r l)
  | refused {a : ApiError} {l : List Edit} {keys : List Key} {key : Key} {v : World σ}
      (run : p.onObject o w = (.error (.api a), o.edited w.now l, (v.get env key).2))
      (reads : Answered env w keys v) (refusal : env.refusal (.get key) v.outside = some a)
      (asked : ∀ k ∈ keys ++ [key], may k) (halted : H key l)

variable {env : Environment σ} {may : Key → Prop} {P Q : Except SyncError α → List Edit → Prop}
  {H G : Key → List Edit → Prop} {p q : Pass σ α} {f : α → Pass σ β} {o : Object} {w : World σ}

theorem Consults.mono (h : Consults env may P H p o w) (sub : ∀ r es, P r es → Q r es)
    (halts : ∀ key es, may key → H key es → G key es) : Consults env may Q G p o w := by
  cases h with
  | answered run reads asked script => exact .answered run reads asked (sub _ _ script)
  | refused run reads refusal asked halted =>
    exact .refused run reads refusal asked (halts _ _ (asked _ (by simp)) halted)

theorem Consults.congr (h : Consults env may P H q o w) (same : p.onObject o w = q.onObject o w) :
    Consults env may P H p o w := by
  cases h with
  | answered run reads asked script => exact .answered (same.trans run) reads asked script
  | refused run reads refusal asked halted => exact .refused (same.trans run) reads refusal asked halted

theorem consults_pure {a : α} (script : P (.ok a) []) : Consults env may P H (pure a) o w :=
  .answered rfl (.done w) (by simp) script

theorem consults_throw {e : SyncError} (script : P (.error e) []) :
    Consults env may P H (throw e) o w :=
  .answered rfl (.done w) (by simp) script

theorem Consults.object {f : Object → Pass σ α} (h : Consults env may P H (f o) o w) :
    Consults env may P H (object >>= f) o w :=
  h.congr (onObject_bind_ok (onObject_object o w))

theorem Consults.bind {Q : Except SyncError β → List Edit → Prop}
    (first : Consults env may P H p o w) (failed : ∀ e es, P (.error e) es → Q (.error e) es)
    (halts : ∀ key es, H key es → G key es)
    (next : ∀ a es v, P (.ok a) es → v.now = w.now →
      Consults env may (fun r ds => Q r (es ++ ds)) (fun key ds => G key (es ++ ds)) (f a)
        (o.edited w.now es) v) :
    Consults env may Q G (p >>= f) o w := by
  cases first with
  | refused run reads refusal asked halted =>
    exact .refused (onObject_bind_error run) reads refusal asked (halts _ _ halted)
  | @answered r es keys v run reads asked script =>
    cases r with
    | error e => exact .answered (onObject_bind_error run) reads asked (failed e es script)
    | ok a =>
      have now := reads.now
      cases next a es v script now with
      | answered run₂ reads₂ asked₂ script₂ =>
        rw [now, ← Object.edited_append] at run₂
        exact .answered ((onObject_bind_ok run).trans run₂) (reads.append reads₂)
          (List.forall_mem_append.mpr ⟨asked, asked₂⟩) script₂
      | refused run₂ reads₂ refusal asked₂ halted =>
        rw [now, ← Object.edited_append] at run₂
        refine .refused ((onObject_bind_ok run).trans run₂) (reads.append reads₂) refusal ?_ halted
        rw [List.append_assoc]
        exact List.forall_mem_append.mpr ⟨asked, asked₂⟩

theorem Consults.modify (e : Edit) {g : Object → Object} {f : Unit → Pass σ α}
    (edit : ∀ t x, g x = e.apply t x)
    (rest : Consults env may (fun r ds => P r (e :: ds)) (fun key ds => H key (e :: ds)) (f ())
      (e.apply w.now o) w) :
    Consults env may P H (modifyObject g >>= f) o w := by
  have run := onObject_modifyObject (σ := σ) g o w
  rw [edit w.now] at run
  cases rest with
  | answered next reads asked script => exact .answered ((onObject_bind_ok run).trans next) reads asked script
  | refused next reads refusal asked halted =>
    exact .refused ((onObject_bind_ok run).trans next) reads refusal asked halted

theorem Consults.note (v : Verdict) {f : Unit → Pass σ α}
    (rest : Consults env may (fun r ds => P r (.note v :: ds)) (fun key ds => H key (.note v :: ds)) (f ())
      (o.record v w.now) w) :
    Consults env may P H (Pass.record v >>= f) o w := by
  have run := onObject_record v o w
  cases rest with
  | answered next reads asked script => exact .answered ((onObject_bind_ok run).trans next) reads asked script
  | refused next reads refusal asked halted =>
    exact .refused ((onObject_bind_ok run).trans next) reads refusal asked halted

theorem consults_get {key : Key} (allowed : may key) :
    Consults env may (fun _ es => es = []) (fun k es => k = key ∧ es = [])
      (tryWorld (World.get env key)) o w := by
  have run := onObject_tryWorld (World.get env key) o w
  have fetched := World.get_eq_fetched env key w
  cases refusal : env.refusal (.get key) w.outside with
  | none =>
    exact .answered (l := []) run (.read key refusal (.done _)) (by simpa using allowed) rfl
  | some a =>
    rw [fetched, World.fetched, refusal] at run
    rw [show (w.attempt env (.get key)).2 = (w.get env key).2 from (congrArg (·.2) fetched).symm] at run
    exact .refused (l := []) run (.done w) refusal (by simpa using allowed) ⟨rfl, rfl⟩

theorem consults_refuse {condition reason : String} {e : SyncError} (script : ∀ es, P (.error e) es) :
    Consults env may P H (refuse condition reason e : Pass σ α) o w :=
  .note _ (consults_throw (script _))

/-- A lookup reads at most its target, and what it finds there of use it does not tell. -/
theorem consults_lookup (condition : String) {kind : ManagedKind} {name : String} {ns : Option String}
    (allowed : ns.getD o.metadata.namespaceText = o.metadata.namespaceText →
      may ⟨kind, o.metadata.namespaceText, name⟩) :
    Consults env may
      (fun r es => (∀ x, r = .ok (some x) → es = []) ∧ (r = .ok none → ∀ e ∈ es, Tells e))
      (fun key es => key = ⟨kind, o.metadata.namespaceText, name⟩ ∧ es = [])
      (lookup env condition kind name ns) o w := by
  apply Consults.object
  dsimp only
  split
  · exact consults_refuse (by simp)
  · rename_i near
    refine (consults_get (allowed (Decidable.not_not.mp near))).bind (by simp) (fun _ _ halted => halted) ?_
    rintro found es v rfl -
    split
    · exact consults_refuse (by simp)
    · exact consults_refuse (by simp)
    · refine Consults.note _ (consults_pure ⟨by simp, fun _ e he => ?_⟩)
      rw [List.nil_append, List.mem_singleton] at he
      exact he ▸ .unready _ _
    · exact consults_pure (by simp)

theorem consults_lookupOrForget {condition : String} {kind : ManagedKind} {name : String}
    {ns : Option String} (f : Field)
    (allowed : ns.getD o.metadata.namespaceText = o.metadata.namespaceText →
      may ⟨kind, o.metadata.namespaceText, name⟩) :
    Consults env may (fun r es => ∀ x, r = .ok (some x) → es = [])
      (fun key es => key = ⟨kind, o.metadata.namespaceText, name⟩ ∧ es = [.coordinate f ""])
      (lookupOrForget env (·.withKonnect (·.set f "")) condition kind name ns) o w := by
  have forgot (es : List Edit) : (o.edited w.now es).withKonnect (·.set f "") =
      o.edited w.now (es ++ [.coordinate f ""]) := (o.edited_append w.now es [.coordinate f ""]).symm
  cases consults_lookup condition allowed with
  | @answered r es keys v run reads asked script =>
    have found := onObject_lookupOrForget (·.withKonnect (·.set f "")) run
    rcases r with e | _ | x
    · rw [forgot] at found
      exact .answered found reads asked (by simp)
    · rw [forgot] at found
      exact .answered found reads asked (by simp)
    · exact .answered found reads asked script.1
  | refused run reads refusal asked halted =>
    obtain ⟨key, rfl⟩ := halted
    have found := onObject_lookupOrForget (·.withKonnect (·.set f "")) run
    exact .refused (l := [.coordinate f ""]) found reads refusal asked ⟨key, rfl⟩

theorem consults_plugin {ns name : String} (allowed : may ⟨.plugin, ns, name⟩) :
    Consults env may (fun r es => ∀ x, r = .ok x → ∀ e ∈ es, Tells e)
      (fun key es => key = ⟨.plugin, ns, name⟩ ∧ es = []) (plugin env ns name) o w := by
  refine (consults_get allowed).bind (by simp) (fun _ _ halted => halted) ?_
  rintro found es v rfl -
  split
  · split
    · exact consults_refuse (by simp)
    · refine Consults.note _ (consults_pure fun _ _ e he => ?_)
      rw [List.nil_append, List.mem_singleton] at he
      exact he ▸ .valid _
  · exact consults_refuse (by simp)

theorem consults_target {kind : ManagedKind} {name : Option String}
    (allowed : ∀ n, name = some n → may ⟨kind, o.metadata.namespaceText, n⟩) :
    Consults env may (fun r es => ∀ x, r = .ok x → ∀ e ∈ es, Tells e)
      (fun key es => ∃ n, name = some n ∧ key = ⟨kind, o.metadata.namespaceText, n⟩ ∧ es = [])
      (target env kind name) o w := by
  cases name with
  | none => exact consults_pure (by simp)
  | some n =>
    refine (consults_lookup _ fun _ => allowed n rfl).bind (by simp)
      (fun _ _ halted => ⟨n, rfl, halted⟩) ?_
    rintro (_ | x) es v script -
    · exact consults_pure fun _ _ => by simpa using script.2 rfl
    · obtain rfl := script.1 x rfl
      refine Consults.note _ (consults_pure fun _ _ e he => ?_)
      rw [List.nil_append, List.mem_singleton] at he
      exact he ▸ .valid _

inductive Halted (o : Object) : Key → List Edit → Prop
  | plugin {s : PluginBindingSpec} (spec : o.spec = .pluginBinding s) :
      Halted o ⟨.plugin, o.metadata.namespaceText, s.plugin⟩ [.binding none]
  | target {s : PluginBindingSpec} {kind : ManagedKind} {name : String} {es : List Edit}
      (spec : o.spec = .pluginBinding s) (link : o.linkTo kind = some (.named name))
      (told : ∀ e ∈ es, Tells e) : Halted o ⟨kind, o.metadata.namespaceText, name⟩ es
  | parent {kind : ManagedKind} {name : String} {ns : Option String}
      (has : o.kind.parentKind? = some kind) (link : o.linkTo kind = some (.object name ns)) :
      Halted o ⟨kind, o.metadata.namespaceText, name⟩ [.coordinate .parentId ""]
  | controlPlane {name : String} {ns : Option String} {es : List Edit}
      (ref : o.spec.controlPlaneRef = some (.object name ns)) (told : ∀ e ∈ es, Tells e) :
      Halted o ⟨.managed .controlPlane, o.metadata.namespaceText, name⟩
        (es ++ [.coordinate .controlPlaneId ""])

def Told (r : Except SyncError Resolution) (es : List Edit) : Prop :=
  ∀ q, r = .ok q → q ≠ .notReady → ∀ e ∈ es, Tells e

theorem consults_binding {s : PluginBindingSpec} (spec : o.spec = .pluginBinding s)
    (applied : may ⟨.plugin, o.metadata.namespaceText, s.plugin⟩)
    (targeted : ∀ kind name, o.linkTo kind = some (.named name) →
      may ⟨kind, o.metadata.namespaceText, name⟩) :
    Consults env may Told (Halted o) (binding env s) o w := by
  have aim {kind : ManagedKind} {name : Option String} {x : Object} {v : World σ}
      (link : o.linkTo kind = name.map .named) (same : x.metadata = o.metadata) :
      Consults env may (fun r es => ∀ x, r = .ok x → ∀ e ∈ es, Tells e)
        (fun key es => ∃ n, o.linkTo kind = some (.named n) ∧
          key = ⟨kind, o.metadata.namespaceText, n⟩ ∧ es = []) (target env kind name) x v := by
    have held (n : String) (here : name = some n) : o.linkTo kind = some (.named n) := by
      rw [link, here]
      rfl
    rw [← same]
    refine (consults_target fun n here => same ▸ targeted kind n (held n here)).mono (fun _ _ => id) ?_
    rintro key es - ⟨n, here, halted⟩
    exact ⟨n, held n here, halted⟩
  have told {l m : List Edit} (h : ∀ e ∈ l, Tells e) (h' : ∀ e ∈ m, Tells e) :
      ∀ e ∈ l ++ m, Tells e := List.forall_mem_append.mpr ⟨h, h'⟩
  have cleared : ∀ e ∈ [Edit.binding none], Tells e := by simpa using Tells.binding none
  refine Consults.modify (.binding none) (fun _ _ => rfl) (Consults.object ?_)
  refine (consults_plugin (by simpa using applied)).bind (by simp [Told]) ?_ ?_
  · rintro key es ⟨rfl, rfl⟩
    rw [Edit.apply_metadata]
    exact .plugin spec
  rintro x es₁ v₁ told₁ -
  have first := told cleared (told₁ x rfl)
  refine (aim (by simp [Object.linkTo, spec]) (by simp)).bind (by simp [Told]) ?_ ?_
  · rintro key es ⟨n, link, rfl, rfl⟩
    exact .target spec link (by simpa using first)
  rintro service es₂ v₂ told₂ -
  have second := told first (told₂ service rfl)
  refine (aim (by simp [Object.linkTo, spec]) (by simp)).bind (by simp [Told]) ?_ ?_
  · rintro key es ⟨n, link, rfl, rfl⟩
    exact .target spec link (by simpa using second)
  rintro route es₃ v₃ told₃ -
  have third := told second (told₃ route rfl)
  refine (aim (by simp [Object.linkTo, spec]) (by simp)).bind (by simp [Told]) ?_ ?_
  · rintro key es ⟨n, link, rfl, rfl⟩
    exact .target spec link (by simpa using third)
  rintro consumer es₄ v₄ told₄ -
  have fourth := told third (told₄ consumer rfl)
  dsimp only
  split
  · exact consults_pure (by simp [Told])
  · split
    · exact consults_refuse (by simp [Told])
    · refine Consults.modify (.binding _) (fun _ _ => rfl) (consults_pure fun q _ _ => ?_)
      simpa using told fourth (m := [.binding _]) (by simpa using Tells.binding _)

theorem consults_parent {kind : ManagedKind} (has : o.kind.parentKind? = some kind)
    (linked : ∀ name ns, o.linkTo kind = some (.object name ns) →
      ns.getD o.metadata.namespaceText = o.metadata.namespaceText →
      may ⟨kind, o.metadata.namespaceText, name⟩) :
    Consults env may Told (Halted o) (parent env kind) o w := by
  have found {q : Resolution} (id : String) :
      Told (.ok q) [.coordinate .parentId id, .note (.valid kind.linkCondition)] := by
    intro _ _ _
    simpa using ⟨Tells.parent id, Tells.valid kind.linkCondition⟩
  apply Consults.object
  dsimp only
  split
  · exact Consults.modify (.coordinate .parentId "") (fun _ _ => rfl)
      (Consults.note _ (consults_pure (found "")))
  · rename_i id link
    exact Consults.modify (.coordinate .parentId id) (fun _ _ => rfl)
      (Consults.note _ (consults_pure (found id)))
  · rename_i name ns link
    refine (consults_lookupOrForget .parentId (linked name ns link)).bind (by simp [Told]) ?_ ?_
    · rintro key es ⟨rfl, rfl⟩
      exact .parent has link
    · rintro (_ | x) es v only -
      · exact consults_pure (by simp [Told])
      · obtain rfl := only x rfl
        exact Consults.modify (.coordinate .parentId x.konnectId) (fun _ _ => rfl)
          (Consults.note _ (consults_pure (found x.konnectId)))

theorem consults_controlPlane (env : Environment σ) (inherited : Option String) (w : World σ)
    (asked : ∀ name ns, o.spec.controlPlaneRef = some (.object name ns) →
      ns.getD o.metadata.namespaceText = o.metadata.namespaceText →
      may ⟨.managed .controlPlane, o.metadata.namespaceText, name⟩) :
    Consults env may (fun _ _ => True)
      (fun key es => ∃ name ns, o.spec.controlPlaneRef = some (.object name ns) ∧
        key = ⟨.managed .controlPlane, o.metadata.namespaceText, name⟩ ∧
        es = [.coordinate .controlPlaneId ""])
      (controlPlane env inherited) o w := by
  apply Consults.object
  dsimp only
  split
  · exact consults_pure trivial
  · split
    · exact Consults.modify (.coordinate .controlPlaneId _) (fun _ _ => rfl) (consults_pure trivial)
    · exact Consults.modify (.coordinate .controlPlaneId _) (fun _ _ => rfl) (consults_throw trivial)
    · exact Consults.modify (.coordinate .controlPlaneId _) (fun _ _ => rfl)
        (Consults.note _ (consults_pure trivial))
    · rename_i name ns ref
      refine (consults_lookupOrForget .controlPlaneId (asked name ns ref)).bind (fun _ _ _ => trivial)
        (fun key es halted => ⟨name, ns, ref, halted⟩) ?_
      rintro (_ | x) es v only -
      · exact consults_pure trivial
      · exact Consults.modify (.coordinate .controlPlaneId x.konnectId) (fun _ _ => rfl)
          (Consults.note _ (consults_pure trivial))

theorem consults_parentOf (env : Environment σ) (o : Object) (w : World σ) :
    Consults env o.Near Told (Halted o) (parentOf env) o w := by
  by_cases binds : ∃ s, o.spec = .pluginBinding s
  · obtain ⟨s, spec⟩ := binds
    exact (consults_binding spec (Object.near_applied spec) fun _ _ link =>
      Object.near_target spec link).congr (parentOf_eq_binding spec)
  · cases has : o.kind.parentKind? with
    | none =>
      exact (consults_pure (by simp [Told])).congr
        (parentOf_eq_unset has fun s spec => binds ⟨s, spec⟩)
    | some parent =>
      exact (consults_parent has fun _ _ link near => Object.near_parent has link near).congr
        (parentOf_eq_parent has)

/-- What is read to resolve all references of an object, and what becomes of the object if a read is
refused. -/
inductive Consulted (env : Environment σ) (o : Object) (w : World σ) :
    Except SyncError Readiness → Object → World σ → Prop
  | answered {r : Except SyncError Readiness} {o' : Object} {keys : List Key} {w' : World σ}
      (reads : Answered env w keys w') (asked : ∀ k ∈ keys, o.Near k) : Consulted env o w r o' w'
  | refused {a : ApiError} {es : List Edit} {keys : List Key} {key : Key} {v : World σ}
      (reads : Answered env w keys v) (refusal : env.refusal (.get key) v.outside = some a)
      (asked : ∀ k ∈ keys ++ [key], o.Near k) (halted : Halted o key es) :
      Consulted env o w (.error (.api a)) (o.edited w.now es) (v.get env key).2

theorem viaControlPlane_consulted {o o' : Object} {w v w' : World σ} {r : Except SyncError Readiness}
    {es : List Edit} {keys : List Key} {owner : Option OwnerReference} {inherited : Option String}
    (reads : Answered env w keys v) (asked : ∀ k ∈ keys, o.Near k) (told : ∀ e ∈ es, Tells e)
    (run : (references.viaControlPlane env owner inherited).onObject (o.edited w.now es) v =
      (r, o', w')) : Consulted env o w r o' w' := by
  have near (name : String) (ns : Option String)
      (ref : (o.edited w.now es).spec.controlPlaneRef = some (.object name ns))
      (near : ns.getD (o.edited w.now es).metadata.namespaceText =
        (o.edited w.now es).metadata.namespaceText) :
      o.Near ⟨.managed .controlPlane, (o.edited w.now es).metadata.namespaceText, name⟩ := by
    rw [Object.controlPlaneRef_congr (o.edited_spec_stored _ _)] at ref
    rw [Object.edited_metadata] at near ⊢
    exact Object.near_of_controlPlaneRef ref near
  cases consults_controlPlane env inherited v near with
  | refused home reads' refusal asked' halted =>
    obtain ⟨name, ns, ref, rfl, rfl⟩ := halted
    rw [Object.controlPlaneRef_congr (o.edited_spec_stored _ _)] at ref
    rw [reads.now, ← Object.edited_append] at home
    cases run.symm.trans (onObject_viaControlPlane home)
    refine .refused (reads.append reads') refusal ?_ ?_
    · rw [List.append_assoc]
      exact List.forall_mem_append.mpr ⟨asked, asked'⟩
    · rw [Object.edited_metadata]
      exact .controlPlane ref told
  | @answered q ds keys' u home reads' asked' =>
    have run := run.symm.trans (onObject_viaControlPlane home)
    have all : Answered env w (keys ++ keys') u := reads.append reads'
    have asked := List.forall_mem_append.mpr ⟨asked, asked'⟩
    have last {q : Resolution} (run : (r, o', w') =
        (references.finish owner q.owner? inherited).onObject ((o.edited w.now es).edited v.now ds) u) :
        Consulted env o w r o' w' := by
      rcases finish_cases owner q.owner? inherited ((o.edited w.now es).edited v.now ds) u with
        ⟨done, -⟩ | ⟨_, _, done, -⟩ <;> cases run.trans done <;> exact .answered all asked
    rcases q with e | _ | _ | _
    · cases run
      exact .answered all asked
    · exact last run
    · exact last run
    · cases run
      exact .answered all asked

theorem references_consulted {o o' : Object} {w w' : World σ} {r : Except SyncError Readiness}
    (h : (references env).onObject o w = (r, o', w')) : Consulted env o w r o' w' := by
  cases consults_parentOf env o w with
  | refused run reads refusal asked halted =>
    cases h.symm.trans (onObject_references run)
    exact .refused reads refusal asked halted
  | @answered q es keys v run reads asked told =>
    have run := h.symm.trans (onObject_references run)
    rcases q with e | _ | _ | _
    · cases run
      exact .answered reads asked
    · exact viaControlPlane_consulted reads asked (told _ rfl (by simp)) run.symm
    · exact viaControlPlane_consulted reads asked (told _ rfl (by simp)) run.symm
    · cases run
      exact .answered reads asked

end Resolve

end GatewaySync
