import GatewaySync.Proofs.Bindings
import GatewaySync.Proofs.Transitions
/-!
# Who owns an object

A managed object belongs to its parent, or to its control plane if it has no parent by name. Before its entity
is written, that owner stands among its owner references as the only one of the family, with the uid that it
has then. The others are nobody's business.
-/
namespace GatewaySync

def Key.owner (key : Key) (uid : String) : OwnerReference where
  apiVersion := key.kind.apiVersion
  blockOwnerDeletion := some true
  controller := none
  kind := key.kind.name
  name := key.name
  uid := uid

namespace Object

structure Identified (o : Object) : Prop where
  name : o.metadata.name.isSome
  uid : o.metadata.uid.isSome

/-- The key of the parent, if it is referred to by name. A binding has none: what it applies and what it applies
to do not own it. -/
def parentKey? (o : Object) : Option Key :=
  o.kind.parentKind?.bind fun kind => (o.linkTo kind).bind (Reference.key? kind o.metadata.namespaceText)

def planeKey? (o : Object) : Option Key :=
  o.spec.controlPlaneRef.bind (Reference.key? .controlPlane o.metadata.namespaceText)

def ownerKey? (o : Object) : Option Key := o.parentKey?.or o.planeKey?

theorem Identified.ownerReference? {t : Object} (h : t.Identified) :
    ∃ uid, t.metadata.uid = some uid ∧ t.ownerReference? = some (t.key.owner uid) := by
  obtain ⟨name, named⟩ := Option.isSome_iff_exists.mp h.name
  obtain ⟨uid, known⟩ := Option.isSome_iff_exists.mp h.uid
  refine ⟨uid, known, ?_⟩
  simp [Object.ownerReference?, named, known, Key.owner, Object.key, Metadata.nameText]
  rfl

end Object

namespace Resolve

open Pass

/-- The owner that an object is to have: the live object under a key that it names, if it names one. -/
inductive Wants (s : Store) (o : Object) : Option Key → Option OwnerReference → Prop
  | nobody : Wants s o none none
  | object {key : Key} {t : Object} (near : o.Near key) (stored : s.findObject? key = some t) (live : t.Live) :
      Wants s o (some key) t.ownerReference?

section

variable {s : Store} {o : Object} {a b : Option Key} {d e : Option OwnerReference}

theorem Wants.family (h : Wants s o a d) : ∀ r ∈ d, r.inFamily = true := by
  cases h with
  | nobody => exact nofun
  | object => exact fun r hr => Object.ownerReference?_inFamily hr

theorem Wants.reference {key : Key} (h : Wants s o (some key) d)
    (identified : ∀ key t, o.Near key → s.findObject? key = some t → t.Identified) :
    ∃ t uid, s.findObject? key = some t ∧ t.Live ∧ t.metadata.uid = some uid ∧ d = some (key.owner uid) := by
  cases h with
  | object near stored live =>
    obtain ⟨uid, known, same⟩ := (identified key _ near stored).ownerReference?
    rw [Store.key_of_findObject? stored] at same
    exact ⟨_, uid, stored, live, known, same⟩

/-- The parent comes first. -/
theorem Wants.or (h : Wants s o a d) (h' : Wants s o b e)
    (identified : ∀ key t, o.Near key → s.findObject? key = some t → t.Identified) :
    Wants s o (a.or b) (d.or e) := by
  cases h with
  | nobody => exact h'
  | @object key t near stored live =>
    obtain ⟨uid, -, same⟩ := (identified key t near stored).ownerReference?
    have first : t.ownerReference?.or e = t.ownerReference? := by rw [same, Option.some_or]
    rw [Option.some_or, first]
    exact .object near stored live

end

variable {σ : Type} {env : Environment σ} {o o' : Object} {w w' : World σ}

theorem wants_of_parentOf {q : Resolution} (run : (parentOf env).onObject o w = (.ok q, o', w'))
    (resolved : q ≠ .notReady) : Wants w.store o o.parentKey? q.owner? := by
  unfold Object.parentKey?
  cases has : o.kind.parentKind? with
  | some kind =>
    cases parented_of_parentOf has run with
    | unset link =>
      rw [Option.bind_some, link]
      exact .nobody
    | given link =>
      rw [Option.bind_some, link]
      exact .nobody
    | @found name ns target _ link refers =>
      rw [Option.bind_some, link, Option.bind_some, Reference.key?, refers.near]
      exact .object (Object.near_parent has link refers.near) refers.stored refers.live
    | invalid _ failed => exact absurd (failed q rfl) resolved
  | none =>
    rw [Option.bind_none, (inherits_of_parentless has run resolved).1]
    exact .nobody

theorem wants_of_homed {inherited : Option String} {q : Resolution} {o₁ : Object} {w₁ : World σ}
    (leaves : Leaves env (o, w) (o₁, w₁)) (home : Homed env inherited o₁ w₁ (.ok q) o') (settled : q ≠ .notReady) :
    Wants w.store o o.planeKey? q.owner? := by
  have none (unscoped : o₁.kind.controlPlaneScoped = false) : o₁.spec.controlPlaneRef = none := by
    cases spec : o₁.spec <;> rw [Object.kind, spec] at unscoped <;> first | rfl | cases unscoped
  unfold Object.planeKey?
  rw [← leaves.controlPlaneRef]
  cases home with
  | unscoped unscoped =>
    rw [none unscoped]
    exact .nobody
  | inherited ref =>
    rw [ref]
    exact .nobody
  | given ref =>
    rw [ref]
    exact .nobody
  | found ref refers =>
    have refers := refers.of_leaves leaves
    rw [ref, Option.bind_some, Reference.key?, refers.near]
    exact .object (Object.near_of_controlPlaneRef (leaves.controlPlaneRef.symm.trans ref) refers.near)
      refers.stored refers.live
  | invalid _ failed => exact absurd (failed q rfl) settled

theorem parentOf_metadata {q : Except SyncError Resolution}
    (run : (parentOf env).onObject o w = (q, o', w')) : o'.metadata = o.metadata := by
  have beside : (Tandem.alone env o.kind w.now).Beside w w := Tandem.beside_alone w
  have sighted : (Tandem.alone env o.kind w.now).Sighted o o :=
    ⟨Tandem.resembles_alone o w.now, fun _ near => near.kind_ne⟩
  cases Tandem.parentOf_agree sighted beside with
  | left _ excused => exact excused.elim
  | right _ excused => exact excused.elim
  | both run' =>
    cases run.symm.trans run'
    exact o.edited_metadata _ _

/-- Once the references are ready, the object has the owner that it is to have. -/
theorem owned_of_ready (resolved : (references env).onObject o w = (.ok .ready, o', w'))
    (identified : ∀ key t, o.Near key → w.store.findObject? key = some t → t.Identified) :
    ∃ desired, Wants w.store o o.ownerKey? desired ∧
      o'.metadata.ownerList = OwnerReference.reconcile o.metadata.ownerList desired := by
  obtain ⟨q, q', o₁, o₂, w₁, parent, first, home, settled, kept, -, rfl⟩ :=
    (resolving_of_references resolved).of_ready
  refine ⟨_, (wants_of_parentOf parent first).or (wants_of_homed (leaves_of_parentOf parent) home settled)
    identified, ?_⟩
  rw [Object.ownedBy_ownerList, kept.metadata, parentOf_metadata parent]

end Resolve

namespace Reconcile

open Pass World

section

variable {σ : Type} {env : Environment σ} {settings : OperatorSettings} {kind : ManagedKind}
  {ns name : String} {o x : Object} {w : World σ}

variable (settings) in
theorem Prepares.owned (undisturbed : env.Disturbs fun s t => t = s)
    (identified : ∀ key t, o.Near key → w.store.findObject? key = some t → t.Identified)
    {o₂ : Object} {w₂ : World σ} (h : Prepares env ⟨kind, ns, name⟩ w o o₂ w₂) :
    ∃ x desired, (visit env settings kind ns name w).after.store.findObject? ⟨kind, ns, name⟩ = some x ∧
      Resolve.Wants w.store o o.ownerKey? desired ∧
      x.metadata.ownerList = OwnerReference.reconcile o.metadata.ownerList desired := by
  obtain ⟨w₁, o₁, v, reads, need, resolved, prepared⟩ := h
  obtain ⟨r, w', b, ends, -, after⟩ := visit_ends settings reads need resolved
  cases ends with
  | unready unready => exact absurd rfl unready
  | unprepared _ prepared' => cases prepared.symm.trans prepared'
  | gone _ prepared' => cases prepared.symm.trans prepared'
  | spoken _ prepared' _ talks concludes _ persisted =>
    cases prepared.symm.trans prepared'
    obtain ⟨x, readied, -⟩ := readied_of_spoken undisturbed reads.own_stored resolved prepared talks concludes
      persisted
    rw [← reads.stored.2] at identified ⊢
    obtain ⟨desired, wants, owned⟩ := Resolve.owned_of_ready resolved identified
    have found := readied.stored
    rw [reads.key] at found
    exact ⟨x, desired, by rw [after]; exact found, wants, readied.ownerList.trans owned⟩

/-- Whatever a pass comes to over an object that nobody deletes, it leaves the owners of the object alone or
sets the one that the object is to have. -/
theorem visit_owners (undisturbed : env.Disturbs fun s t => t = s)
    (identified : ∀ key t, o.Near key → w.store.findObject? key = some t → t.Identified)
    (stored : w.store.findObject? ⟨kind, ns, name⟩ = some o) (kept : o.metadata.isDeleting = false)
    (after : (visit env settings kind ns name w).after.store.findObject? ⟨kind, ns, name⟩ = some x) :
    x.metadata.ownerList = o.metadata.ownerList ∨
      ∃ desired, Resolve.Wants w.store o o.ownerKey? desired ∧
        x.metadata.ownerList = OwnerReference.reconcile o.metadata.ownerList desired := by
  have course : Course env settings ⟨kind, ns, name⟩ w (visit env settings kind ns name w).talk
      (visit env settings kind ns name w).result (visit env settings kind ns name w).after :=
    visit_course env settings kind ns name w
  have unmoved (store : (visit env settings kind ns name w).after.store = w.store) :
      x.metadata.ownerList = o.metadata.ownerList := by
    rw [store, stored] at after
    cases after
    rfl
  by_cases reads : ∃ w₁, Reads env ⟨kind, ns, name⟩ w o w₁
  · obtain ⟨w₁, reads⟩ := reads
    have need : o.need = .sync := Object.need_eq_sync.mpr kept
    have key : o.key = ⟨kind, ns, name⟩ := reads.key
    rcases resolved : (Resolve.references env).onObject o w₁ with ⟨q, o₁, v⟩
    obtain ⟨r, w', b, ends, -, left⟩ := visit_ends settings reads need resolved
    have quiet : v.store = w.store := (Resolve.leaves_of_references resolved).store.trans reads.stored.2
    rw [left] at after
    cases ends with
    | unready unready persisted =>
      obtain ⟨y, found, mirrors, -⟩ := unready_stored unready reads.own_stored resolved persisted
      rw [key] at found
      cases after.symm.trans found
      exact .inl mirrors.owners
    | unprepared _ prepared =>
      refine .inl (unmoved ?_)
      rw [left]
      exact (persistMetadata_failed prepared).1.trans quiet
    | gone _ prepared =>
      have none := persistMetadata_gone prepared
      rw [(Resolve.leaves_of_references resolved).key, key] at none
      cases after.symm.trans none
    | spoken ready prepared =>
      subst ready
      obtain ⟨y, desired, found, wants, owned⟩ := Prepares.owned settings undisturbed identified
        ⟨w₁, o₁, v, reads, need, resolved, prepared⟩
      rw [left] at found
      cases after.symm.trans found
      exact .inr ⟨desired, wants, owned⟩
  · refine .inl (unmoved (course.of_unread fun o' w₁ reads' => ?_).2.2)
    cases reads'.stored.1.symm.trans stored
    exact reads ⟨w₁, reads'⟩

/-- Among the owners of the second object, the one that the first is to have is the only one of the family, with
the uid that it has in the store; the others are those of the first, in their order. -/
structure OwnedOnce (s : Store) (o x : Object) : Prop where
  family : match o.ownerKey? with
    | none => x.metadata.ownerList.filter (·.inFamily) = []
    | some key => ∃ t uid, s.findObject? key = some t ∧ t.Live ∧ t.metadata.uid = some uid ∧
        x.metadata.ownerList.filter (·.inFamily) = [key.owner uid]
  others : x.metadata.ownerList.filter (!·.inFamily) = o.metadata.ownerList.filter (!·.inFamily)

theorem ownedOnce_of_wants {s : Store} {desired : Option OwnerReference}
    (identified : ∀ key t, o.Near key → s.findObject? key = some t → t.Identified)
    (wants : Resolve.Wants s o o.ownerKey? desired)
    (owned : x.metadata.ownerList = OwnerReference.reconcile o.metadata.ownerList desired) : OwnedOnce s o x := by
  have family := OwnerReference.reconcile_family wants.family o.metadata.ownerList
  have others := OwnerReference.reconcile_others wants.family o.metadata.ownerList
  rw [← owned] at family others
  refine ⟨?_, others⟩
  split
  · rename_i nobody
    rw [nobody] at wants
    cases wants
    exact family
  · rename_i key known
    rw [known] at wants
    obtain ⟨t, uid, found, live, same, rfl⟩ := wants.reference identified
    exact ⟨t, uid, found, live, same, family⟩

/-- A binding is to be owned by its control plane, if at all. -/
theorem kind_of_ownerKey? {key : Key} (binding : o.kind = .pluginBinding) (known : o.ownerKey? = some key) :
    key.kind = .managed .controlPlane := by
  have orphan : o.parentKey? = none := by
    rw [Object.parentKey?, binding]
    rfl
  rw [Object.ownerKey?, orphan, Option.none_or] at known
  obtain ⟨ref, -, leads⟩ := Option.bind_eq_some_iff.mp known
  cases ref <;> cases leads
  rfl

/-- An object has one controlling owner. Take a pass over an object that nobody deletes, while nobody else
writes, and let what the object refers to have a name and a uid. If the pass writes the entity, then the object
is stored with its parent as the only owner of the family, if the parent is referred to by name, otherwise with
its control plane, if that is, and otherwise with none; whatever owners it had before, those of other groups stay
as they are. Whatever else the pass comes to, it adds no other owner, and to a binding none but its control
plane. -/
theorem one_controlling_owner (env : Environment σ) (settings : OperatorSettings) (kind : ManagedKind)
    (ns name : String) (w : World σ) (undisturbed : env.Disturbs fun s t => t = s) {o : Object}
    (stored : w.store.findObject? ⟨kind, ns, name⟩ = some o) (kept : o.metadata.isDeleting = false)
    (identified : ∀ key t, o.Near key → w.store.findObject? key = some t → t.Identified) :
    (∀ y ∈ (visit env settings kind ns name w).talk, y.written?.isSome →
      ∃ x, (visit env settings kind ns name w).after.store.findObject? ⟨kind, ns, name⟩ = some x ∧
        OwnedOnce w.store o x) ∧
    ∀ x, (visit env settings kind ns name w).after.store.findObject? ⟨kind, ns, name⟩ = some x →
      ∀ r ∈ x.metadata.ownerList, r ∈ o.metadata.ownerList ∨
        ∃ key uid, o.ownerKey? = some key ∧ r = key.owner uid ∧
          (kind = .pluginBinding → key.kind = .managed .controlPlane) := by
  refine ⟨fun y said writes => ?_, fun x after r mem => ?_⟩
  · obtain ⟨⟨p, body⟩, written⟩ := Option.isSome_iff_exists.mp writes
    obtain ⟨o', o₂, w₂, prepares, -⟩ := (visit_course env settings kind ns name w).of_written said written
    obtain ⟨w₁, reads, -⟩ := prepares.reads
    cases reads.stored.1.symm.trans stored
    obtain ⟨x, desired, after, wants, owned⟩ :=
      Prepares.owned settings undisturbed identified prepares
    exact ⟨x, after, ownedOnce_of_wants identified wants owned⟩
  · rcases visit_owners undisturbed identified stored kept after with same | ⟨desired, wants, owned⟩
    · exact .inl (same ▸ mem)
    · rw [owned] at mem
      refine (OwnerReference.mem_reconcile mem).imp_right fun own => ?_
      cases known : o.ownerKey? with
      | none =>
        rw [known, own] at wants
        cases wants
      | some key =>
        rw [known] at wants
        obtain ⟨t, uid, -, -, -, same⟩ := wants.reference identified
        refine ⟨key, uid, rfl, Option.some.inj (own.symm.trans same), fun binding => ?_⟩
        refine kind_of_ownerKey? ?_ known
        rw [Object.kind_of_key (Store.key_of_findObject? stored)]
        exact binding

end

section

open Scene

def deployment : OwnerReference := ⟨"apps/v1", none, none, "Deployment", "shop", "u-10"⟩

/-- The route, owned by somebody else and by an earlier object that had the name of its control plane. -/
def claimed : Object :=
  { way with metadata := { way.metadata with ownerReferences := some [planeKey.owner "u-0", deployment] } }

def wayKey : Key := ⟨ManagedKind.route, "shop", "way"⟩

/-- The world with it, when control plane and service have their entities, and the first pass over it. -/
def contested : World Cloud := { joining.after with store := joining.after.store.put (.managed claimed) }

def claiming : Visit Cloud := visit calm OperatorSettings.default .route "shop" "way" contested

theorem identified_of_all {s : Store} {o : Object} (all : o.named.all fun key =>
      (s.findObject? key).all fun t => t.metadata.name.isSome && t.metadata.uid.isSome) :
    ∀ key t, o.Near key → s.findObject? key = some t → t.Identified := by
  intro key t near stored
  have there := List.all_eq_true.mp all key near.1
  rw [stored, Option.all_some, Bool.and_eq_true] at there
  exact ⟨there.1, there.2⟩

/-- The route goes over to its service, and keeps its other owner. The binding goes to its control plane, though
it is on the service and on the route. -/
theorem claimed_by_service :
    (∃ x, claiming.after.store.findObject? wayKey = some x ∧
      x.metadata.ownerList.filter (!·.inFamily) = [deployment] ∧
      x.metadata.ownerList.filter (·.inFamily) = [webKey.owner "u-1"]) ∧
    ∃ x, limitation.after.store.findObject? ⟨ManagedKind.pluginBinding, "shop", "limiting"⟩ = some x ∧
      x.metadata.ownerList.filter (·.inFamily) = [planeKey.owner "u-2"] ∧
      ∀ r ∈ x.metadata.ownerList, r.kind = ManagedKind.controlPlane.name := by
  have uid (s : Store) (key : Key) (known : String) {t : Object} {uid : String}
      (stored : s.findObject? key = some t) (own : t.metadata.uid = some uid)
      (holds : (s.findObject? key).any fun t => decide (t.metadata.uid = some known)) : uid = known := by
    rw [stored] at holds
    exact Option.some.inj (own.symm.trans (of_decide_eq_true holds))
  obtain ⟨o, stored, holds⟩ : ∃ o, contested.store.findObject? wayKey = some o ∧
      (decide (o.metadata.isDeleting = false ∧ o.ownerKey? = some webKey ∧
          o.metadata.ownerList.filter (!·.inFamily) = [deployment]) &&
        (contested.store.findObject? webKey).any (fun t => decide (t.metadata.uid = some "u-1")) &&
        o.named.all fun key => (contested.store.findObject? key).all fun t =>
          t.metadata.name.isSome && t.metadata.uid.isSome) :=
    (Option.any_eq_true _ _).mp (by decide +kernel)
  simp only [Bool.and_eq_true, decide_eq_true_eq] at holds
  obtain ⟨⟨⟨kept, owner, others⟩, own⟩, all⟩ := holds
  obtain ⟨o', stored', holds'⟩ :
      ∃ o, limited.store.findObject? ⟨ManagedKind.pluginBinding, "shop", "limiting"⟩ = some o ∧
      (decide (o.metadata.isDeleting = false ∧ o.ownerKey? = some planeKey ∧ o.metadata.ownerList = []) &&
        (limited.store.findObject? planeKey).any (fun t => decide (t.metadata.uid = some "u-2")) &&
        o.named.all fun key => (limited.store.findObject? key).all fun t =>
          t.metadata.name.isSome && t.metadata.uid.isSome) :=
    (Option.any_eq_true _ _).mp (by decide +kernel)
  simp only [Bool.and_eq_true, decide_eq_true_eq] at holds'
  obtain ⟨⟨⟨kept', owner', free⟩, own'⟩, all'⟩ := holds'
  obtain ⟨y, said, writes⟩ : ∃ y ∈ claiming.talk, y.written?.isSome := List.any_eq_true.mp (by decide +kernel)
  obtain ⟨y', said', writes'⟩ : ∃ y ∈ limitation.talk, y.written?.isSome :=
    List.any_eq_true.mp (by decide +kernel)
  obtain ⟨x, after, owned⟩ := (one_controlling_owner calm OperatorSettings.default .route "shop" "way"
    contested calm_writable.undisturbed stored kept (identified_of_all all)).1 y said writes
  obtain ⟨sets, adds⟩ := one_controlling_owner calm OperatorSettings.default .pluginBinding "shop" "limiting"
    limited calm_writable.undisturbed stored' kept' (identified_of_all all')
  obtain ⟨x', after', owned'⟩ := sets y' said' writes'
  have family := owned.family
  rw [owner] at family
  obtain ⟨t, u, found, -, known, family⟩ := family
  have family' := owned'.family
  rw [owner'] at family'
  obtain ⟨t', u', found', -, known', family'⟩ := family'
  rw [uid _ _ "u-1" found known own] at family
  rw [uid _ _ "u-2" found' known' own'] at family'
  refine ⟨⟨x, after, owned.others.trans others, family⟩, x', after', family', fun r mem => ?_⟩
  rcases adds x' after' r mem with old | ⟨key, v, -, rfl, plane⟩
  · rw [free] at old
    cases old
  · exact congrArg Kind.name (plane rfl)

end

end Reconcile

end GatewaySync
