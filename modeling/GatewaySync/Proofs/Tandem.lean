import GatewaySync.Proofs.Edits
import GatewaySync.Proofs.References
import Mathlib.Data.List.Perm.Subperm
/-!
# References resolved side by side

Two resolutions of the references of one object, made in worlds that hold the same objects of other
kinds, come to the same and run the same script, whatever the status of the object is. A script edits no
slot of the status twice, unless it ends with a disagreement about the control plane.
-/
namespace GatewaySync

open Object (slots slots_append slots_cons)

variable {σ α β : Type}

def Environment.refusal (env : Environment σ) (call : StoreCall) (x : σ) : Option ApiError :=
  match (env.fault call x).1 with
  | some (.refuse e) => some e
  | _ => none

theorem Environment.Readable.refusal {env : Environment σ} (readable : env.Readable) (key : Key) (y : σ) :
    env.refusal (.get key) y = none := by
  rw [Environment.refusal, readable key y]

namespace World

def fetched (env : Environment σ) (key : Key) (w : World σ) : Except SyncError (Option Resource) :=
  match env.refusal (.get key) w.outside with
  | some e => .error (.api e)
  | none => .ok (w.store.find? key)

theorem get_eq_fetched (env : Environment σ) (key : Key) (w : World σ) :
    w.get env key = (w.fetched env key, (w.attempt env (.get key)).2) := by
  have attempted : w.attempt env (.get key) =
    ((env.fault (.get key) w.outside).1, (w.attempt env (.get key)).2) := rfl
  rw [get, attempted, fetched, Environment.refusal]
  rcases (env.fault (.get key) w.outside).1 with _ | _ | _ <;> rfl

@[simp] theorem get_now (env : Environment σ) (key : Key) (w : World σ) :
    (w.get env key).2.now = w.now := by
  rw [get_eq_fetched]
  rfl

theorem get_outside (env : Environment σ) (key : Key) (w : World σ) :
    (w.get env key).2.outside = (env.fault (.get key) w.outside).2 := by
  rw [get_eq_fetched]
  rfl

theorem patchStatus_of_target (env : Environment σ) {w : World σ} {given o : Object}
    (target : w.store.patchTarget given = .ok o) :
    w.patchStatus env given =
      match env.refusal (.patchStatus given.key) w.outside with
      | some e => (.error (.api e), (w.attempt env (.patchStatus given.key)).2)
      | none => (.ok (), { (w.attempt env (.patchStatus given.key)).2 with
          store := w.store.put (.managed (Store.statusPatched o given)) }) := by
  have attempted : w.attempt env (.patchStatus given.key) =
    ((env.fault (.patchStatus given.key) w.outside).1, (w.attempt env (.patchStatus given.key)).2) := rfl
  have patched : w.store.patchStatus given =
      (.ok (), w.store.put (.managed (Store.statusPatched o given))) := by
    rw [Store.patchStatus, target]
  rw [patchStatus, attempted, Environment.refusal]
  rcases (env.fault (.patchStatus given.key) w.outside).1 with _ | _ | _ <;> simp [patched, Except.mapError]

theorem patchMetadata_of_target (env : Environment σ) {w : World σ} {given o : Object}
    (target : w.store.patchTarget given = .ok o) :
    w.patchMetadata env given =
      match (env.fault (.patchMetadata given.key) w.outside).1 with
      | some (.refuse e) => (.error (.api e), (w.attempt env (.patchMetadata given.key)).2)
      | some .vanish => (.ok none, { (w.attempt env (.patchMetadata given.key)).2 with
          store := w.store.erase given.key })
      | none =>
        if o.metadata.isDeleting ∧ given.metadata.finalizerList = [] then
          (.ok none, { (w.attempt env (.patchMetadata given.key)).2 with store := w.store.erase given.key })
        else
          (.ok (some (w.store.written (Store.metadataPatched o given))),
            { (w.attempt env (.patchMetadata given.key)).2 with
              store := w.store.put (.managed (Store.metadataPatched o given)) }) := by
  have attempted : w.attempt env (.patchMetadata given.key) =
    ((env.fault (.patchMetadata given.key) w.outside).1, (w.attempt env (.patchMetadata given.key)).2) := rfl
  have key : o.key = given.key := Store.key_of_patchTarget target
  rw [patchMetadata, attempted]
  rcases (env.fault (.patchMetadata given.key) w.outside).1 with _ | _ | _
  · simp only [attempt_store, Store.patchMetadata, target]
    split_ifs
    · rfl
    · simp [Store.findObject?_put, key, Except.mapError]
  · rfl
  · rfl

end World

/-- Two environments in which an object of a kind is dealt with side by side, at two times. Their worlds
stay near each other, and a read is refused in both of them unless that excuses the side that it is refused
on. What is seen is the same in both, by default all that is of another kind. -/
structure Tandem (env env' : Environment σ) (kind : ManagedKind) where
  now : Instant
  now' : Instant
  sees : Key → Prop := fun key => key.kind ≠ .managed kind
  near : World σ → World σ → Prop
  fails : SyncError → Prop
  fails' : SyncError → Prop
  drift : ∀ call w w', near w w' → near (w.attempt env call).2 (w'.attempt env' call).2
  reads : ∀ key w w', near w w' →
    (∃ e, env.refusal (.get key) w.outside = some e ∧ fails (.api e)) ∨
      (∃ e, env'.refusal (.get key) w'.outside = some e ∧ fails' (.api e)) ∨
        env'.refusal (.get key) w'.outside = env.refusal (.get key) w.outside

namespace Tandem

open Pass

variable {env env' : Environment σ} {kind : ManagedKind} (T : Tandem env env' kind)

structure Beside (w w' : World σ) : Prop where
  store : ∀ key, T.sees key → w'.store.find? key = w.store.find? key
  near : T.near w w'
  now : w.now = T.now
  now' : w'.now = T.now'

/-- Both runs come to the same by the same script, or one of them fails in a way that is excused. -/
inductive Agree (P : Except SyncError α → List Edit → Prop) (p p' : Pass σ α) (o o' : Object)
    (w w' : World σ) : Prop
  | left {e : SyncError} {x : Object} {v : World σ} (run : p.onObject o w = (.error e, x, v))
      (excused : T.fails e)
  | right {e : SyncError} {x : Object} {v : World σ} (run' : p'.onObject o' w' = (.error e, x, v))
      (excused : T.fails' e)
  | both {r : Except SyncError α} {l : List Edit} {v v' : World σ}
      (run : p.onObject o w = (r, o.edited T.now l, v))
      (run' : p'.onObject o' w' = (r, o'.edited T.now' l, v'))
      (beside : T.Beside v v') (script : P r l)

variable {T} {P Q : Except SyncError α → List Edit → Prop} {p p' : Pass σ α} {f f' : α → Pass σ β}
  {o o' : Object} {w w' : World σ}

theorem Agree.mono (h : T.Agree P p p' o o' w w') (sub : ∀ r es, P r es → Q r es) :
    T.Agree Q p p' o o' w w' := by
  cases h with
  | left run excused => exact .left run excused
  | right run' excused => exact .right run' excused
  | both run run' beside script => exact .both run run' beside (sub _ _ script)

theorem Agree.congr {q q' : Pass σ α} (h : T.Agree P q q' o o' w w')
    (left : p.onObject o w = q.onObject o w) (right : p'.onObject o' w' = q'.onObject o' w') :
    T.Agree P p p' o o' w w' := by
  cases h with
  | left run excused => exact .left (left.trans run) excused
  | right run' excused => exact .right (right.trans run') excused
  | both run run' beside script => exact .both (left.trans run) (right.trans run') beside script

theorem agree_pure (beside : T.Beside w w') {a : α} (script : P (.ok a) []) :
    T.Agree P (pure a) (pure a) o o' w w' :=
  .both rfl rfl beside script

theorem agree_throw (beside : T.Beside w w') {e : SyncError} (script : P (.error e) []) :
    T.Agree P (throw e) (throw e) o o' w w' :=
  .both rfl rfl beside script

theorem Agree.object {f f' : Object → Pass σ α} (h : T.Agree P (f o) (f' o') o o' w w') :
    T.Agree P (object >>= f) (object >>= f') o o' w w' := by
  cases h with
  | left run excused => exact .left ((onObject_bind_ok (onObject_object o w)).trans run) excused
  | right run' excused => exact .right ((onObject_bind_ok (onObject_object o' w')).trans run') excused
  | both run run' beside script =>
    exact .both ((onObject_bind_ok (onObject_object o w)).trans run)
      ((onObject_bind_ok (onObject_object o' w')).trans run') beside script

/-- A sequence agrees if its parts do; what it does is the script of the first part and then that of the
second one. -/
theorem Agree.bind {Q : Except SyncError β → List Edit → Prop} (first : T.Agree P p p' o o' w w')
    (failed : ∀ e es, P (.error e) es → Q (.error e) es)
    (next : ∀ a es v v', P (.ok a) es → T.Beside v v' →
      T.Agree (fun r ds => Q r (es ++ ds)) (f a) (f' a) (o.edited T.now es) (o'.edited T.now' es) v v') :
    T.Agree Q (p >>= f) (p' >>= f') o o' w w' := by
  cases first with
  | left run excused => exact .left (onObject_bind_error run) excused
  | right run' excused => exact .right (onObject_bind_error run') excused
  | @both r es v v' run run' beside script =>
    cases r with
    | error e => exact .both (onObject_bind_error run) (onObject_bind_error run') beside (failed e es script)
    | ok a =>
      cases next a es v v' script beside with
      | left run₂ excused => exact .left ((onObject_bind_ok run).trans run₂) excused
      | right run₂' excused => exact .right ((onObject_bind_ok run').trans run₂') excused
      | @both r ds u u' run₂ run₂' beside script =>
        rw [← Object.edited_append] at run₂ run₂'
        exact .both ((onObject_bind_ok run).trans run₂) ((onObject_bind_ok run').trans run₂') beside script

theorem Agree.modify (e : Edit) {g : Object → Object} {f f' : Unit → Pass σ α}
    (edit : ∀ t x, g x = e.apply t x)
    (rest : T.Agree (fun r ds => P r (e :: ds)) (f ()) (f' ()) (e.apply T.now o) (e.apply T.now' o') w w') :
    T.Agree P (modifyObject g >>= f) (modifyObject g >>= f') o o' w w' := by
  have run := onObject_modifyObject (σ := σ) g o w
  have run' := onObject_modifyObject (σ := σ) g o' w'
  rw [edit T.now] at run
  rw [edit T.now'] at run'
  cases rest with
  | left next excused => exact .left ((onObject_bind_ok run).trans next) excused
  | right next' excused => exact .right ((onObject_bind_ok run').trans next') excused
  | both next next' beside script =>
    exact .both ((onObject_bind_ok run).trans next) ((onObject_bind_ok run').trans next') beside script

theorem Agree.note (v : Verdict) {f f' : Unit → Pass σ α} (beside : T.Beside w w')
    (rest : T.Agree (fun r ds => P r (.note v :: ds)) (f ()) (f' ()) (o.record v T.now)
      (o'.record v T.now') w w') :
    T.Agree P (Pass.record v >>= f) (Pass.record v >>= f') o o' w w' := by
  have run := onObject_record v o w
  have run' := onObject_record v o' w'
  rw [beside.now] at run
  rw [beside.now'] at run'
  cases rest with
  | left next excused => exact .left ((onObject_bind_ok run).trans next) excused
  | right next' excused => exact .right ((onObject_bind_ok run').trans next') excused
  | both next next' beside script =>
    exact .both ((onObject_bind_ok run).trans next) ((onObject_bind_ok run').trans next') beside script

theorem agree_get (beside : T.Beside w w') {key : Key} (seen : T.sees key) :
    T.Agree (fun _ es => es = []) (tryWorld (World.get env key)) (tryWorld (World.get env' key)) o o'
      w w' := by
  have run := onObject_tryWorld (World.get env key) o w
  have run' := onObject_tryWorld (World.get env' key) o' w'
  rw [World.get_eq_fetched] at run run'
  rcases T.reads key w w' beside.near with
    ⟨e, refused, excused⟩ | ⟨e, refused, excused⟩ | same
  · rw [World.fetched, refused] at run
    exact .left run excused
  · rw [World.fetched, refused] at run'
    exact .right run' excused
  · have fetched : w'.fetched env' key = w.fetched env key := by
      rw [World.fetched, World.fetched, same, beside.store key seen]
    rw [fetched] at run'
    refine .both (l := []) run run' ⟨beside.store, ?_, beside.now, beside.now'⟩ rfl
    exact T.drift (.get key) _ _ beside.near

/-- The objects at hand differ at most in what a resolution does not read. Whether their entity has an id
only matters for the words of one failure. -/
structure Resembles (T : Tandem env env' kind) (o o' : Object) : Prop where
  kind : o.kind = kind
  spec : o'.spec.stored = o.spec.stored
  ns : o'.metadata.namespaceText = o.metadata.namespaceText
  name : o'.metadata.nameText = o.metadata.nameText
  known : (o'.konnectId = "" ↔ o.konnectId = "") ∨
    ∀ op kind key, T.fails (.missingControlPlaneId op kind key)

structure Sighted (T : Tandem env env' kind) (o o' : Object) : Prop extends T.Resembles o o' where
  seen : ∀ key, o.Near key → T.sees key

namespace Resembles

variable (h : T.Resembles o o')

include h

theorem kind' : o'.kind = o.kind := Object.kind_congr h.spec

theorem keyText : o'.keyText = o.keyText := by
  rw [Object.keyText, Metadata.keyText, h.ns, h.name]
  rfl

theorem controlPlaneRef : o'.spec.controlPlaneRef = o.spec.controlPlaneRef :=
  Object.controlPlaneRef_congr h.spec

theorem linkTo (target : ManagedKind) : o'.linkTo target = o.linkTo target :=
  Object.linkTo_congr h.spec target

theorem edited {es : List Edit} (other : .coordinate .id ∉ slots es) :
    T.Resembles (o.edited T.now es) (o'.edited T.now' es) where
  kind := (o.edited_kind _ es).trans h.kind
  spec := by rw [Object.edited_spec_stored, Object.edited_spec_stored, h.spec]
  ns := by rw [Object.edited_metadata, Object.edited_metadata, h.ns]
  name := by rw [Object.edited_metadata, Object.edited_metadata, h.name]
  known := by
    have id (x : Object) (t : Instant) : (x.edited t es).konnectId = x.konnectId :=
      Object.edited_get other x t
    rw [id, id]
    exact h.known

end Resembles

theorem Sighted.edited (h : T.Sighted o o') {es : List Edit} (other : .coordinate .id ∉ slots es) :
    T.Sighted (o.edited T.now es) (o'.edited T.now' es) where
  toResembles := h.toResembles.edited other
  seen key near := by
    rw [Object.Near, Object.named_congr (o.edited_spec_stored _ _) (by rw [o.edited_metadata]),
      o.edited_metadata] at near
    exact h.seen key near

def Within (may : List Slot) (es : List Edit) : Prop := (slots es).Subperm may

theorem within_nil (may : List Slot) : Within may [] := List.nil_subperm

theorem Within.append {may more : List Slot} {es ds : List Edit} (h : Within may es)
    (h' : Within more ds) : Within (may ++ more) (es ++ ds) := by
  rw [Within, slots_append]
  exact List.Subperm.append h h'

theorem Within.once {may : List Slot} {es : List Edit} (h : Within may es) (once : may.Nodup)
    (s : Slot) : (slots es).count s ≤ 1 :=
  Nat.le_trans (List.Subperm.count_le h s) (List.nodup_iff_count_le_one.mp once s)

theorem Within.not_mem {may : List Slot} {es : List Edit} {s : Slot} (h : Within may es)
    (other : s ∉ may) : s ∉ slots es := fun there => other (h.subset there)

theorem Within.cons {may : List Slot} {e : Edit} {ds : List Edit} (h : Within may ds) :
    Within (e.slot?.toList ++ may) (e :: ds) := by
  rw [Within, slots_cons]
  exact (List.subperm_append_left _).mpr h

theorem refuse_agree {condition : String} (reason : String) (e : SyncError) (beside : T.Beside w w') :
    T.Agree (fun r es => r = .error e ∧ es = [.note ⟨condition, .false, reason, e.message⟩])
      (Resolve.refuse condition reason e : Pass σ α) (Resolve.refuse condition reason e) o o' w w' :=
  Agree.note _ beside (agree_throw beside ⟨rfl, rfl⟩)

/-- A lookup only edits the object if it finds nothing of use. -/
theorem lookup_agree (h : T.Sighted o o') (beside : T.Beside w w') (condition : String)
    {target : ManagedKind} {name : String} {ns : Option String}
    (seen : ns.getD o.metadata.namespaceText = o.metadata.namespaceText →
      T.sees ⟨target, o.metadata.namespaceText, name⟩) :
    T.Agree (fun r es => Within [.condition condition] es ∧ ∀ x, r = .ok (some x) → es = [])
      (Resolve.lookup env condition target name ns) (Resolve.lookup env' condition target name ns) o o'
      w w' := by
  have noted (reason message : String) :
      Within [.condition condition] [.note ⟨condition, .false, reason, message⟩] := .refl _
  apply Agree.object
  rw [h.ns, h.kind', h.keyText]
  dsimp only
  split
  · refine (refuse_agree _ _ beside).mono ?_
    rintro r es ⟨rfl, rfl⟩
    exact ⟨noted _ _, by simp⟩
  · rename_i near
    refine (agree_get beside (seen (Decidable.not_not.mp near))).bind
      (fun _ _ script => ⟨script ▸ within_nil _, by simp⟩) ?_
    rintro found es v v' rfl beside
    split
    · refine (refuse_agree _ _ beside).mono ?_
      rintro r es ⟨rfl, rfl⟩
      exact ⟨noted _ _, by simp⟩
    · refine (refuse_agree _ _ beside).mono ?_
      rintro r es ⟨rfl, rfl⟩
      exact ⟨noted _ _, by simp⟩
    · exact Agree.note _ beside (agree_pure beside ⟨noted _ _, by simp⟩)
    · exact agree_pure beside ⟨within_nil _, by simp⟩

theorem lookupOrForget_agree (h : T.Sighted o o') (beside : T.Beside w w') (condition : String)
    (f : Field) {target : ManagedKind} {name : String} {ns : Option String}
    (seen : ns.getD o.metadata.namespaceText = o.metadata.namespaceText →
      T.sees ⟨target, o.metadata.namespaceText, name⟩) :
    T.Agree (fun r es => Within [.coordinate f, .condition condition] es ∧
        ∀ x, r = .ok (some x) → es = [])
      (Resolve.lookupOrForget env (·.withKonnect (·.set f "")) condition target name ns)
      (Resolve.lookupOrForget env' (·.withKonnect (·.set f "")) condition target name ns) o o' w w' := by
  cases lookup_agree h beside condition seen with
  | left run excused => exact .left (Resolve.onObject_lookupOrForget _ run) excused
  | right run' excused => exact .right (Resolve.onObject_lookupOrForget _ run') excused
  | @both r es v v' run run' beside script =>
    have found := Resolve.onObject_lookupOrForget (·.withKonnect (·.set f "")) run
    have found' := Resolve.onObject_lookupOrForget (·.withKonnect (·.set f "")) run'
    have forgot (x : Object) (t : Instant) : (x.edited t es).withKonnect (·.set f "") =
        x.edited t (es ++ [.coordinate f ""]) := (x.edited_append t es [.coordinate f ""]).symm
    have more : Within [.coordinate f, .condition condition] (es ++ [.coordinate f ""]) :=
      (script.1.append (.refl _)).trans (List.Perm.swap _ _ []).subperm
    rcases r with e | _ | target
    · rw [forgot] at found found'
      exact .both found found' beside ⟨more, by simp⟩
    · rw [forgot] at found found'
      exact .both found found' beside ⟨more, by simp⟩
    · obtain rfl := script.2 target rfl
      exact .both found found' beside ⟨within_nil _, by simp⟩

/-- What a stage of the resolution does and passes on: the slots that it edits at most, those that are
edited if it goes well, and an owner of the family. -/
structure Settles (may must : List Slot) (r : Except SyncError Resolution) (es : List Edit) : Prop where
  within : Within may es
  brings : ∀ q, r = .ok q → q ≠ .notReady → ∀ s ∈ must, s ∈ slots es
  family : ∀ q, r = .ok q → ∀ d ∈ q.owner?, d.inFamily = true

theorem settles_of_unready {may must : List Slot} {r : Except SyncError Resolution} {es : List Edit}
    (within : Within may es) (unready : ∀ q, r = .ok q → q = .notReady) : Settles may must r es where
  within := within
  brings q same ready := absurd (unready q same) ready
  family q same d owned := by
    rw [unready q same] at owned
    cases owned

theorem parent_agree (h : T.Sighted o o') (beside : T.Beside w w') {target : ManagedKind}
    (has : kind.parentKind? = some target) :
    T.Agree (Settles [.coordinate .parentId, .condition target.linkCondition] [.coordinate .parentId])
      (Resolve.parent env target) (Resolve.parent env' target) o o' w w' := by
  have found {q : Resolution} (id : String) (family : ∀ d ∈ q.owner?, d.inFamily = true) :
      Settles [.coordinate .parentId, .condition target.linkCondition] [.coordinate .parentId] (.ok q)
        [.coordinate .parentId id, .note (.valid target.linkCondition)] :=
    { within := .refl _
      brings := fun _ _ _ _ hs => List.mem_cons.mpr (.inl (List.mem_singleton.mp hs))
      family := fun _ same => by
        cases same
        exact family }
  apply Agree.object
  rw [h.linkTo]
  dsimp only
  split
  · exact Agree.modify (.coordinate .parentId "") (fun _ _ => rfl)
      (Agree.note _ beside (agree_pure beside (found "" (by simp [Resolution.owner?]))))
  · rename_i id link
    exact Agree.modify (.coordinate .parentId id) (fun _ _ => rfl)
      (Agree.note _ beside (agree_pure beside (found id (by simp [Resolution.owner?]))))
  · rename_i name ns link
    refine (lookupOrForget_agree h beside _ .parentId fun near =>
      h.seen _ (Object.near_parent (h.kind ▸ has) link near)).bind
      (fun e es script => settles_of_unready script.1 (by simp)) ?_
    rintro (_ | x) es v v' ⟨within, only⟩ beside
    · exact agree_pure beside (settles_of_unready (by simpa using within) (by simp))
    · obtain rfl := only x rfl
      exact Agree.modify (.coordinate .parentId x.konnectId) (fun _ _ => rfl)
        (Agree.note _ beside (agree_pure beside
          (found x.konnectId fun d owned => Object.ownerReference?_inFamily owned)))

def homeOf (kind : ManagedKind) : List Slot :=
  if kind.controlPlaneScoped then [.coordinate .controlPlaneId] else []

theorem eq_of_mem_homeOf {s : Slot} (h : s ∈ homeOf kind) : s = .coordinate .controlPlaneId := by
  unfold homeOf at h
  split_ifs at h
  · exact List.mem_singleton.mp h
  · cases h

theorem controlPlane_agree (h : T.Sighted o o') (beside : T.Beside w w')
    (inherited : Option String) :
    T.Agree (Settles [.coordinate .controlPlaneId, .condition ConditionType.controlPlaneRefValid]
        (homeOf kind))
      (Resolve.controlPlane env inherited) (Resolve.controlPlane env' inherited) o o' w w' := by
  have set {q : Resolution} (id : String) {rest : List Edit}
      (within : Within [.condition ConditionType.controlPlaneRefValid] rest)
      (family : ∀ d ∈ q.owner?, d.inFamily = true) :
      Settles [.coordinate .controlPlaneId, .condition ConditionType.controlPlaneRefValid]
        (homeOf kind) (.ok q)
        (.coordinate .controlPlaneId id :: rest) :=
    { within := within.cons
      brings := fun _ _ _ _ hs => List.mem_cons.mpr (.inl (eq_of_mem_homeOf hs))
      family := fun _ same => by
        cases same
        exact family }
  apply Agree.object
  rw [h.kind', h.controlPlaneRef, h.kind, h.keyText]
  dsimp only
  split
  · rename_i unscoped
    have none : homeOf kind = [] := if_neg (by simpa using unscoped)
    refine agree_pure beside ⟨within_nil _, fun _ _ _ s hs => ?_, fun q same => ?_⟩
    · rw [none] at hs
      cases hs
    · cases same
      simp [Resolution.owner?]
  · rename_i inside
    split
    · rename_i id ref
      exact Agree.modify (.coordinate .controlPlaneId id) (fun _ _ => rfl)
        (agree_pure beside (set id (within_nil _) (by simp [Resolution.owner?])))
    · rcases h.known with same | excused
      · rw [if_congr same rfl rfl]
        exact Agree.modify (.coordinate .controlPlaneId "") (fun _ _ => rfl)
          (agree_throw beside (settles_of_unready ((within_nil _).cons) (by simp)))
      · exact .left (onObject_bind_ok (onObject_modifyObject _ o w)) (excused _ _ _)
    · rename_i id ref
      exact Agree.modify (.coordinate .controlPlaneId id) (fun _ _ => rfl)
        (Agree.note _ beside (agree_pure beside (set id (.refl _) (by simp [Resolution.owner?]))))
    · rename_i name ns ref
      refine (lookupOrForget_agree h beside _ .controlPlaneId fun near =>
        h.seen _ (Object.near_of_controlPlaneRef ref near)).bind
        (fun e es script => settles_of_unready script.1 (by simp)) ?_
      rintro (_ | x) es v v' ⟨within, only⟩ beside
      · exact agree_pure beside (settles_of_unready (by simpa using within) (by simp))
      · obtain rfl := only x rfl
        exact Agree.modify (.coordinate .controlPlaneId x.konnectId) (fun _ _ => rfl)
          (Agree.note _ beside (agree_pure beside
            (set x.konnectId (.refl _) fun d owned => Object.ownerReference?_inFamily owned)))

theorem plugin_agree (beside : T.Beside w w') {ns name : String} (seen : T.sees ⟨.plugin, ns, name⟩) :
    T.Agree (fun _ es => Within [.condition ConditionType.pluginRefValid] es)
      (Resolve.plugin env ns name) (Resolve.plugin env' ns name) o o' w w' := by
  have noted (v : Verdict) (type : v.type = ConditionType.pluginRefValid) :
      Within [.condition ConditionType.pluginRefValid] [.note v] := type ▸ .refl _
  refine (agree_get beside seen).bind (fun _ _ script => script ▸ within_nil _) ?_
  rintro found es v v' rfl beside
  split
  · split
    · refine (refuse_agree _ _ beside).mono ?_
      rintro r es ⟨rfl, rfl⟩
      exact noted _ rfl
    · exact Agree.note _ beside (agree_pure beside (noted _ rfl))
  · refine (refuse_agree _ _ beside).mono ?_
    rintro r es ⟨rfl, rfl⟩
    exact noted _ rfl

theorem target_agree (h : T.Sighted o o') (beside : T.Beside w w') {target : ManagedKind}
    {name : Option String} (seen : ∀ n, name = some n → T.sees ⟨target, o.metadata.namespaceText, n⟩) :
    T.Agree (fun _ es => Within [.condition target.linkCondition] es) (Resolve.target env target name)
      (Resolve.target env' target name) o o' w w' := by
  cases name with
  | none => exact agree_pure beside (within_nil _)
  | some name =>
    refine (lookup_agree h beside _ fun _ => seen name rfl).bind (fun _ _ script => script.1) ?_
    rintro (_ | x) es v v' ⟨within, only⟩ beside
    · exact agree_pure beside (by simpa using within)
    · obtain rfl := only x rfl
      exact Agree.note _ beside (agree_pure beside (.refl _))

/-- A control plane disagrees with another one: that is noted last, on a condition that may have been
noted before. -/
inductive Disagrees {α : Type} (may : List Slot) : Except SyncError α → List Edit → Prop
  | noted {before : List Edit} (condition message : String) {kind key refKind own other : String}
      (within : Within may before) :
      Disagrees may (.error (.controlPlaneMismatch kind key refKind own other))
        (before ++ [.note ⟨condition, .false, Reason.controlPlaneMismatch, message⟩])

def bindingSlots : List Slot :=
  [.condition ConditionType.pluginRefValid, .condition ConditionType.serviceRefValid,
    .condition ConditionType.routeRefValid, .condition ConditionType.consumerRefValid]

theorem binding_agree (h : T.Sighted o o') (beside : T.Beside w w') {s : PluginBindingSpec}
    (spec : o.spec = .pluginBinding s) :
    T.Agree (fun r es =>
        (Settles bindingSlots [] r es ∨ Disagrees bindingSlots r es) ∧ .binding none ∈ es)
      (Resolve.binding env s) (Resolve.binding env' s) o o' w w' := by
  have aimed {x : Object} {target : ManagedKind} {name : Option String} (same : x.metadata = o.metadata)
      (link : o.linkTo target = name.map .named) :
      ∀ n, name = some n → T.sees ⟨target, x.metadata.namespaceText, n⟩ := by
    rintro n rfl
    rw [same]
    exact h.seen _ (Object.near_target spec link)
  have failed {may : List Slot} (more : List Slot) (whole : bindingSlots = may ++ more) {e : SyncError}
      {es : List Edit} (within : Within may es) : Settles bindingSlots [] (.error e) es :=
    settles_of_unready (within.trans (whole ▸ (List.sublist_append_left may more).subperm)) (by simp)
  have cleared : T.Sighted (o.edited T.now [.binding none]) (o'.edited T.now' [.binding none]) :=
    h.edited (by simp [slots, Edit.slot?])
  have next {x x' : Object} {es : List Edit} {condition : String} (h : T.Sighted x x')
      (within : Within [.condition condition] es) :
      T.Sighted (x.edited T.now es) (x'.edited T.now' es) :=
    h.edited (within.not_mem (by simp))
  refine Agree.modify (.binding none) (fun _ _ => rfl) (Agree.mono (P := fun r ds =>
    Settles bindingSlots [] r (.binding none :: ds) ∨ Disagrees bindingSlots r (.binding none :: ds))
    ?_ fun _ _ script => ⟨script, List.mem_cons_self⟩)
  apply Agree.object
  rw [show (Edit.apply T.now' o' (.binding none)).metadata.namespaceText = _ from cleared.ns]
  refine (plugin_agree beside (by simpa using h.seen _ (Object.near_applied spec))).bind
    (fun _ _ w₁ => .inl (failed _ rfl w₁.cons)) ?_
  intro applied es₁ _ _ w₁ beside
  have h₁ := next cleared w₁
  refine (target_agree h₁ beside (aimed (by simp) (by simp [Object.linkTo, spec]))).bind
    (fun _ _ w₂ => .inl (failed _ rfl (w₁.append w₂).cons)) ?_
  intro service es₂ _ _ w₂ beside
  have h₂ := next h₁ w₂
  refine (target_agree h₂ beside (aimed (by simp) (by simp [Object.linkTo, spec]))).bind
    (fun _ _ w₃ => .inl (failed _ rfl (w₁.append (w₂.append w₃)).cons)) ?_
  intro route es₃ _ _ w₃ beside
  have h₃ := next h₂ w₃
  refine (target_agree h₃ beside (aimed (by simp) (by simp [Object.linkTo, spec]))).bind
    (fun _ _ w₄ => .inl (failed [] rfl (w₁.append (w₂.append (w₃.append w₄))).cons)) ?_
  intro consumer es₄ _ _ w₄ beside
  have within : Within bindingSlots (.binding none :: (es₁ ++ (es₂ ++ (es₃ ++ es₄)))) :=
    (w₁.append (w₂.append (w₃.append w₄))).cons
  dsimp only
  split
  · exact agree_pure beside (.inl (settles_of_unready (by simpa using within) (by simp)))
  · split
    · rename_i target own other disagree
      rw [show (Edit.apply T.now' o' (.binding none)).kind = _ from cleared.kind',
        show (Edit.apply T.now' o' (.binding none)).keyText = _ from cleared.keyText]
      refine (refuse_agree _ _ beside).mono ?_
      rintro r es ⟨rfl, rfl⟩
      simpa using Or.inr (Disagrees.noted target.linkCondition _ within)
    · refine Agree.modify (.binding (some _)) (fun _ _ => rfl) (agree_pure beside (.inl ?_))
      refine ⟨?_, by simp, fun q same => ?_⟩
      · have more (r : Option ResolvedBinding) :
            Within bindingSlots ((.binding none :: (es₁ ++ (es₂ ++ (es₃ ++ es₄)))) ++ [.binding r]) :=
          within.append (within_nil []).cons
        simpa using more _
      · cases same
        simp [Resolution.owner?]

def parentSlots : ManagedKind → List Slot
  | .pluginBinding => bindingSlots
  | kind =>
    match kind.parentKind? with
    | some parent => [.coordinate .parentId, .condition parent.linkCondition]
    | none => []

def parentIdOf (kind : ManagedKind) : List Slot :=
  if kind.parentKind?.isSome then [.coordinate .parentId] else []

/-- Either both desired states are those of bindings, or they are the same. -/
theorem spec_cases {a b : Spec} (h : b.stored = a.stored) :
    (∃ s r, a = .pluginBinding s ∧ b = .pluginBinding { s with resolved := r }) ∨
      (b = a ∧ ∀ s, a ≠ .pluginBinding s) := by
  cases a with
  | pluginBinding s =>
    cases b with
    | pluginBinding s' =>
      refine .inl ⟨s, s'.resolved, rfl, ?_⟩
      injection h with h
      rcases s with ⟨⟩
      rcases s' with ⟨⟩
      cases h
      rfl
    | _ => cases h
  | _ =>
    refine .inr ⟨?_, by simp⟩
    cases b with
    | pluginBinding => cases h
    | _ => exact h

/-- What a script makes of the desired states is the same once it says what a binding applies. -/
theorem Resembles.edited_spec (h : T.Resembles o o') {es : List Edit}
    (binds : kind = .pluginBinding → .binding none ∈ es) :
    (o'.edited T.now' es).spec = (o.edited T.now es).spec := by
  rcases spec_cases h.spec with ⟨s, r, spec, -⟩ | ⟨same, -⟩
  · have binding : kind = .pluginBinding := by
      rw [← h.kind, Object.kind, spec]
      rfl
    exact Object.edited_spec_of_binding (binds binding) h.spec T.now T.now'
  · exact Object.edited_spec_congr same T.now' T.now es

/-- What the resolution of the parent does and passes on. An object that lives in no control plane
inherits none, and what a binding applied before is dropped. -/
def Parents (kind : ManagedKind) (r : Except SyncError Resolution) (es : List Edit) : Prop :=
  (Settles (parentSlots kind) (parentIdOf kind) r es ∧
      (kind.controlPlaneScoped = false → ∀ q, r = .ok q → q.inherited? = none) ∨
    Disagrees (parentSlots kind) r es) ∧ (kind = .pluginBinding → .binding none ∈ es)

theorem parentOf_agree (h : T.Sighted o o') (beside : T.Beside w w') :
    T.Agree (Parents kind) (Resolve.parentOf env) (Resolve.parentOf env') o o' w w' := by
  have own := h.kind
  have own' := h.kind'.trans own
  rcases spec_cases h.spec with ⟨s, r, spec, spec'⟩ | ⟨same, unbound⟩
  · have binds : kind = .pluginBinding := by
      rw [← own, Object.kind, spec]
      rfl
    subst binds
    have bound : (Resolve.parentOf env').onObject o' w' = (Resolve.binding env' s).onObject o' w' :=
      (Resolve.parentOf_eq_binding spec').trans rfl
    refine ((binding_agree h beside spec).mono fun r es script => ?_).congr
      (Resolve.parentOf_eq_binding spec) bound
    exact ⟨script.1.imp_left fun settles => ⟨settles, fun unscoped => absurd unscoped (by decide)⟩,
      fun _ => script.2⟩
  · cases has : kind.parentKind? with
    | some parent =>
      have slots : parentSlots kind = [.coordinate .parentId, .condition parent.linkCondition] := by
        cases kind <;> cases has <;> rfl
      have must : parentIdOf kind = [.coordinate .parentId] := by
        rw [parentIdOf, has]
        rfl
      have inside : kind.controlPlaneScoped = true := by
        cases kind <;> first | rfl | cases has
      have single : kind ≠ .pluginBinding := by
        rintro rfl
        cases has
      refine ((parent_agree h beside has).mono fun r es script =>
        ⟨.inl ⟨by rwa [slots, must], ?_⟩, fun binds => absurd binds single⟩).congr
        (Resolve.parentOf_eq_parent (own ▸ has)) (Resolve.parentOf_eq_parent (own' ▸ has))
      intro unscoped
      rw [inside] at unscoped
      cases unscoped
    | none =>
      have must : parentIdOf kind = [] := by
        rw [parentIdOf, has]
        rfl
      have single : kind ≠ .pluginBinding := by
        rintro rfl
        cases spec : o.spec <;> rw [Object.kind, spec] at own <;> cases own
        exact unbound _ spec
      have unset : T.Agree (Parents kind) (pure Resolution.unset) (pure Resolution.unset) o o' w w' := by
        refine agree_pure beside ⟨.inl ⟨⟨within_nil _, fun _ _ _ s hs => ?_, fun q same => ?_⟩, ?_⟩,
          fun binds => absurd binds single⟩
        · rw [must] at hs
          cases hs
        · cases same
          simp [Resolution.owner?]
        · intro _ q same
          cases same
          rfl
      exact unset.congr (Resolve.parentOf_eq_unset (own ▸ has) unbound)
        (Resolve.parentOf_eq_unset (own' ▸ has) (same ▸ unbound))

end Tandem

namespace Object

/-- What an object is edited to does not matter to its owners. -/
theorem ownedBy_metadata_congr (desired : Option OwnerReference) {a b : Object}
    (same : a.metadata = b.metadata) (t u : Instant) (es ds : List Edit) :
    ((a.edited t es).ownedBy desired).metadata = ((b.edited u ds).ownedBy desired).metadata := by
  unfold ownedBy
  rw [a.edited_metadata, b.edited_metadata, same]
  split <;> simp only [edited_metadata, same]

end Object

namespace Tandem

open Pass

variable {env env' : Environment σ} {kind : ManagedKind} {T : Tandem env env' kind}
  {o o' : Object} {w w' : World σ}

def disagreed (o : Object) (parentControlPlane : String) : SyncError :=
  let info := o.kind.parentInfo?.getD ⟨"ControlPlane", ConditionType.controlPlaneRefValid⟩
  .controlPlaneMismatch o.kind.name o.keyText info.kind o.controlPlaneId parentControlPlane

theorem onObject_finish (owner home : Option OwnerReference) (inherited : Option String) (o : Object)
    (w : World σ) :
    (Resolve.references.finish owner home inherited).onObject o w =
      match inherited.filter (· ≠ o.controlPlaneId) with
      | none => (.ok .ready, o.ownedBy (owner.or home), w)
      | some id => (.error (disagreed o id), o.record ⟨Resolve.mismatchCondition o, .false,
          Reason.controlPlaneMismatch, (disagreed o id).message⟩ w.now, w) := by
  rw [Resolve.references.finish, onObject_bind_ok (onObject_object o w)]
  cases inherited with
  | none => exact onObject_bind_ok (onObject_modifyObject _ o w)
  | some id =>
    by_cases agrees : id = o.controlPlaneId
    · simp only [agrees, ne_eq, not_true_eq_false, if_false, Option.filter, decide_false]
      exact onObject_bind_ok (onObject_modifyObject _ o w)
    · simp only [agrees, ne_eq, not_false_eq_true, if_true, Option.filter, decide_true]
      refine onObject_bind_error ?_
      rw [Resolve.mismatch, onObject_bind_ok (onObject_object o w)]
      exact Resolve.onObject_refuse o w _ _ _

def referenceSlots (kind : ManagedKind) : List Slot :=
  parentSlots kind ++ [.coordinate .controlPlaneId, .condition ConditionType.controlPlaneRefValid]

theorem referenceSlots_nodup (kind : ManagedKind) : (referenceSlots kind).Nodup := by
  cases kind <;> decide

/-- Neither the verdict on the entity nor its id, server and organization are a matter of references. -/
theorem not_mem_referenceSlots (kind : ManagedKind) :
    .condition ConditionType.programmed ∉ referenceSlots kind ∧ .coordinate .id ∉ referenceSlots kind ∧
      .coordinate .serverUrl ∉ referenceSlots kind ∧ .coordinate .orgId ∉ referenceSlots kind := by
  cases kind <;> decide

variable (T) in
/-- Both resolutions come to the same by the same script, or one of them fails in a way that is
excused. -/
inductive Resolved (o o' : Object) (w w' : World σ) : Prop
  | left {e : SyncError} {x : Object} {v : World σ}
      (run : (Resolve.references env).onObject o w = (.error e, x, v)) (excused : T.fails e)
  | right {e : SyncError} {x : Object} {v : World σ}
      (run' : (Resolve.references env').onObject o' w' = (.error e, x, v)) (excused : T.fails' e)
  | unready {r : Except SyncError Readiness} {es : List Edit} {v v' : World σ} (unready : r ≠ .ok .ready)
      (run : (Resolve.references env).onObject o w = (r, o.edited T.now es, v))
      (run' : (Resolve.references env').onObject o' w' = (r, o'.edited T.now' es, v'))
      (beside : T.Beside v v')
      (script : Within (referenceSlots kind) es ∨ Disagrees (referenceSlots kind) r es)
  | ready {es : List Edit} {desired : Option OwnerReference} {v v' : World σ}
      (run : (Resolve.references env).onObject o w =
        (.ok .ready, (o.edited T.now es).ownedBy desired, v))
      (run' : (Resolve.references env').onObject o' w' =
        (.ok .ready, (o'.edited T.now' es).ownedBy desired, v'))
      (beside : T.Beside v v') (within : Within (referenceSlots kind) es)
      (brings : ∀ s ∈ parentIdOf kind ++ homeOf kind, s ∈ slots es)
      (binds : kind = .pluginBinding → .binding none ∈ es)
      (family : ∀ d ∈ desired, d.inFamily = true)

theorem Within.widen {may : List Slot} {es : List Edit} (h : Within may es) (more : List Slot) :
    Within (may ++ more) es := h.trans (List.sublist_append_left may more).subperm

theorem Disagrees.widen {α : Type} {may : List Slot} {r : Except SyncError α} {β : Type}
    {es : List Edit} (h : Disagrees may r es) (more : List Slot) (f : α → β) :
    Disagrees (may ++ more) (r.map f) es := by
  cases h with
  | noted condition message within => exact .noted condition message (within.widen more)

/-- Objects that agree on their control plane are finished alike. -/
theorem finish_resolved {es : List Edit} {u u' : World σ} {owner home : Option OwnerReference}
    {inherited : Option String} (h : T.Resembles (o.edited T.now es) (o'.edited T.now' es))
    (beside : T.Beside u u') (within : Within (referenceSlots kind) es)
    (brings : ∀ s ∈ parentIdOf kind ++ homeOf kind, s ∈ slots es)
    (binds : kind = .pluginBinding → .binding none ∈ es)
    (family : ∀ d ∈ owner.or home, d.inFamily = true)
    (unscoped : kind.controlPlaneScoped = false → inherited = none)
    (run : (Resolve.references env).onObject o w =
      (Resolve.references.finish owner home inherited).onObject (o.edited T.now es) u)
    (run' : (Resolve.references env').onObject o' w' =
      (Resolve.references.finish owner home inherited).onObject (o'.edited T.now' es) u') :
    T.Resolved o o' w w' := by
  have placed : inherited = none ∨
      (o'.edited T.now' es).controlPlaneId = (o.edited T.now es).controlPlaneId := by
    cases inside : kind.controlPlaneScoped with
    | false => exact .inl (unscoped inside)
    | true =>
      have home : homeOf kind = [.coordinate .controlPlaneId] := if_pos inside
      have set : .coordinate .controlPlaneId ∈ slots es := brings _ (by simp [home])
      exact .inr (Object.edited_get_congr set o' o T.now' T.now)
  have same : inherited.filter (· ≠ (o'.edited T.now' es).controlPlaneId) =
      inherited.filter (· ≠ (o.edited T.now es).controlPlaneId) := by
    rcases placed with rfl | same
    · rfl
    · rw [same]
  rw [onObject_finish] at run run'
  rw [same] at run'
  cases disagrees : inherited.filter (· ≠ (o.edited T.now es).controlPlaneId) with
  | none =>
    rw [disagrees] at run run'
    exact .ready run run' beside within brings binds family
  | some id =>
    rw [disagrees] at run run'
    have here : (o'.edited T.now' es).controlPlaneId = (o.edited T.now es).controlPlaneId := by
      rcases placed with rfl | same
      · cases disagrees
      · exact same
    have failure : disagreed (o'.edited T.now' es) id = disagreed (o.edited T.now es) id := by
      simp only [disagreed, h.kind', h.keyText, here]
    have condition : Resolve.mismatchCondition (o'.edited T.now' es) =
        Resolve.mismatchCondition (o.edited T.now es) := by
      simp only [Resolve.mismatchCondition, h.kind']
    have noted (x : Object) (t : Instant) (v : Verdict) :
        (x.edited t es).record v t = x.edited t (es ++ [.note v]) :=
      (x.edited_append t es [.note v]).symm
    dsimp only at run run'
    rw [beside.now, noted] at run
    rw [beside.now', failure, condition, noted] at run'
    exact .unready (by simp) run run' beside (.inr (.noted _ _ within))

theorem viaControlPlane_resolved {v v' : World σ} {es : List Edit} {q : Resolution}
    (h : T.Sighted (o.edited T.now es) (o'.edited T.now' es)) (beside : T.Beside v v')
    (parent : Settles (parentSlots kind) (parentIdOf kind) (.ok q) es) (resolved : q ≠ .notReady)
    (unscoped : kind.controlPlaneScoped = false → q.inherited? = none)
    (binds : kind = .pluginBinding → .binding none ∈ es)
    (run : (Resolve.references env).onObject o w =
      (Resolve.references.viaControlPlane env q.owner? q.inherited?).onObject (o.edited T.now es) v)
    (run' : (Resolve.references env').onObject o' w' =
      (Resolve.references.viaControlPlane env' q.owner? q.inherited?).onObject (o'.edited T.now' es) v') :
    T.Resolved o o' w w' := by
  cases controlPlane_agree h beside q.inherited? with
  | left home excused => exact .left (run.trans (Resolve.onObject_viaControlPlane home)) excused
  | right home excused => exact .right (run'.trans (Resolve.onObject_viaControlPlane home)) excused
  | @both r ds u u' home home' beside settles =>
    have other : .coordinate .id ∉ slots ds := settles.within.not_mem (by simp)
    have h := h.edited other
    rw [← Object.edited_append] at home home'
    rw [← Object.edited_append, ← Object.edited_append] at h
    have run := run.trans (Resolve.onObject_viaControlPlane home)
    have run' := run'.trans (Resolve.onObject_viaControlPlane home')
    have within : Within (referenceSlots kind) (es ++ ds) := parent.within.append settles.within
    rcases r with e | q'
    · exact .unready (by simp) run run' beside (.inl within)
    · have brings (ready : q' ≠ .notReady) : ∀ s ∈ parentIdOf kind ++ homeOf kind, s ∈ slots (es ++ ds) := by
        intro s hs
        rw [slots_append]
        rcases List.mem_append.mp hs with hs | hs
        · exact List.mem_append_left _ (parent.brings q rfl resolved s hs)
        · exact List.mem_append_right _ (settles.brings q' rfl ready s hs)
      have family : ∀ d ∈ q.owner?.or q'.owner?, d.inFamily = true := by
        intro d owned
        rcases Option.or_eq_some_iff.mp owned with owned | ⟨-, owned⟩
        · exact parent.family q rfl d owned
        · exact settles.family q' rfl d owned
      have bound (binding : kind = .pluginBinding) : .binding none ∈ es ++ ds :=
        List.mem_append_left _ (binds binding)
      cases q' with
      | notReady => exact .unready (by simp) run run' beside (.inl within)
      | unset => exact finish_resolved h.toResembles beside within (brings (by simp)) bound family unscoped run run'
      | resolved =>
        exact finish_resolved h.toResembles beside within (brings (by simp)) bound family unscoped run run'

/-- References of like objects are resolved alike. -/
theorem references_resolved (resembles : T.Resembles o o') (beside : T.Beside w w')
    (seen : ∀ key, o.Near key → T.sees key := by
      exact fun _ near => near.kind_ne_of (by first | rfl | assumption)) :
    T.Resolved o o' w w' := by
  have h : T.Sighted o o' := ⟨resembles, seen⟩
  cases parentOf_agree h beside with
  | left parent excused => exact .left (Resolve.onObject_references parent) excused
  | right parent excused => exact .right (Resolve.onObject_references parent) excused
  | @both r es v v' parent parent' beside script =>
    have run := Resolve.onObject_references parent
    have run' := Resolve.onObject_references parent'
    obtain ⟨⟨settles, unscoped⟩ | disagrees, binds⟩ := script
    · have within : Within (referenceSlots kind) es := settles.within.widen _
      have other : .coordinate .id ∉ slots es := within.not_mem (not_mem_referenceSlots kind).2.1
      rcases r with e | q
      · exact .unready (by simp) run run' beside (.inl within)
      · cases q with
        | notReady => exact .unready (by simp) run run' beside (.inl within)
        | unset =>
          exact viaControlPlane_resolved (h.edited other) beside settles (by simp)
            (fun free => unscoped free _ rfl) binds run run'
        | resolved =>
          exact viaControlPlane_resolved (h.edited other) beside settles (by simp)
            (fun free => unscoped free _ rfl) binds run run'
    · have widened := disagrees.widen
        [.coordinate .controlPlaneId, .condition ConditionType.controlPlaneRefValid]
        fun _ => Readiness.ready
      cases disagrees with
      | noted condition message within => exact .unready (by simp) run run' beside (.inr widened)

end Tandem

end GatewaySync
