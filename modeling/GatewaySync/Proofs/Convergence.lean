import GatewaySync.Proofs.Cloud
import GatewaySync.Proofs.Identity
/-!
# Recovery from lost writes

A pass may create an entity and fail to store its id, and other writers may change the object at any
call. The uid in the body makes up for it: a creation collides with the entity that is there already,
and the search finds no other one. So there is never a second entity with the uid, and an id that is
stored is the one of that entity or of none.
-/
namespace GatewaySync

namespace Inventory

variable {i j : Inventory} {p q : EntityPath} {f : ListFilter} {id other : String} {body : Json}

/-- An id leads nowhere but to the carrier of a mark. -/
def LeadsTo (i : Inventory) (p : EntityPath) (f : ListFilter) (id : String) : Prop :=
  ∀ q body, i.body? q id = some body → q = p ∧ f.finds body

structure Settled (i : Inventory) (p : EntityPath) (f : ListFilter) : Prop where
  one : ∀ id id', i.Carries p f id → i.Carries p f id' → id = id'
  here : ∀ id, i.Carries p f id → i.LeadsTo p f id

theorem LeadsTo.carries (h : i.LeadsTo p f id) (there : i.body? p id ≠ none) : i.Carries p f id := by
  obtain ⟨body, there⟩ := Option.ne_none_iff_exists'.mp there
  exact ⟨body, there, (h p body there).2⟩

theorem settled_of_none (h : ∀ id, ¬ i.Carries p f id) : i.Settled p f :=
  ⟨fun id _ carries => absurd carries (h id), fun id carries => absurd carries (h id)⟩

theorem LeadsTo.within (h : j.LeadsTo p f id) (within : i.Within j) : i.LeadsTo p f id :=
  fun q body there => h q body (within q id body there)

theorem Carries.of_within (within : i.Within j) (h : i.Carries p f id) : j.Carries p f id := by
  obtain ⟨body, there, finds⟩ := h
  exact ⟨body, within p id body there, finds⟩

theorem Settled.within (h : j.Settled p f) (within : i.Within j) : i.Settled p f where
  one id id' carries carries' :=
    h.one id id' (carries.of_within within) (carries'.of_within within)
  here id carries := (h.here id (carries.of_within within)).within within

theorem carries_written (finds : f.finds body) : (i.written p id body).Carries p f id :=
  ⟨body, by simp [written], finds⟩

theorem Carries.of_written (h : (i.written p id body).Carries p f other) :
    other = id ∨ i.Carries p f other := by
  obtain ⟨body', there, finds⟩ := h
  simp only [written, true_and] at there
  split_ifs at there with same
  · exact .inl same
  · exact .inr ⟨body', there, finds⟩

theorem LeadsTo.written (h : i.LeadsTo p f other) (finds : f.finds body) :
    (i.written p id body).LeadsTo p f other := by
  intro q body' there
  simp only [Inventory.written] at there
  split_ifs at there with same
  · cases there
    exact ⟨same.1, finds⟩
  · exact h q body' there

/-- What becomes of an inventory leaves at most one carrier, and every id leading where it led. -/
structure Advances (p : EntityPath) (f : ListFilter) (i j : Inventory) : Prop where
  settled : i.Settled p f → j.Settled p f
  leads : ∀ id, i.LeadsTo p f id → j.LeadsTo p f id

theorem Advances.refl (p : EntityPath) (f : ListFilter) (i : Inventory) : Advances p f i i :=
  ⟨id, fun _ => id⟩

theorem Advances.of_eq (h : j = i) : Advances p f i j := h ▸ .refl p f i

theorem Within.advances (within : i.Within j) : Advances p f j i :=
  ⟨fun settled => settled.within within, fun _ leads => leads.within within⟩

theorem advances_created (none : ∀ id, ¬ i.Carries p f id) (fresh : ¬ i.used id)
    (finds : f.finds body) : Advances p f i (i.written p id body) := by
  refine ⟨fun _ => ⟨fun a b carries carries' => ?_, fun a carries => ?_⟩,
    fun _ leads => leads.written finds⟩
  · have same := carries.of_written.resolve_right (none a)
    exact same.trans (carries'.of_written.resolve_right (none b)).symm
  · obtain rfl := carries.of_written.resolve_right (none a)
    intro q body' there
    simp only [written] at there
    split_ifs at there with same
    · cases there
      exact ⟨same.1, finds⟩
    · exact absurd (i.accounted q a (by simp [there])) fresh

theorem advances_rewritten (carrier : i.Carries p f id) (finds : f.finds body) :
    Advances p f i (i.written p id body) := by
  have before {other : String} (carries : (i.written p id body).Carries p f other) :
      i.Carries p f other := by
    rcases carries.of_written with rfl | carries
    · exact carrier
    · exact carries
  exact ⟨fun settled => ⟨fun a b carries carries' => settled.one a b (before carries) (before carries'),
    fun a carries => (settled.here a (before carries)).written finds⟩,
    fun _ leads => leads.written finds⟩

section

variable {σ : Type} {env : Environment σ} {inventory : σ → Inventory} {w w' : World σ}

theorem Laws.drift (laws : Laws env inventory) {x y : σ} (h : env.Drift x y) :
    inventory y = inventory x := by
  induction h with
  | refl => rfl
  | tail _ step ih =>
    obtain ⟨call, rfl⟩ := step
    exact (laws.fault call _).trans ih

theorem Laws.silent (laws : Laws env inventory) (h : World.Silent env w w') :
    inventory w'.outside = inventory w.outside := laws.drift h.outside

/-- A call is answered from the inventory as it was before the call. -/
theorem Laws.asked (laws : Laws env inventory) (call : RemoteCall) (w : World σ) :
    ∃ x, inventory x = inventory w.outside ∧ (w.ask env call).1 = (env.answer call x).1 ∧
      (w.ask env call).2.outside = (env.answer call x).2 :=
  ⟨_, laws.disturb call w.store w.outside, rfl, rfl⟩

theorem Laws.create_error (laws : Laws env inventory) {o : Object} {e : RemoteError}
    (answer : .error e = (w.ask env (.create p o.body)).1) :
    e.isConflict ∧ (∃ id, (inventory w.outside).Carries p o.listFilter id) ∧
      inventory (w.ask env (.create p o.body)).2.outside = inventory w.outside := by
  obtain ⟨x, same, asked, outside⟩ := laws.asked (.create p o.body) w
  rw [asked] at answer
  rw [outside, ← same]
  by_cases taken : ∃ id, (inventory x).Carries p o.listFilter id
  · obtain ⟨⟨e', failed, conflict⟩, unchanged⟩ :=
      laws.create_taken p o.body x ⟨_, Object.mem_uidMarks_body.mpr rfl, taken⟩
    cases answer.trans failed
    exact ⟨conflict, taken, unchanged⟩
  · have free : ¬ ∃ f ∈ o.body.uidMarks, ∃ id, (inventory x).Carries p f id := by
      rintro ⟨mark, own, carrier⟩
      rw [Object.mem_uidMarks_body.mp own] at carrier
      exact taken carrier
    obtain ⟨r, id, went, -⟩ := laws.create_free p o.body x free
    cases answer.trans went

theorem Laws.create_ok (laws : Laws env inventory) {o : Object} {r : RemoteEntity}
    (answer : .ok r = (w.ask env (.create p o.body)).1) :
    ∃ id, Entity.usableId r = some id ∧
      Advances p o.listFilter (inventory w.outside)
        (inventory (w.ask env (.create p o.body)).2.outside) ∧
      (inventory (w.ask env (.create p o.body)).2.outside).Carries p o.listFilter id := by
  obtain ⟨x, same, asked, outside⟩ := laws.asked (.create p o.body) w
  rw [asked] at answer
  rw [outside, ← same]
  by_cases taken : ∃ f ∈ o.body.uidMarks, ∃ id, (inventory x).Carries p f id
  · obtain ⟨⟨e, failed, -⟩, -⟩ := laws.create_taken p o.body x taken
    cases answer.trans failed
  · obtain ⟨r', id, went, usable, fresh, written⟩ := laws.create_free p o.body x taken
    cases answer.trans went
    have none (id : String) : ¬ (inventory x).Carries p o.listFilter id := fun carries =>
      taken ⟨_, Object.mem_uidMarks_body.mpr rfl, id, carries⟩
    rw [written]
    exact ⟨id, usable, advances_created none fresh o.finds_body, carries_written o.finds_body⟩

theorem Laws.list_one (laws : Laws env inventory) (settled : (inventory w.outside).Settled p f)
    (carrier : (inventory w.outside).Carries p f id) :
    (∃ found, (w.ask env (.list p f)).1 = .ok found ∧ found.filterMap Entity.usableId = [id]) ∧
      inventory (w.ask env (.list p f)).2.outside = inventory w.outside := by
  obtain ⟨x, same, answer, outside⟩ := laws.asked (.list p f) w
  rw [answer, outside, ← same]
  rw [← same] at settled carrier
  obtain ⟨found, listed, nodup, carriers, unchanged⟩ := laws.list p f x
  refine ⟨⟨found, listed, ?_⟩, unchanged⟩
  refine List.perm_singleton.mp ((List.perm_ext_iff_of_nodup nodup (by simp)).mpr
    fun other => ?_)
  rw [carriers, List.mem_singleton]
  exact ⟨fun carries => settled.one other id carries carrier, fun eq => eq ▸ carrier⟩

/-- An update of an id that leads to the carrier goes there, or it is told that there is none. -/
theorem Laws.update (laws : Laws env inventory) {o : Object}
    (leads : (inventory w.outside).LeadsTo p o.listFilter id) :
    ((∃ e, (w.ask env (.upsert p id o.body)).1 = .error e ∧ e.isNotFound) ∧
        inventory (w.ask env (.upsert p id o.body)).2.outside = inventory w.outside) ∨
      (∀ e, (w.ask env (.upsert p id o.body)).1 = .error e → e.isNotFound = false) ∧
        Advances p o.listFilter (inventory w.outside)
          (inventory (w.ask env (.upsert p id o.body)).2.outside) ∧
        (inventory (w.ask env (.upsert p id o.body)).2.outside).Carries p o.listFilter id := by
  obtain ⟨x, same, asked, outside⟩ := laws.asked (.upsert p id o.body) w
  rw [asked, outside, ← same]
  rw [← same] at leads
  by_cases there : (inventory x).body? p id = none
  · exact .inl (laws.upsert_absent p id o.body x there)
  · have carries := leads.carries there
    obtain ⟨other, unchanged | written⟩ := laws.upsert_present p id o.body x there
    · rw [unchanged]
      exact .inr ⟨other, .refl p _ _, carries⟩
    · rw [written]
      exact .inr ⟨other, advances_rewritten carries o.finds_body, carries_written o.finds_body⟩

end

end Inventory

section

open World Inventory

variable {σ : Type} {env : Environment σ} {inventory : σ → Inventory} {w w' : World σ}
  {talk : List Exchange} {p : EntityPath} {f : ListFilter} {o : Object} {ok : Bool} {id known : String}

/-- A creation goes well if there is at most one carrier: it makes the carrier or finds it. -/
theorem Creation.converges (laws : Laws env inventory)
    (h : Creation p o.body o.listFilter talk ok id) (talks : Talks env w talk w')
    (settled : (inventory w.outside).Settled p o.listFilter) :
    ok = true ∧ Advances p o.listFilter (inventory w.outside) (inventory w'.outside) ∧
      (inventory w'.outside).Carries p o.listFilter id := by
  have found {v : World σ} {c : String}
      (same : inventory v.outside = inventory w.outside)
      (carrier : (inventory w.outside).Carries p o.listFilter c) :=
    laws.list_one (same ▸ settled) (same ▸ carrier)
  cases h with
  | created named =>
    obtain ⟨answer, rest⟩ := talks.said
    obtain rfl := rest.eq_of_nil
    obtain ⟨id', usable, advances, carries⟩ := laws.create_ok answer
    cases named.symm.trans usable
    exact ⟨rfl, advances, carries⟩
  | unnamed unnamed =>
    obtain ⟨answer, -⟩ := talks.said
    obtain ⟨id', usable, -⟩ := laws.create_ok answer
    cases unnamed.symm.trans usable
  | refused other =>
    obtain ⟨answer, -⟩ := talks.said
    cases other.symm.trans (laws.create_error answer).1
  | adopted conflict one =>
    obtain ⟨answer, rest⟩ := talks.said
    obtain ⟨-, ⟨c, carrier⟩, same⟩ := laws.create_error answer
    obtain ⟨answer, rest⟩ := rest.said
    obtain rfl := rest.eq_of_nil
    obtain ⟨⟨listed, went, only⟩, unchanged⟩ := found same carrier
    cases answer.trans went
    cases one.symm.trans only
    have kept := unchanged.trans same
    exact ⟨rfl, .of_eq kept, kept ▸ carrier⟩
  | contested conflict many =>
    obtain ⟨answer, rest⟩ := talks.said
    obtain ⟨-, ⟨c, carrier⟩, same⟩ := laws.create_error answer
    obtain ⟨answer, -⟩ := rest.said
    obtain ⟨⟨listed, went, only⟩, -⟩ := found same carrier
    cases answer.trans went
    exact absurd only (many c)
  | unlisted conflict =>
    obtain ⟨answer, rest⟩ := talks.said
    obtain ⟨-, ⟨c, carrier⟩, same⟩ := laws.create_error answer
    obtain ⟨answer, -⟩ := rest.said
    obtain ⟨⟨listed, went, -⟩, -⟩ := found same carrier
    cases answer.trans went

/-- A write goes well if it creates the carrier, finds it or goes to it; else the known id stays. -/
theorem Writing.converges (laws : Laws env inventory)
    (h : Writing p o.body o.listFilter known talk ok id) (talks : Talks env w talk w')
    (settled : (inventory w.outside).Settled p o.listFilter)
    (leads : known ≠ "" → (inventory w.outside).LeadsTo p o.listFilter known) :
    Advances p o.listFilter (inventory w.outside) (inventory w'.outside) ∧
      ((ok = true ∧ (inventory w'.outside).Carries p o.listFilter id) ∨ ok = false ∧ id = known) := by
  cases h with
  | created h =>
    obtain ⟨rfl, advances, carries⟩ := h.converges laws talks settled
    exact ⟨advances, .inl ⟨rfl, carries⟩⟩
  | updated hk =>
    obtain ⟨answer, rest⟩ := talks.said
    obtain rfl := rest.eq_of_nil
    rcases laws.update (leads hk) with ⟨⟨e, failed, -⟩, -⟩ | ⟨-, advances, carries⟩
    · cases answer.trans failed
    · exact ⟨advances, .inl ⟨rfl, carries⟩⟩
  | refused hk other =>
    obtain ⟨answer, rest⟩ := talks.said
    obtain rfl := rest.eq_of_nil
    rcases laws.update (leads hk) with ⟨⟨e, failed, gone⟩, -⟩ | ⟨-, advances, -⟩
    · cases answer.trans failed
      cases other.symm.trans gone
    · exact ⟨advances, .inr ⟨rfl, rfl⟩⟩
  | recreated hk gone h =>
    obtain ⟨answer, rest⟩ := talks.said
    rcases laws.update (leads hk) with ⟨-, same⟩ | ⟨other, -⟩
    · rw [← same] at settled
      obtain ⟨rfl, advances, carries⟩ := h.converges laws rest settled
      rw [same] at advances
      exact ⟨advances, .inl ⟨rfl, carries⟩⟩
    · cases gone.symm.trans (other _ answer.symm)

end

namespace Reconcile

open Pass World Entity Inventory

variable {σ : Type} {env : Environment σ} {inventory : σ → Inventory} {settings : OperatorSettings}
  {k : Key} {w w' : World σ} {talk : List Exchange} {p : EntityPath} {o : Object} {ok : Bool}
  {id : String}

theorem Spoken.converges (laws : Laws env inventory) (h : Spoken o talk ok id)
    (talks : Talks env w talk w') (settled : (inventory w.outside).Settled p o.listFilter)
    (leads : o.konnectId ≠ "" → (inventory w.outside).LeadsTo p o.listFilter o.konnectId)
    (steady : ∀ q, o.path .create = .ok q → q = p) :
    Advances p o.listFilter (inventory w.outside) (inventory w'.outside) ∧
      ((ok = true ∧ (inventory w'.outside).Carries p o.listFilter id) ∨
        ok = false ∧ id = o.konnectId) := by
  cases h with
  | pathless =>
    obtain rfl := talks.eq_of_nil
    exact ⟨.refl p _ _, .inr ⟨rfl, rfl⟩⟩
  | written path spoken =>
    obtain rfl := steady _ path
    obtain ⟨v, talks, asked⟩ := talks.split
    have same : inventory w'.outside = inventory v.outside := by
      obtain ⟨-, rest⟩ := asked.said
      obtain rfl := rest.eq_of_nil
      obtain ⟨x, same, -, outside⟩ := laws.asked .organizationId v
      rw [outside, laws.organizationId, same]
    rw [same]
    exact spoken.converges laws talks settled leads
  | unwritten path spoken =>
    obtain rfl := steady _ path
    exact spoken.converges laws talks settled leads

/-- A sync leaves at most one carrier, and the id that was read and the one that it came to lead to it.
If it went well with the references ready, the id that it came to is the one of the carrier, unless the
object is gone. -/
theorem Syncing.converges (laws : Laws env inventory) {r : Except SyncError Outcome} {m : Object}
    (h : Syncing env o w talk r m w') (settled : (inventory w.outside).Settled p o.listFilter)
    (leads : o.konnectId ≠ "" → (inventory w.outside).LeadsTo p o.listFilter o.konnectId)
    (steady : ∀ q, ((Resolve.references env).onObject o w).2.1.path .delete = .ok q → q = p) :
    Advances p o.listFilter (inventory w.outside) (inventory w'.outside) ∧
      (m.konnectId ≠ "" → (inventory w'.outside).LeadsTo p o.listFilter m.konnectId) ∧
      (r.isOk → ((Resolve.references env).onObject o w).1 = .ok .ready →
        (inventory w'.outside).Carries p o.listFilter m.konnectId ∨
          w'.store.findObject? o.key = none) := by
  cases h with
  | unready resolved unready noted kept =>
    have leaves := Resolve.leaves_of_references resolved
    have same := laws.silent (leaves.silent.trans (persistStatus_silent kept))
    have known : m.konnectId = o.konnectId := noted.id.trans leaves.konnectId
    rw [same, known, resolved]
    exact ⟨.refl p _ _, leads, fun _ ready => absurd ready unready⟩
  | unprepared resolved prepared =>
    have same := laws.silent (silent_of_prepared resolved prepared)
    rw [same]
    exact ⟨.refl p _ _, leads, fun ok => by cases ok⟩
  | gone resolved prepared =>
    have same := laws.silent (silent_of_prepared resolved prepared)
    rw [same]
    refine ⟨.refl p _ _, leads, fun _ _ => .inr ?_⟩
    rw [← (Resolve.leaves_of_references resolved).key]
    exact persistMetadata_gone prepared
  | @spoken r s o₁ o₂ _ w₁ w₂ w₃ _ _ id resolved prepared spoken talks learns _ kept =>
    have same := laws.silent (silent_of_prepared resolved prepared)
    have stored := laws.silent (persistStatus_silent kept)
    obtain ⟨-, known, mark, path⟩ := prepared_of_resolved resolved prepared
    have led (q : EntityPath) (hq : o₂.path .create = .ok q) : q = p := by
      refine steady q ?_
      rw [resolved, ← path]
      exact Object.path_delete hq
    rw [← mark, ← same, ← known] at leads
    rw [← mark, ← same] at settled
    obtain ⟨advances, outcome⟩ := spoken.converges laws talks settled leads led
    rw [stored, learns.id, ← mark, ← same]
    refine ⟨advances, fun known => ?_, fun ok _ => .inl ?_⟩
    · rcases outcome with ⟨-, carries⟩ | ⟨-, rfl⟩
      · exact (advances.settled settled).here id carries
      · exact advances.leads _ (leads known)
    · rcases outcome with ⟨-, carries⟩ | ⟨failed, -⟩
      · exact carries
      · rw [isOk_of_bind_map ok] at failed
        cases failed

theorem Cleaning.within (laws : Laws env inventory) {r : Except SyncError Unit}
    (h : Cleaning env o w talk r w') : (inventory w'.outside).Within (inventory w.outside) := by
  have said {q : EntityPath} {known : String} {v : World σ} {ok : Bool} {talk : List Exchange}
      (spoken : Deletion q known talk ok) (talks : Talks env w talk v) :
      (inventory v.outside).Within (inventory w.outside) := by
    obtain ⟨x, same, -, outside⟩ := laws.asked (.delete q known) w
    have within := laws.delete q known x
    rw [← outside, same] at within
    cases spoken <;>
    · obtain ⟨-, rest⟩ := talks.said
      obtain rfl := rest.eq_of_nil
      exact within
  cases h with
  | pathless => exact .refl _
  | refused _ _ spoken talks => exact said spoken talks
  | @released _ v dismissed talks =>
    rw [laws.silent (patchMetadata_silent env _ v)]
    rcases dismissed with ⟨-, rfl⟩ | ⟨-, q, -, spoken⟩
    · obtain rfl := talks.eq_of_nil
      exact .refl _
    · exact said spoken talks

/-- What holds of store and Konnect at any time of a run: the object is searched for by one mark, the
mark has at most one carrier, and the stored id leads nowhere else. -/
structure Converging (inventory : σ → Inventory) (k : Key) (p : EntityPath) (f : ListFilter)
    (w : World σ) : Prop where
  settled : (inventory w.outside).Settled p f
  stored : ∀ o, w.store.findObject? k = some o → o.listFilter = f ∧
    (o.konnectId ≠ "" → (inventory w.outside).LeadsTo p f o.konnectId)

variable {f : ListFilter}

theorem Converging.of_keepsStatus (h : Converging inventory k p f w)
    (kept : w.store.KeepsStatus k w'.store)
    (advances : Advances p f (inventory w.outside) (inventory w'.outside)) :
    Converging inventory k p f w' where
  settled := advances.settled h.settled
  stored o stored := by
    obtain ⟨o₀, stored₀, uid, status⟩ := kept o stored
    obtain ⟨mark, leads⟩ := h.stored o₀ stored₀
    have key := (Store.key_of_findObject? stored).trans (Store.key_of_findObject? stored₀).symm
    rw [Object.konnectId_congr status]
    exact ⟨(Object.listFilter_congr key uid).trans mark,
      fun known => advances.leads _ (leads known)⟩

/-- A pass from here brings an object up to date whose references are ready. -/
def ready (env : Environment σ) (k : Key) (w : World σ) : Bool :=
  match w.get env k with
  | (.ok (some (.managed o)), w₁) =>
    match o.need, ((Resolve.references env).onObject o w₁).1 with
    | .sync, .ok .ready => true
    | _, _ => false
  | _ => false

theorem reads_of_ready (h : ready env k w) :
    ∃ o w₁, Reads env k w o w₁ ∧ o.need = .sync ∧
      ((Resolve.references env).onObject o w₁).1 = .ok .ready := by
  unfold ready at h
  split at h
  · rename_i o w₁ read
    split at h
    · rename_i need resolved
      exact ⟨o, w₁, ⟨_, read, rfl⟩, need, resolved⟩
    · cases h
  · cases h

theorem need_of_ready {w₁ : World σ} (h : ready env k w) (reads : Reads env k w o w₁) :
    o.need = .sync ∧ ((Resolve.references env).onObject o w₁).1 = .ok .ready := by
  obtain ⟨o', w₁', reads', ready⟩ := reads_of_ready h
  obtain ⟨rfl, rfl⟩ := reads.unique reads'
  exact ready

theorem Converging.sync (laws : Laws env inventory) (touched : env.Disturbs (Store.KeepsStatus k))
    (h : Converging inventory k p f w) {w₁ : World σ} (reads : Reads env k w o w₁)
    {r : Except SyncError Outcome} {m : Object} (syncing : Syncing env o w₁ talk r m w')
    (steady : ∀ q, ((Resolve.references env).onObject o w₁).2.1.path .delete = .ok q → q = p) :
    Converging inventory k p f w' ∧
      (r.isOk → ((Resolve.references env).onObject o w₁).1 = .ok .ready →
        ∀ x, w'.store.findObject? k = some x →
          (inventory w'.outside).Carries p f x.konnectId) := by
  obtain ⟨stored, store⟩ := reads.stored
  obtain ⟨rfl, leads⟩ := h.stored o stored
  have settled := h.settled
  rw [← laws.silent reads.silent] at settled leads
  obtain ⟨advances, known, carries⟩ := syncing.converges laws settled leads steady
  rw [← store] at stored
  refine ⟨⟨advances.settled settled, fun x after => ?_⟩, fun ok ready x after => ?_⟩
  · obtain ⟨uid, status, -⟩ := syncing.settles touched stored after
    have key : x.key = o.key := (Store.key_of_findObject? after).trans reads.key.symm
    refine ⟨Object.listFilter_congr key uid, fun hx => ?_⟩
    rcases status with same | same
    · rw [Object.konnectId_congr same] at hx ⊢
      exact advances.leads _ (leads hx)
    · rw [Object.konnectId_congr same] at hx ⊢
      exact known hx
  · have same := (syncing.settles touched stored after).2.2 ok
    rw [Object.konnectId_congr same]
    rcases carries ok ready with carries | gone
    · exact carries
    · rw [reads.key, after] at gone
      cases gone

theorem Course.converges (laws : Laws env inventory) (touched : env.Disturbs (Store.KeepsStatus k))
    {r : Except SyncError Action} (h : Course env settings k w talk r w')
    (start : Converging inventory k p f w)
    (steady : ∀ q, destination env k w = some (.ok q) → q = p) :
    Converging inventory k p f w' ∧
      (r.isOk → ready env k w → ∀ x, w'.store.findObject? k = some x →
        (inventory w'.outside).Carries p f x.konnectId) := by
  have idle (silent : Silent env w w') (store : w'.store = w.store) :
      Converging inventory k p f w' :=
    start.of_keepsStatus (store ▸ Store.keepsStatus_refl k _) (.of_eq (laws.silent silent))
  by_cases read : ∃ o w₁, Reads env k w o w₁
  · obtain ⟨o, w₁, reads⟩ := read
    have led := destination_of_reads reads
    rcases h.of_reads reads with ⟨need, -, silent, store⟩ |
      ⟨need, s, v, b, cleaning, rfl, -⟩ | ⟨need, s, m, v, b, syncing, rfl, rfl⟩
    · refine ⟨idle silent store, fun _ ready => ?_⟩
      cases need.symm.trans (need_of_ready ready reads).1
    · have kept := cleaning.keepsStatus touched
      have within := cleaning.within laws
      rw [reads.stored.2] at kept
      rw [laws.silent reads.silent] at within
      refine ⟨start.of_keepsStatus kept within.advances, fun _ ready => ?_⟩
      cases need.symm.trans (need_of_ready ready reads).1
    · rw [need, if_pos rfl] at led
      obtain ⟨conv, carries⟩ := start.sync laws touched reads syncing fun q hq =>
        steady q (led.trans (congrArg some hq))
      refine ⟨⟨conv.settled, conv.stored⟩, fun ok ready => carries ?_ (need_of_ready ready reads).2⟩
      cases s with
      | error e => cases ok
      | ok _ => rfl
  · obtain ⟨-, silent, store⟩ := h.of_unread fun o w₁ reads => read ⟨o, w₁, reads⟩
    refine ⟨idle silent store, fun _ ready => ?_⟩
    obtain ⟨o, w₁, reads, -⟩ := reads_of_ready ready
    exact absurd ⟨o, w₁, reads⟩ read

variable {start : World σ} {visits : List (Visit σ)}

/-- A run of passes over the object converges while what others do between them takes entities away at
most and keeps the status. -/
theorem History.converges (laws : Laws env inventory) (touched : env.Disturbs (Store.KeepsStatus k))
    (h : History env settings (fun w w' => w.store.KeepsStatus k w'.store ∧
      (inventory w'.outside).Within (inventory w.outside)) start visits w)
    (begin : Converging inventory k p f start) (own : ∀ v ∈ visits, v.key = k)
    (steady : ∀ v ∈ visits, ∀ q, v.destination env k = some (.ok q) → q = p) :
    Converging inventory k p f w ∧
      ∀ v ∈ visits, v.result.isOk → ready env k v.before →
        ∀ x, v.after.store.findObject? k = some x →
          (inventory v.after.outside).Carries p f x.konnectId := by
  induction h with
  | begin => exact ⟨begin, by simp⟩
  | meanwhile _ change ih =>
    obtain ⟨conv, known⟩ := ih own steady
    exact ⟨conv.of_keepsStatus change.1 change.2.advances, known⟩
  | @pass visits w h kind ns name ih =>
    obtain ⟨conv, known⟩ := ih (fun v hv => own v (List.mem_append_left _ hv))
      (fun v hv => steady v (List.mem_append_left _ hv))
    have key := own (visit env settings kind ns name w) (by simp)
    have led := steady (visit env settings kind ns name w) (by simp)
    simp only [Visit.destination, if_pos key] at led
    have course := visit_course env settings kind ns name w
    rw [key] at course
    obtain ⟨conv, carries⟩ := course.converges laws touched conv led
    refine ⟨conv, fun v hv => ?_⟩
    rcases List.mem_append.mp hv with hv | hv
    · exact known v hv
    · obtain rfl := List.mem_singleton.mp hv
      exact carries

/-- While Konnect keeps to its laws, passes over an object whose references keep leading to one
collection never make a second entity with the uid of the object there, whatever writes of the store
fail and whatever others change of the object or take away in Konnect. An id that is stored is empty,
or of no entity, or of the one with the uid, and of that one after a pass that went well with the
references ready. -/
theorem one_entity_per_uid (laws : Laws env inventory)
    (touched : env.Disturbs (Store.KeepsStatus k))
    (stored : start.store.findObject? k = some o) (unknown : o.konnectId = "")
    (untagged : ∀ id, ¬ (inventory start.outside).Carries p o.listFilter id)
    (history : History env settings (fun w w' => w.store.KeepsStatus k w'.store ∧
      (inventory w'.outside).Within (inventory w.outside)) start visits w)
    (own : ∀ v ∈ visits, v.key = k)
    (steady : ∀ v ∈ visits, ∀ q, v.destination env k = some (.ok q) → q = p) :
    (∀ id id', (inventory w.outside).Carries p o.listFilter id →
        (inventory w.outside).Carries p o.listFilter id' → id = id') ∧
      (∀ x, w.store.findObject? k = some x → x.konnectId = "" ∨
        (∀ q, (inventory w.outside).body? q x.konnectId = none) ∨
        (inventory w.outside).Carries p o.listFilter x.konnectId) ∧
      ∀ v ∈ visits, v.result.isOk → ready env k v.before →
        ∀ x, v.after.store.findObject? k = some x →
          (inventory v.after.outside).Carries p o.listFilter x.konnectId := by
  have begin : Converging inventory k p o.listFilter start := by
    refine ⟨settled_of_none untagged, fun x hx => ?_⟩
    rw [stored] at hx
    cases hx
    exact ⟨rfl, fun known => absurd unknown known⟩
  obtain ⟨conv, known⟩ := history.converges laws touched begin own steady
  refine ⟨conv.settled.one, fun x hx => ?_, known⟩
  by_cases empty : x.konnectId = ""
  · exact .inl empty
  · have leads := (conv.stored x hx).2 empty
    by_cases there : (inventory w.outside).body? p x.konnectId = none
    · refine .inr (.inl fun q => Option.eq_none_iff_forall_ne_some.mpr fun body held => ?_)
      obtain ⟨rfl, -⟩ := leads q body held
      rw [there] at held
      cases held
    · exact .inr (.inr (leads.carries there))

section

open Scene

def busy : Environment Cloud :=
  Cloud.environment Cloud.refuse fun s => if s.revision < 3 then edit webKey (fun o => o) s else s

theorem busy_touched : busy.Disturbs (Store.KeepsStatus webKey) := by
  intro call s x
  change s.KeepsStatus webKey (if s.revision < 3 then edit webKey (fun o => o) s else s)
  split
  · exact edit_keepsStatus webKey webKey s fun _ => ⟨rfl, rfl, rfl⟩
  · exact Store.keepsStatus_refl webKey s

/-- Three passes over the service. The first one loses the id of the entity that it creates, and before
the last one all entities are taken away. -/
def losing : Visit Cloud := opening busy []

def adopting : Visit Cloud := webVisit busy losing.after

def renewing : Visit Cloud :=
  webVisit busy { adopting.after with outside := adopting.after.outside.cleared }

/-- The second pass adopts the entity of the first one, and the third one makes another. -/
theorem web_recovers :
    losing.result.isOk = false ∧ adopting.result.isOk = true ∧ renewing.result.isOk = true ∧
      (∀ x, adopting.after.store.findObject? webKey = some x →
        adopting.after.outside.inventory.Carries services web.listFilter x.konnectId) ∧
      ∀ x, renewing.after.store.findObject? webKey = some x →
        renewing.after.outside.inventory.Carries services web.listFilter x.konnectId := by
  have lost : losing.result.isOk = false := by decide +kernel
  have adopted : adopting.result.isOk = true := by decide +kernel
  have renewed : renewing.result.isOk = true := by decide +kernel
  have history : History busy OperatorSettings.default
      (fun w w' => w.store.KeepsStatus webKey w'.store ∧
        (Cloud.inventory w'.outside).Within (Cloud.inventory w.outside))
      losing.before [losing, adopting, renewing] renewing.after := by
    have opened : History busy OperatorSettings.default
        (fun w w' => w.store.KeepsStatus webKey w'.store ∧
          (Cloud.inventory w'.outside).Within (Cloud.inventory w.outside))
        losing.before [losing, adopting] renewing.before :=
      ((History.begin.pass .service "shop" "web").pass .service "shop" "web").meanwhile
        ⟨Store.keepsStatus_refl webKey _, adopting.after.outside.cleared_within⟩
    exact opened.pass .service "shop" "web"
  have visits {P : Visit Cloud → Prop} (first : P losing) (second : P adopting) (third : P renewing) :
      ∀ v ∈ [losing, adopting, renewing], P v := by
    simp [first, second, third]
  have steady : ∀ v ∈ [losing, adopting, renewing], ∀ q,
      v.destination busy webKey = some (.ok q) → q = services := by
    have led : ∀ v ∈ [losing, adopting, renewing],
        (v.destination busy webKey).bind Except.toOption = some services :=
      visits (by decide +kernel) (by decide +kernel) (by decide +kernel)
    intro v hv q hq
    have same := led v hv
    rw [hq] at same
    exact Option.some.inj same
  have untagged (id : String) :
      ¬ (Cloud.inventory losing.before.outside).Carries services web.listFilter id := by
    rintro ⟨body, there, -⟩
    cases there
  obtain ⟨-, -, known⟩ := one_entity_per_uid (o := Store.empty.written web)
    (Cloud.laws _ Cloud.refuse_inventory) busy_touched rfl rfl untagged history
    (visits rfl rfl rfl) steady
  exact ⟨lost, adopted, renewed, known adopting (by simp) adopted (by decide +kernel),
    known renewing (by simp) renewed (by decide +kernel)⟩

end

end Reconcile

end GatewaySync
