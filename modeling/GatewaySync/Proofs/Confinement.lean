import GatewaySync.Proofs.Mirrors
import GatewaySync.Proofs.Readings
/-!
# What a pass reaches

A pass reads its object and what that names in its own namespace, and it writes under the key of its object
only. What is held under any other key stays as others leave it.
-/
namespace GatewaySync

variable {σ : Type} {env : Environment σ}

def StoreCall.key : StoreCall → Key
  | get key => key
  | patchStatus key => key
  | patchMetadata key => key

/-- The call reads what it may, or it writes under a given key. -/
@[simp] def StoreCall.Within (may : Key → Prop) (k : Key) : StoreCall → Prop
  | get key => may key
  | patchStatus key => key = k
  | patchMetadata key => key = k

namespace World

variable {may more : Key → Prop} {k : Key} {o : Object} {u v w : World σ}

/-- Between two worlds the cluster was only asked for what may be read or is written under a key. What is held
under other keys is as others left it. -/
structure Confined (env : Environment σ) (may : Key → Prop) (k : Key) (w w' : World σ) : Prop where
  calls : ∃ calls : List StoreCall, w'.storeCalls = w.storeCalls ++ calls ∧ ∀ c ∈ calls, c.Within may k
  elsewhere : ∀ key, key ≠ k → (env.Disturbs fun s t => t.find? key = s.find? key) →
    w'.store.find? key = w.store.find? key

theorem Confined.refl (may : Key → Prop) (k : Key) (w : World σ) : Confined env may k w w :=
  ⟨⟨[], by simp⟩, fun _ _ _ => rfl⟩

theorem Confined.settled (h : Confined env may k v w) (b : Backoff) :
    Confined env may k v { w with backoff := b } := ⟨h.calls, h.elsewhere⟩

theorem Confined.trans (h : Confined env may k u v) (h' : Confined env may k v w) : Confined env may k u w where
  calls := by
    obtain ⟨calls, said, within⟩ := h.calls
    obtain ⟨more, said', within'⟩ := h'.calls
    exact ⟨calls ++ more, by rw [said', said, List.append_assoc], List.forall_mem_append.mpr ⟨within, within'⟩⟩
  elsewhere key other others := (h'.elsewhere key other others).trans (h.elsewhere key other others)

theorem Confined.mono (h : Confined env may k v w) (sub : ∀ key, may key → more key) :
    Confined env more k v w where
  calls := by
    obtain ⟨calls, said, within⟩ := h.calls
    refine ⟨calls, said, fun c hc => ?_⟩
    have within := within c hc
    cases c with
    | get key => exact sub key within
    | patchStatus | patchMetadata => exact within
  elsewhere := h.elsewhere

theorem confined_get {key : Key} (allowed : may key) (k : Key) (w : World σ) :
    Confined env may k w (w.get env key).2 :=
  ⟨⟨_, get_storeCalls env key w, by simpa using allowed⟩, fun _ _ _ => by rw [get_store]⟩

theorem confined_patchStatus (may : Key → Prop) (key : o.key = k) (w : World σ) :
    Confined env may k w (w.patchStatus env o).2 :=
  ⟨⟨_, patchStatus_storeCalls env o w, by simpa using key⟩,
    fun _ other _ => patchStatus_elsewhere env (key.trans_ne other.symm) w⟩

theorem confined_patchMetadata (may : Key → Prop) (key : o.key = k) (w : World σ) :
    Confined env may k w (w.patchMetadata env o).2 :=
  ⟨⟨_, patchMetadata_storeCalls env o w, by simpa using key⟩,
    fun _ other _ => patchMetadata_elsewhere env (key.trans_ne other.symm) w⟩

theorem Talks.confined {talk : List Exchange} (h : Talks env v talk w) (may : Key → Prop) (k : Key) :
    Confined env may k v w :=
  ⟨⟨[], by simp [h.storeCalls]⟩,
    fun key _ others => h.store (R := fun s t => t.find? key = s.find? key) (fun _ => rfl)
      (fun h h' => h'.trans h) others⟩

theorem Answered.confined {keys : List Key} (h : Answered env v keys w) (asked : ∀ key ∈ keys, may key)
    (k : Key) : Confined env may k v w := by
  induction h with
  | done w => exact .refl may k w
  | read key _ _ ih =>
    rw [List.forall_mem_cons] at asked
    exact (confined_get asked.1 k _).trans (ih asked.2)

/-- Between two worlds the store was called, but not read. -/
def Blind (w w' : World σ) : Prop :=
  ∃ calls : List StoreCall, w'.storeCalls = w.storeCalls ++ calls ∧ ∀ key, .get key ∉ calls

theorem Confined.blind (h : Confined env (fun _ => False) k v w) : Blind v w := by
  obtain ⟨calls, said, within⟩ := h.calls
  exact ⟨calls, said, fun key => within (.get key)⟩

end World

namespace Reconcile

open Pass World

variable {may : Key → Prop} {k : Key} {o o' o₁ : Object} {w w' v : World σ}

theorem persistStatus_confined {fetched : Option Status} {s : Except SyncError Unit}
    (h : (persistStatus env fetched).onObject o w = (s, o', w')) (key : o.key = k) :
    Confined env may k w w' := by
  rw [onObject_persistStatus] at h
  split_ifs at h <;> cases h
  · exact confined_patchStatus may key w
  · exact .refl may k w

theorem persistMetadata_confined {fetched : Metadata} {b : Except SyncError Bool}
    (h : (persistMetadata env fetched).onObject o w = (b, o', w')) (key : o.key = k) :
    Confined env may k w w' := by
  rcases persistMetadata_world h with rfl | rfl
  · exact .refl may k w'
  · exact confined_patchMetadata may ((guarded_key o).trans key) w

theorem Ends.confined {q : Except SyncError Readiness} {r : Except SyncError Outcome}
    (h : Ends env o q o₁ v r w') (key : o₁.key = k) : Confined env may k v w' := by
  cases h with
  | unready _ kept => exact persistStatus_confined kept ((o₁.edited_key _ _).trans key)
  | unprepared _ prepared => exact persistMetadata_confined prepared key
  | gone _ prepared => exact persistMetadata_confined prepared key
  | @spoken o₂ _ _ _ _ _ _ _ _ prepared _ talks _ _ kept =>
    have same : o₂.key = k := (persistMetadata_key prepared).trans key
    exact (persistMetadata_confined prepared key).trans
      ((talks.confined may k).trans (persistStatus_confined kept ((o₂.edited_key _ _).trans same)))

theorem Cleaning.confined {talk : List Exchange} {r : Except SyncError Unit}
    (h : Cleaning env o w talk r w') (key : o.key = k) : Confined env may k w w' := by
  cases h with
  | pathless => exact .refl may k w
  | refused _ _ _ talks => exact talks.confined may k
  | @released _ v _ talks =>
    exact (talks.confined may k).trans (confined_patchMetadata (o := Reconcile.released o) may key v)

/-- To resolve references, only what they name in the namespace of their object is read. -/
theorem references_confined {q : Except SyncError Readiness}
    (h : (Resolve.references env).onObject o w = (q, o', w')) (k : Key) : Confined env o.Near k w w' := by
  cases Resolve.references_consulted h with
  | answered reads asked => exact reads.confined asked k
  | refused reads _ asked =>
    obtain ⟨before, last⟩ := List.forall_mem_append.mp asked
    exact (reads.confined before k).trans (confined_get (last _ (List.mem_singleton_self _)) k _)

/-- What a pass over the object under a key may read: the object, and what it names in its namespace. -/
def Legible (s : Store) (k key : Key) : Prop := key = k ∨ ∃ o, s.findObject? k = some o ∧ o.Near key

/-- A pass reads its object and what that names in its namespace, and writes its object only. -/
theorem visit_confined (env : Environment σ) (settings : OperatorSettings) (kind : ManagedKind)
    (ns name : String) (w : World σ) :
    Confined env (Legible w.store ⟨kind, ns, name⟩) ⟨kind, ns, name⟩ w
      (visit env settings kind ns name w).after := by
  have first : Confined env (Legible w.store ⟨kind, ns, name⟩) ⟨kind, ns, name⟩ w
      (w.get env ⟨kind, ns, name⟩).2 := confined_get (.inl rfl) _ w
  obtain ⟨talk, course⟩ := pass_course env settings kind ns name w
  change Confined _ _ _ w (pass env settings kind ns name w).2
  generalize (pass env settings kind ns name w).1 = r at course
  generalize made : (pass env settings kind ns name w).2 = w' at course ⊢
  cases course with
  | unread read => rwa [read] at first
  | idle b read =>
    rw [read] at first
    exact first.settled b
  | cleaned b reads need course =>
    have own := reads.key
    obtain ⟨found, read, -⟩ := reads
    rw [read] at first
    exact (first.trans (course.confined own)).settled b
  | @synced o m w₁ w₂ _ _ b reads need =>
    have own := reads.key
    rcases resolved : (Resolve.references env).onObject o w₁ with ⟨q, o₁, v⟩
    have named : Confined env (Legible w.store ⟨kind, ns, name⟩) ⟨kind, ns, name⟩ w₁ v :=
      (references_confined resolved _).mono fun key near => .inr ⟨o, reads.stored.1, near⟩
    have key : o₁.key = ⟨kind, ns, name⟩ := (Resolve.leaves_of_references resolved).key.trans own
    obtain ⟨_, w₃, b', ends, -, after⟩ := visit_ends settings reads need resolved
    obtain ⟨found, read, -⟩ := reads
    rw [read] at first
    rw [← made, show (pass env settings kind ns name w).2 = _ from after]
    exact ((first.trans named).trans (ends.confined key)).settled b'

end Reconcile

end GatewaySync
