import GatewaySync.Sync.Resolve
import Mathlib.Logic.Relation
import Mathlib.Tactic.SplitIfs
/-!
# What the store answers after a write

A write changes the object under one key, an object that is written keeps its status, its uid and its
place, and a patch takes effect only on the revision that it was made for. The calls of a pass to the
store leave everything else in the world alone.
-/
namespace GatewaySync

namespace Store

theorem find?_set (k k' : Key) (r : Resource) (es : List (Key × Resource)) :
    ((set k r es).find? (·.1 = k')).map (·.2) =
      if k = k' then some r else (es.find? (·.1 = k')).map (·.2) := by
  induction es with
  | nil => by_cases h : k = k' <;> simp [set, h]
  | cons e rest ih =>
    rw [set]
    split_ifs with he hk hk
    · simp [hk]
    · have hk' : e.1 ≠ k' := he ▸ hk
      simp [hk, hk']
    · have hk' : e.1 ≠ k' := fun h => he (h.trans hk.symm)
      simpa [hk'] using ih.trans (if_pos hk)
    · by_cases h : e.1 = k'
      · simp [h]
      · simpa [h] using ih.trans (if_neg hk)

theorem find?_put (s : Store) (r : Resource) (k : Key) :
    (s.put r).find? k = if r.key = k then some (stamp r (s.revision + 1)) else s.find? k :=
  find?_set r.key k _ s.entries

theorem find?_erase (s : Store) (k k' : Key) :
    (s.erase k).find? k' = if k = k' then none else s.find? k' := by
  unfold find? erase
  rw [List.find?_filter]
  split_ifs with h
  · subst h
    simp [List.find?_eq_none]
  · congr 2
    funext e
    by_cases he : e.1 = k' <;> simp [he, Ne.symm h]

theorem key_of_find? {s : Store} {k : Key} {r : Resource} (h : s.find? k = some r) : r.key = k := by
  obtain ⟨e, he, rfl⟩ := Option.map_eq_some_iff.mp h
  have hk : e.1 = k := by simpa using List.find?_some he
  exact (s.keyed e (List.mem_of_find?_eq_some he)).trans hk

theorem findObject?_eq (s : Store) (k : Key) : s.findObject? k = (s.find? k).bind Resource.object? := by
  unfold findObject?
  rcases s.find? k with _ | _ | _ <;> rfl

theorem key_of_findObject? {s : Store} {k : Key} {o : Object} (h : s.findObject? k = some o) :
    o.key = k := by
  rw [findObject?_eq] at h
  obtain ⟨r, hr, ho⟩ := Option.bind_eq_some_iff.mp h
  rcases r with o' | p
  · cases ho
    exact key_of_find? hr
  · cases ho

def written (s : Store) (o : Object) : Object :=
  { o with metadata := { o.metadata with resourceVersion := some (toString (s.revision + 1)) } }.stored

@[simp] theorem written_status (s : Store) (o : Object) : (s.written o).status = o.status := rfl

@[simp] theorem written_isDeleting (s : Store) (o : Object) :
    (s.written o).metadata.isDeleting = o.metadata.isDeleting := by
  simp [written, Object.stored, Metadata.stored, Metadata.isDeleting]

theorem findObject?_put (s : Store) (o : Object) (k : Key) :
    (s.put (.managed o)).findObject? k =
      if o.key = k then some (s.written o) else s.findObject? k := by
  rw [findObject?_eq, findObject?_eq, find?_put]
  change (if o.key = k then _ else _ : Option Resource).bind _ = _
  split
  · rfl
  · rfl

theorem findObject?_erase (s : Store) (k k' : Key) :
    (s.erase k).findObject? k' = if k = k' then none else s.findObject? k' := by
  rw [findObject?_eq, findObject?_eq, find?_erase]
  split <;> rfl

def version? (s : Store) (k : Key) : Option String :=
  (s.findObject? k).bind (·.metadata.resourceVersion)

theorem version?_of_findObject? {s : Store} {k : Key} {o : Object} (h : s.findObject? k = some o) :
    s.version? k = o.metadata.resourceVersion := by
  rw [version?, h]
  rfl

theorem patchTarget_eq_ok {s : Store} {given stored : Object} :
    s.patchTarget given = .ok stored ↔ s.findObject? given.key = some stored ∧
      stored.metadata.resourceVersion = given.metadata.resourceVersion := by
  unfold patchTarget
  rcases s.findObject? given.key with _ | o
  · simp
  · by_cases h : o.metadata.resourceVersion = given.metadata.resourceVersion
    · simp [h]
      rintro rfl
      exact h
    · simp [h]
      rintro rfl
      exact h

theorem patchTarget_congr (s : Store) {a b : Object} (key : a.key = b.key)
    (version : a.metadata.resourceVersion = b.metadata.resourceVersion) :
    s.patchTarget a = s.patchTarget b := by
  simp only [patchTarget, key, version]

theorem patchStatus_cases (s : Store) (o : Object) :
    (∃ e, s.patchStatus o = (.error e, s)) ∨
      ∃ stored, s.patchTarget o = .ok stored ∧
        s.patchStatus o = (.ok (), s.put (.managed (statusPatched stored o))) := by
  unfold patchStatus
  cases s.patchTarget o with
  | error e => exact .inl ⟨e, rfl⟩
  | ok stored => exact .inr ⟨stored, rfl, rfl⟩

theorem patchMetadata_cases (s : Store) (o : Object) :
    (∃ e, s.patchMetadata o = (.error e, s)) ∨
      (∃ stored, s.patchTarget o = .ok stored ∧
        (stored.metadata.isDeleting ∧ o.metadata.finalizerList = []) ∧
        s.patchMetadata o = (.ok none, s.erase o.key)) ∨
      ∃ stored, s.patchTarget o = .ok stored ∧
        s.patchMetadata o = (.ok ((s.put (.managed (metadataPatched stored o))).findObject? o.key),
          s.put (.managed (metadataPatched stored o))) := by
  unfold patchMetadata
  cases s.patchTarget o with
  | error e => exact .inl ⟨e, rfl⟩
  | ok stored =>
    by_cases h : stored.metadata.isDeleting ∧ o.metadata.finalizerList = []
    · exact .inr (.inl ⟨stored, rfl, h, if_pos h⟩)
    · exact .inr (.inr ⟨stored, rfl, if_neg h⟩)

@[simp] theorem metadataPatched_key (stored given : Object) :
    (metadataPatched stored given).key = stored.key := rfl

@[simp] theorem statusPatched_key (stored given : Object) :
    (statusPatched stored given).key = stored.key := rfl

theorem key_of_patchTarget {s : Store} {given stored : Object} (h : s.patchTarget given = .ok stored) :
    stored.key = given.key :=
  key_of_findObject? (patchTarget_eq_ok.mp h).1

/-- An object under the key afterwards was there before, with the same uid and the same status. -/
def KeepsStatus (k : Key) (s t : Store) : Prop :=
  ∀ o, t.findObject? k = some o →
    ∃ o₀, s.findObject? k = some o₀ ∧ o.metadata.uid = o₀.metadata.uid ∧ o.status = o₀.status

variable {k : Key} {s t u : Store}

theorem keepsStatus_refl (k : Key) (s : Store) : KeepsStatus k s s := fun o h => ⟨o, h, rfl, rfl⟩

theorem KeepsStatus.trans (h : KeepsStatus k s t) (h' : KeepsStatus k t u) : KeepsStatus k s u := by
  intro o ho
  obtain ⟨o₁, h₁, uid₁, status₁⟩ := h' o ho
  obtain ⟨o₀, h₀, uid₀, status₀⟩ := h o₁ h₁
  exact ⟨o₀, h₀, uid₁.trans uid₀, status₁.trans status₀⟩

theorem keepsStatus_of_eq (h : t.findObject? k = s.findObject? k) : KeepsStatus k s t :=
  fun o ho => ⟨o, h.symm.trans ho, rfl, rfl⟩

theorem keepsStatus_put_other {o : Object} (h : o.key ≠ k) : KeepsStatus k s (s.put (.managed o)) :=
  keepsStatus_of_eq (by rw [findObject?_put, if_neg h])

theorem keepsStatus_erase (k' : Key) : KeepsStatus k s (s.erase k') := by
  intro o h
  rw [findObject?_erase] at h
  split_ifs at h
  exact ⟨o, h, rfl, rfl⟩

theorem keepsStatus_metadataPatched {given stored : Object} (h : s.patchTarget given = .ok stored) :
    KeepsStatus k s (s.put (.managed (metadataPatched stored given))) := by
  intro o ho
  rw [findObject?_put, metadataPatched_key, key_of_patchTarget h] at ho
  split_ifs at ho with hk
  · cases ho
    exact ⟨stored, hk ▸ (patchTarget_eq_ok.mp h).1, rfl, rfl⟩
  · exact ⟨o, ho, rfl, rfl⟩

end Store

end GatewaySync
