import GatewaySync.Resource.Object
import GatewaySync.Text.Blank
/-!
# Controlling owners

A managed object is owned by at most one other object of the two managed groups: its parent if it
has one, otherwise its control plane. Owners of other groups are none of our business.
-/
namespace GatewaySync

namespace OwnerReference

/-- The group of the owner, empty if its version has none. -/
def group (r : OwnerReference) : List Char :=
  ((Text.splitOnce '/' r.apiVersion.toList).map (·.1)).getD []

/-- The owner belongs to one of the managed groups. -/
def inFamily (r : OwnerReference) : Bool :=
  r.group = konnectGroup.toList || r.group = configurationGroup.toList

/-- Both references name the same object, whatever its uid. -/
def sameTarget (a b : OwnerReference) : Bool :=
  a.apiVersion = b.apiVersion && a.kind = b.kind && a.name = b.name

/-- Drops every reference of the family, but puts the desired one in place of the first that names
the same object. The flag tells whether it was placed. -/
def replace (desired : Option OwnerReference) : List OwnerReference → List OwnerReference × Bool
  | [] => ([], false)
  | r :: rest =>
    if r.inFamily then
      match desired with
      | some d =>
        if r.sameTarget d then (d :: rest.filter (!·.inFamily), true) else replace desired rest
      | none => replace desired rest
    else
      let (next, placed) := replace desired rest
      (r :: next, placed)

/-- The owner references with the desired one as the only member of the family. -/
def reconcile (current : List OwnerReference) (desired : Option OwnerReference) :
    List OwnerReference :=
  match replace desired current with
  | (next, true) => next
  | (next, false) => next ++ desired.toList

/-- Beside the desired reference the others than those of the family are left, in their order. -/
theorem replace_cases (desired : Option OwnerReference) (current : List OwnerReference) :
    replace desired current = (current.filter (!·.inFamily), false) ∨
      ∃ d before after, desired = some d ∧ before ++ after = current.filter (!·.inFamily) ∧
        replace desired current = (before ++ d :: after, true) := by
  induction current with
  | nil => exact .inl rfl
  | cons r rest ih =>
    unfold replace
    by_cases family : r.inFamily
    · rw [if_pos family, List.filter_cons_of_neg (by simpa using family)]
      cases desired with
      | none => exact ih
      | some d =>
        dsimp only
        split
        · exact .inr ⟨d, [], rest.filter (!·.inFamily), rfl, rfl, rfl⟩
        · exact ih
    · have kept : (r :: rest).filter (!·.inFamily) = r :: rest.filter (!·.inFamily) :=
        List.filter_cons_of_pos (by simpa using family)
      rw [if_neg family, kept]
      rcases ih with replaced | ⟨d, before, after, wanted, others, replaced⟩
      · rw [replaced]
        exact .inl rfl
      · rw [replaced]
        exact .inr ⟨d, r :: before, after, wanted, congrArg (r :: ·) others, rfl⟩

theorem replace_of_placed {d : OwnerReference} (family : d.inFamily) {before after : List OwnerReference}
    (free : ∀ r ∈ before ++ after, r.inFamily = false) :
    replace (some d) (before ++ d :: after) = (before ++ d :: after, true) := by
  induction before with
  | nil =>
    have kept : after.filter (!·.inFamily) = after :=
      List.filter_eq_self.mpr fun r hr => by simp [free r hr]
    simp [replace, family, sameTarget, kept]
  | cons r rest ih =>
    obtain ⟨other, free⟩ := List.forall_mem_cons.mp free
    simp [replace, other, ih free]

theorem reconcile_cases (desired : Option OwnerReference) (current : List OwnerReference) :
    ∃ before after, before ++ after = current.filter (!·.inFamily) ∧
      reconcile current desired = before ++ (desired.toList ++ after) := by
  rcases replace_cases desired current with replaced | ⟨d, before, after, rfl, others, replaced⟩
  · exact ⟨_, [], List.append_nil _, by rw [reconcile, replaced, List.append_nil]⟩
  · exact ⟨before, after, others, by rw [reconcile, replaced]; rfl⟩

section

variable {desired : Option OwnerReference} (family : ∀ d ∈ desired, d.inFamily = true)
  (current : List OwnerReference)

include family

/-- The desired reference is the only member of the family. -/
theorem reconcile_family : (reconcile current desired).filter (·.inFamily) = desired.toList := by
  obtain ⟨before, after, others, run⟩ := reconcile_cases desired current
  have free : (before ++ after).filter (·.inFamily) = [] := by
    rw [others, List.filter_filter]
    simp
  rw [List.filter_append, List.append_eq_nil_iff] at free
  have kept : desired.toList.filter (·.inFamily) = desired.toList :=
    List.filter_eq_self.mpr fun d hd => family d (Option.mem_toList.mp hd)
  rw [run, List.filter_append, List.filter_append, free.1, free.2, kept, List.nil_append, List.append_nil]

/-- The others are kept in their order. -/
theorem reconcile_others :
    (reconcile current desired).filter (!·.inFamily) = current.filter (!·.inFamily) := by
  obtain ⟨before, after, others, run⟩ := reconcile_cases desired current
  have gone : desired.toList.filter (!·.inFamily) = [] :=
    List.filter_eq_nil_iff.mpr fun d hd => by simp [family d (Option.mem_toList.mp hd)]
  rw [run, List.filter_append, List.filter_append, gone, List.nil_append, ← List.filter_append, others,
    List.filter_filter]
  simp only [Bool.and_self]

/-- Once the desired reference is set, setting it again changes nothing. -/
theorem reconcile_reconcile :
    reconcile (reconcile current desired) desired = reconcile current desired := by
  obtain ⟨before, after, others, run⟩ := reconcile_cases desired current
  have free : ∀ r ∈ before ++ after, r.inFamily = false := fun r hr => by
    rw [others, List.mem_filter] at hr
    simpa using hr.2
  rw [run]
  cases desired with
  | none =>
    have kept : (before ++ after).filter (!·.inFamily) = before ++ after :=
      List.filter_eq_self.mpr fun r hr => by simp [free r hr]
    obtain ⟨first, last, same, again⟩ := reconcile_cases none (before ++ after)
    exact again.trans (same.trans kept)
  | some d =>
    change reconcile (before ++ d :: after) (some d) = before ++ d :: after
    rw [reconcile, replace_of_placed (family d rfl) free]

end

theorem mem_reconcile {desired : Option OwnerReference} {current : List OwnerReference} {r : OwnerReference}
    (mem : r ∈ reconcile current desired) : r ∈ current ∨ desired = some r := by
  obtain ⟨before, after, others, run⟩ := reconcile_cases desired current
  rw [run, List.mem_append, List.mem_append] at mem
  have old (there : r ∈ before ++ after) : r ∈ current :=
    (List.mem_filter.mp (others ▸ there)).1
  rcases mem with there | own | there
  · exact .inl (old (List.mem_append_left _ there))
  · exact .inr (Option.mem_toList.mp own)
  · exact .inl (old (List.mem_append_right _ there))

end OwnerReference

/-- The reference to an object as controlling owner; it has to have a name and a uid. -/
def Object.ownerReference? (o : Object) : Option OwnerReference := do
  some {
    apiVersion := (Kind.managed o.kind).apiVersion
    blockOwnerDeletion := some true
    controller := none
    kind := o.kind.name
    name := ← o.metadata.name
    uid := ← o.metadata.uid }

theorem Object.ownerReference?_inFamily {o : Object} {r : OwnerReference}
    (h : o.ownerReference? = some r) : r.inFamily = true := by
  have version : r.apiVersion = (Kind.managed o.kind).apiVersion := by
    simp only [ownerReference?, Option.bind_eq_bind, Option.bind_eq_some_iff] at h
    obtain ⟨name, -, uid, -, same⟩ := h
    cases same
    rfl
  rw [OwnerReference.inFamily, OwnerReference.group, version]
  cases o.kind <;> decide

def Object.ownedBy (o : Object) (desired : Option OwnerReference) : Object :=
  if OwnerReference.reconcile o.metadata.ownerList desired = o.metadata.ownerList then o
  else { o with metadata := { o.metadata with
    ownerReferences := some (OwnerReference.reconcile o.metadata.ownerList desired) } }

namespace Object

variable (o : Object) (desired : Option OwnerReference)

@[simp] theorem ownedBy_status : (o.ownedBy desired).status = o.status := by
  unfold ownedBy
  split <;> rfl

@[simp] theorem ownedBy_controlPlaneId : (o.ownedBy desired).controlPlaneId = o.controlPlaneId := by
  unfold ownedBy
  split <;> rfl

@[simp] theorem ownedBy_parentId : (o.ownedBy desired).parentId = o.parentId := by
  unfold ownedBy
  split <;> rfl

@[simp] theorem ownedBy_spec : (o.ownedBy desired).spec = o.spec := by
  unfold ownedBy
  split <;> rfl

theorem ownedBy_metadata : (o.ownedBy desired).metadata =
    { o.metadata with ownerReferences := (o.ownedBy desired).metadata.ownerReferences } := by
  unfold ownedBy
  split <;> rfl

@[simp] theorem ownedBy_key : (o.ownedBy desired).key = o.key := by
  unfold ownedBy
  split <;> rfl

@[simp] theorem ownedBy_ownerList : (o.ownedBy desired).metadata.ownerList =
    OwnerReference.reconcile o.metadata.ownerList desired := by
  unfold ownedBy
  split
  · rename_i same
    exact same.symm
  · rfl

theorem ownedBy_of_owned {o : Object} {desired : Option OwnerReference} (owners : List OwnerReference)
    (family : ∀ d ∈ desired, d.inFamily = true)
    (owned : o.metadata.ownerList = OwnerReference.reconcile owners desired) : o.ownedBy desired = o := by
  refine if_pos ?_
  rw [owned]
  exact OwnerReference.reconcile_reconcile family owners

end Object

def Plugin.ownerReference? (p : Plugin) : Option OwnerReference := do
  some {
    apiVersion := Kind.plugin.apiVersion
    blockOwnerDeletion := some true
    controller := none
    kind := Kind.plugin.name
    name := ← p.metadata.name
    uid := ← p.metadata.uid }

end GatewaySync
