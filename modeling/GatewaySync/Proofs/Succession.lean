import GatewaySync.Resource.Owner
import Mathlib.Data.List.Basic
/-!
# One controlling owner after another

An object is given its controlling owner in every pass, so its owner references are reconciled again and
again. What came before the last owner leaves no trace but the place of a reference: the owners of other
groups stay in their order, and of the managed groups the last owner is left alone. Where the same owner
was named before, it keeps the place, so that a pass that finds it there writes nothing.
-/
namespace GatewaySync

namespace Text

theorem splitOnce_eq_some_iff {separator : Char} {cs before after : List Char} :
    splitOnce separator cs = some (before, after) ↔ cs = before ++ separator :: after ∧ separator ∉ before := by
  induction cs generalizing before with
  | nil => simp [splitOnce]
  | cons c rest ih =>
    by_cases here : c = separator
    · subst here
      cases before with
      | nil => simp [splitOnce]
      | cons b before =>
        refine iff_of_false (by simp [splitOnce]) ?_
        rintro ⟨same, fresh⟩
        obtain ⟨rfl, -⟩ := List.cons.inj same
        exact fresh List.mem_cons_self
    · cases before with
      | nil => simp [splitOnce, here]
      | cons b before =>
        rw [splitOnce, if_neg here, Option.map_eq_some_iff]
        constructor
        · rintro ⟨⟨before, after⟩, found, ⟨⟩⟩
          obtain ⟨rfl, fresh⟩ := ih.mp found
          exact ⟨rfl, List.not_mem_cons_of_ne_of_not_mem (Ne.symm here) fresh⟩
        · rintro ⟨same, fresh⟩
          obtain ⟨rfl, rfl⟩ := List.cons.inj same
          exact ⟨_, ih.mpr ⟨rfl, List.not_mem_of_not_mem_cons fresh⟩, rfl⟩

end Text

namespace OwnerReference

def Managed (r : OwnerReference) : Prop :=
  ∃ group ∈ [konnectGroup, configurationGroup], ∃ version, r.apiVersion = group ++ "/" ++ version

def target (r : OwnerReference) : String × String × String := (r.apiVersion, r.kind, r.name)

theorem sameTarget_iff {a b : OwnerReference} : a.sameTarget b = true ↔ a.target = b.target := by
  simp [sameTarget, target, and_assoc]

theorem group_eq_iff (r : OwnerReference) {group : String} (plain : '/' ∉ group.toList)
    (named : group.toList ≠ []) :
    r.group = group.toList ↔ ∃ version, r.apiVersion = group ++ "/" ++ version := by
  have text (version : String) :
      r.apiVersion = group ++ "/" ++ version ↔ r.apiVersion.toList = group.toList ++ '/' :: version.toList := by
    rw [← String.toList_inj, String.toList_append, String.toList_append, List.append_assoc]
    rfl
  constructor
  · intro same
    cases split : Text.splitOnce '/' r.apiVersion.toList with
    | none =>
      rw [OwnerReference.group, split] at same
      exact absurd same.symm named
    | some parts =>
      obtain ⟨before, after⟩ := parts
      rw [OwnerReference.group, split] at same
      obtain rfl : before = group.toList := same
      refine ⟨String.ofList after, (text _).mpr ?_⟩
      rw [String.toList_ofList]
      exact (Text.splitOnce_eq_some_iff.mp split).1
  · rintro ⟨version, same⟩
    rw [OwnerReference.group, Text.splitOnce_eq_some_iff.mpr ⟨(text version).mp same, plain⟩]
    rfl

theorem inFamily_iff {r : OwnerReference} : r.inFamily = true ↔ r.Managed := by
  have konnect : r.group = konnectGroup.toList ↔ _ := group_eq_iff r (by decide) (by decide)
  have configuration : r.group = configurationGroup.toList ↔ _ := group_eq_iff r (by decide) (by decide)
  simp only [inFamily, Managed, Bool.or_eq_true, decide_eq_true_eq, konnect, configuration, List.mem_cons,
    List.not_mem_nil, or_false, exists_eq_or_imp, exists_eq_left]

instance : DecidablePred Managed := fun _ => decidable_of_iff _ inFamily_iff

theorem inFamily_eq (r : OwnerReference) : r.inFamily = decide r.Managed := by
  rw [Bool.eq_iff_iff, decide_eq_true_eq]
  exact inFamily_iff

def foreign (owners : List OwnerReference) : List OwnerReference := owners.filter (¬ ·.Managed)

theorem foreign_eq (owners : List OwnerReference) : foreign owners = owners.filter (!·.inFamily) := by
  simp only [foreign, inFamily_eq, decide_not]

theorem foreign_cons (r : OwnerReference) (rest : List OwnerReference) :
    foreign (r :: rest) = foreign [r] ++ foreign rest :=
  List.filter_append [r] rest

/-- Two lists that differ at most in where a reference stands. -/
def SameButPlace (desired : Option OwnerReference) (owners other : List OwnerReference) : Prop :=
  ∃ before after before' after', before ++ after = before' ++ after' ∧
    owners = before ++ (desired.toList ++ after) ∧ other = before' ++ (desired.toList ++ after')

section

variable {d : OwnerReference}

theorem Managed.of_target {r : OwnerReference} (managed : d.Managed) (same : r.target = d.target) :
    r.Managed := by
  obtain ⟨version, -⟩ := Prod.mk.inj same
  rw [Managed, version]
  exact managed

theorem replace_cons_unlike {r : OwnerReference} (unlike : r.target ≠ d.target) (rest : List OwnerReference) :
    replace (some d) (r :: rest) =
      (foreign [r] ++ (replace (some d) rest).1, (replace (some d) rest).2) := by
  rw [replace]
  by_cases member : r.Managed
  · rw [if_pos (inFamily_iff.mpr member), foreign, List.filter_cons_of_neg (by simpa using member)]
    exact if_neg (mt sameTarget_iff.mp unlike)
  · rw [if_neg (mt inFamily_iff.mp member), foreign, List.filter_cons_of_pos (by simpa using member)]
    rfl

/-- The first reference that names the desired owner gives its place to it. -/
theorem replace_named {r : OwnerReference} {before : List OwnerReference} (managed : d.Managed)
    (named : r.target = d.target) (first : ∀ b ∈ before, b.target ≠ d.target) (rest : List OwnerReference) :
    replace (some d) (before ++ r :: rest) = (foreign before ++ d :: foreign rest, true) := by
  induction before with
  | nil =>
    rw [List.nil_append, replace, if_pos (inFamily_iff.mpr (managed.of_target named)), ← foreign_eq]
    exact if_pos (sameTarget_iff.mpr named)
  | cons b before ih =>
    obtain ⟨unlike, first⟩ := List.forall_mem_cons.mp first
    rw [List.cons_append, replace_cons_unlike unlike, ih first, foreign_cons b before, List.append_assoc]

/-- Where no reference names the desired owner none gives its place to it. -/
theorem replace_unnamed {owners : List OwnerReference} (unnamed : ∀ r ∈ owners, r.target ≠ d.target) :
    replace (some d) owners = (foreign owners, false) := by
  induction owners with
  | nil => rfl
  | cons r rest ih =>
    obtain ⟨unlike, unnamed⟩ := List.forall_mem_cons.mp unnamed
    rw [replace_cons_unlike unlike, ih unnamed, foreign_cons r rest]

end

/-- However many owners were desired in turn, the owners of other groups are kept in their order. -/
theorem foreign_foldl {desired : List (Option OwnerReference)} (managed : ∀ next ∈ desired, ∀ d ∈ next, d.Managed)
    (owners : List OwnerReference) : foreign (desired.foldl reconcile owners) = foreign owners := by
  induction desired generalizing owners with
  | nil => rfl
  | cons next rest ih =>
    obtain ⟨own, managed⟩ := List.forall_mem_cons.mp managed
    have step : foreign (reconcile owners next) = foreign owners := by
      rw [foreign_eq, foreign_eq]
      exact reconcile_others (fun d mem => inFamily_iff.mpr (own d mem)) owners
    rw [List.foldl_cons, ih managed, step]

/-- After any sequence of desired owners the references are what the last of them makes of the first ones,
but for its place. To desire it again changes nothing, and where it was named it stands in the first place
that named it. -/
theorem reconciliation_forgets {earlier : List (Option OwnerReference)} {last : Option OwnerReference}
    (managed : ∀ next ∈ earlier ++ [last], ∀ d ∈ next, d.Managed) (owners : List OwnerReference) :
    let current := earlier.foldl reconcile owners
    let final := (earlier ++ [last]).foldl reconcile owners
    (foreign final = foreign owners ∧ final.filter (·.Managed) = last.toList) ∧
      SameButPlace last final (reconcile owners last) ∧ reconcile final last = final ∧
      ∀ d ∈ last,
        (∀ before r rest, current = before ++ r :: rest → r.target = d.target →
          (∀ b ∈ before, b.target ≠ d.target) → final = foreign before ++ d :: foreign rest) ∧
        ((∀ r ∈ current, r.target ≠ d.target) → final = foreign current ++ [d]) := by
  intro current final
  have others : foreign final = foreign owners := foreign_foldl managed owners
  have before : foreign current = foreign owners :=
    foreign_foldl (fun next mem => managed next (List.mem_append_left _ mem)) owners
  have family : ∀ d ∈ last, d.inFamily = true := fun d mem =>
    inFamily_iff.mpr (managed last List.mem_concat_self d mem)
  have run : final = reconcile current last := List.foldl_append
  refine ⟨⟨others, ?_⟩, ?_, ?_, fun d mem => ⟨fun before r rest split named first => ?_, fun unnamed => ?_⟩⟩
  · rw [run, ← reconcile_family family current]
    simp only [inFamily_eq]
  · obtain ⟨first, rest, left, here⟩ := reconcile_cases last current
    obtain ⟨first', rest', left', once⟩ := reconcile_cases last owners
    rw [← foreign_eq] at left left'
    exact ⟨first, rest, first', rest', left.trans (before.trans left'.symm), run.trans here, once⟩
  · rw [run]
    exact reconcile_reconcile family current
  · obtain rfl := mem
    rw [run, split, reconcile, replace_named (inFamily_iff.mp (family d rfl)) named first]
  · obtain rfl := mem
    rw [run, reconcile, replace_unnamed unnamed]
    rfl

section

def ofService (uid : String) : OwnerReference :=
  { apiVersion := "configuration.konghq.com/v1alpha1", blockOwnerDeletion := some true, controller := none
    kind := "KongService", name := "web", uid }

def ofPlane : OwnerReference :=
  { apiVersion := "konnect.konghq.com/v1alpha1", blockOwnerDeletion := none, controller := none
    kind := "KonnectGatewayControlPlane", name := "main", uid := "7" }

def ofDeployment (name : String) : OwnerReference :=
  { apiVersion := "apps/v1", blockOwnerDeletion := none, controller := some true, kind := "Deployment", name
    uid := "8" }

/-- A service that was made again twice stays where it was first named. -/
theorem ofService_keeps_place :
    (∀ next ∈ [some (ofService "2")] ++ [some (ofService "3")], ∀ d ∈ next, d.Managed) ∧
      ([some (ofService "2")] ++ [some (ofService "3")]).foldl reconcile
          [ofDeployment "a", ofPlane, ofService "1", ofDeployment "b", ofService "0"] =
        [ofDeployment "a", ofService "3", ofDeployment "b"] := by
  have managed : ∀ next ∈ [some (ofService "2")] ++ [some (ofService "3")], ∀ d ∈ next, d.Managed := by
    decide +kernel
  refine ⟨managed, ?_⟩
  obtain ⟨-, -, -, placed⟩ :=
    reconciliation_forgets managed [ofDeployment "a", ofPlane, ofService "1", ofDeployment "b", ofService "0"]
  exact (placed _ rfl).1 [ofDeployment "a"] (ofService "2") [ofDeployment "b"] (by decide +kernel) rfl (by decide)

end

end OwnerReference

end GatewaySync
