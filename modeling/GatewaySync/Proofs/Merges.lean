import GatewaySync.Proofs.Fields
import GatewaySync.Json.MergePatch
/-!
# What a merge leaves of a member

A change of a member leaves all others alone. Of a document that names a member at most once, it leaves just
what the patch is meant to: nothing of the member if the change is `null`, and otherwise the value changed.
-/
namespace GatewaySync.Json

variable {name key : String} {members changes : List (String × Json)} {old : Option Json}

theorem atMostOne_eq_some {values : List Json} (h : atMostOne values = some old) : values = old.toList := by
  rcases values with _ | ⟨v, _ | _⟩ <;> cases h <;> rfl

theorem lookup_of_valuesOf (once : valuesOf key members = old.toList) : lookup key members = old := by
  have last : lookup key members = (valuesOf key members).getLast? := by
    rw [lookup, valuesOf, List.getLast?_map, ← List.head?_filter, List.filter_reverse, List.head?_reverse]
  rw [last, once]
  cases old <;> rfl

theorem mem_of_valuesOf {v : Json} (h : valuesOf name members = [v]) : (name, v) ∈ members := by
  have held : v ∈ valuesOf name members := by
    rw [h]
    exact .head _
  obtain ⟨⟨_, _⟩, mem, rfl⟩ := List.mem_map.mp held
  obtain ⟨mem, same⟩ := List.mem_filter.mp mem
  rwa [← of_decide_eq_true same]

theorem valuesOf_cons_self (v : Json) (rest : List (String × Json)) :
    valuesOf key ((key, v) :: rest) = v :: valuesOf key rest := by
  simp [valuesOf]

theorem valuesOf_cons_of_ne (other : key ≠ name) (v : Json) (rest : List (String × Json)) :
    valuesOf name ((key, v) :: rest) = valuesOf name rest := by
  simp [valuesOf, other]

theorem valuesOf_of_not_mem (absent : name ∉ members.map Prod.fst) : valuesOf name members = [] := by
  rw [valuesOf, List.map_eq_nil_iff, List.filter_eq_nil_iff]
  intro e mem same
  exact absent (List.mem_map.mpr ⟨e, mem, of_decide_eq_true same⟩)

theorem valuesOf_of_mem {v : Json} (distinct : (members.map Prod.fst).Nodup) (mem : (name, v) ∈ members) :
    valuesOf name members = [v] := by
  induction members with
  | nil => cases mem
  | cons e rest ih =>
    obtain ⟨key, w⟩ := e
    obtain ⟨absent, distinct⟩ := List.nodup_cons.mp distinct
    rcases List.mem_cons.mp mem with same | mem
    · cases same
      rw [valuesOf_cons_self, valuesOf_of_not_mem absent]
    · have other : key ≠ name := fun same => absent (List.mem_map.mpr ⟨_, mem, same.symm⟩)
      rw [valuesOf_cons_of_ne other]
      exact ih distinct mem

theorem exists_valuesOf (distinct : (members.map Prod.fst).Nodup) (name : String) :
    ∃ old : Option Json, valuesOf name members = old.toList := by
  by_cases mem : name ∈ members.map Prod.fst
  · obtain ⟨⟨_, v⟩, held, rfl⟩ := List.mem_map.mp mem
    exact ⟨some v, valuesOf_of_mem distinct held⟩
  · exact ⟨none, valuesOf_of_not_mem mem⟩

section Assign

/-- The members after one of them is set, or dropped. -/
def assign (key : String) (v : Option Json) (members : List (String × Json)) : List (String × Json) :=
  match v with
  | none => without key members
  | some v => put key v members

theorem valuesOf_put_self (v : Json) (members : List (String × Json)) :
    valuesOf key (put key v members) = v :: (valuesOf key members).tail := by
  induction members with
  | nil => exact valuesOf_cons_self v []
  | cons e rest ih =>
    obtain ⟨k, w⟩ := e
    rw [put]
    by_cases same : k = key
    · subst same
      rw [if_pos rfl, valuesOf_cons_self, valuesOf_cons_self, List.tail_cons]
    · rw [if_neg same, valuesOf_cons_of_ne same, valuesOf_cons_of_ne same, ih]

theorem valuesOf_put_of_ne (other : key ≠ name) (v : Json) (members : List (String × Json)) :
    valuesOf name (put key v members) = valuesOf name members := by
  induction members with
  | nil => exact valuesOf_cons_of_ne other v []
  | cons e rest ih =>
    obtain ⟨k, w⟩ := e
    rw [put]
    by_cases same : k = key
    · subst same
      rw [if_pos rfl, valuesOf_cons_of_ne other, valuesOf_cons_of_ne other]
    · rw [if_neg same]
      by_cases sought : k = name
      · subst sought
        rw [valuesOf_cons_self, valuesOf_cons_self, ih]
      · rw [valuesOf_cons_of_ne sought, valuesOf_cons_of_ne sought, ih]

theorem valuesOf_assign_self (once : valuesOf key members = old.toList) (v : Option Json) :
    valuesOf key (assign key v members) = v.toList := by
  cases v with
  | none => simp [assign, without, valuesOf, List.filter_filter]
  | some v =>
    rw [assign, valuesOf_put_self, once]
    cases old <;> rfl

theorem valuesOf_assign_of_ne (other : key ≠ name) (v : Option Json) (members : List (String × Json)) :
    valuesOf name (assign key v members) = valuesOf name members := by
  cases v with
  | none =>
    have kept : ∀ e ∈ members, (decide (e.1 = name) && (e.1 != key)) = decide (e.1 = name) := by
      intro e _
      by_cases sought : e.1 = name
      · simp [sought, other.symm]
      · simp [sought]
    rw [assign, without, valuesOf, valuesOf, List.filter_filter, List.filter_congr kept]
  | some v => exact valuesOf_put_of_ne other v members

end Assign

/-- What a change leaves of the value of a member. -/
def patched (old : Option Json) : Json → Option Json
  | null => none
  | change => some (mergePatch (old.getD null) change)

theorem mergeMembers_cons (members : List (String × Json)) (key : String) (change : Json)
    (rest : List (String × Json)) :
    mergeMembers members ((key, change) :: rest) =
      mergeMembers (assign key (patched (lookup key members) change) members) rest := by
  cases change <;> simp [mergeMembers, patched, assign]

theorem valuesOf_mergeMembers_of_not_mem (absent : name ∉ changes.map Prod.fst)
    (members : List (String × Json)) : valuesOf name (mergeMembers members changes) = valuesOf name members := by
  induction changes generalizing members with
  | nil => rw [mergeMembers]
  | cons e rest ih =>
    obtain ⟨key, change⟩ := e
    obtain ⟨other, absent⟩ := List.ne_and_not_mem_of_not_mem_cons absent
    rw [mergeMembers_cons, ih absent, valuesOf_assign_of_ne (Ne.symm other)]

/-- A member that is named once, in the document and in the patch, is changed as the patch says. -/
theorem valuesOf_mergeMembers_of_mem {change : Json} (once : valuesOf name members = old.toList)
    (distinct : (changes.map Prod.fst).Nodup) (mem : (name, change) ∈ changes) :
    valuesOf name (mergeMembers members changes) = (patched old change).toList := by
  induction changes generalizing members with
  | nil => cases mem
  | cons e rest ih =>
    obtain ⟨key, c⟩ := e
    obtain ⟨absent, distinct⟩ := List.nodup_cons.mp distinct
    rw [mergeMembers_cons]
    rcases List.mem_cons.mp mem with same | mem
    · cases same
      rw [valuesOf_mergeMembers_of_not_mem absent, lookup_of_valuesOf once, valuesOf_assign_self once]
    · have other : key ≠ name := fun same => absent (List.mem_map.mpr ⟨_, mem, same.symm⟩)
      exact ih ((valuesOf_assign_of_ne other _ _).trans once) distinct mem

/-- Each of the names is a member at most once; what is no object has no members. -/
def NamesOnce (names : List String) (v : Json) : Prop :=
  ∀ name ∈ names, ∃ old : Option Json, valuesOf name v.membersOf = old.toList

theorem namesOnce_null (names : List String) : NamesOnce names null := fun _ _ => ⟨none, rfl⟩

/-- A record is read only if it names its fields at most once, and then holds the values of its members. -/
theorem valuesOf_of_fields {names : List String} {fs : Fields} (read : fields names (obj members) = some fs)
    (mem : name ∈ names) : valuesOf name members = (fs.find name).toList := by
  rw [fields_obj] at read
  obtain ⟨values, all, rfl⟩ := Option.map_eq_some_iff.mp read
  clear read
  induction names generalizing values with
  | nil => cases mem
  | cons first rest ih =>
    rw [List.mapM_cons] at all
    obtain ⟨value, found, all⟩ := Option.bind_eq_some_iff.mp all
    obtain ⟨values, more, ⟨⟩⟩ := Option.bind_eq_some_iff.mp all
    obtain ⟨old, once, rfl⟩ := Option.map_eq_some_iff.mp found
    rw [Fields.find_cons]
    by_cases same : first = name
    · subst same
      rw [if_pos rfl]
      exact atMostOne_eq_some once
    · rw [if_neg same]
      exact ih (List.mem_of_ne_of_mem (Ne.symm same) mem) values more

theorem namesOnce_of_fields {names : List String} {v : Json} {fs : Fields} (read : fields names v = some fs) :
    NamesOnce names v := by
  cases v with
  | obj members => exact fun name mem => ⟨fs.find name, valuesOf_of_fields read mem⟩
  | _ => exact fun _ _ => ⟨none, rfl⟩

def Replaces (change : Json) : Prop := ∀ old, patched old change = some change

@[simp] theorem replaces_str (s : String) : Replaces (str s) := fun _ => rfl

/-- A patch that replaces every field of a record leaves the fields of the patch. -/
theorem fields_mergePatch {names : List String} {v : Json} (once : NamesOnce names v)
    (distinct : (changes.map Prod.fst).Nodup)
    (replaced : ∀ name ∈ names, ∃ change, (name, change) ∈ changes ∧ Replaces change) :
    fields names (mergePatch v (obj changes)) = fields names (obj changes) := by
  have same : ∀ name ∈ names, fieldOf (mergeMembers v.membersOf changes) name = fieldOf changes name := by
    intro name mem
    obtain ⟨old, once⟩ := once name mem
    obtain ⟨change, mem, replaces⟩ := replaced name mem
    rw [fieldOf, fieldOf, valuesOf_mergeMembers_of_mem once distinct mem, valuesOf_of_mem distinct mem, replaces old]
    rfl
  have read : names.mapM (fieldOf (mergeMembers v.membersOf changes)) = names.mapM (fieldOf changes) := by
    clear once replaced
    induction names with
    | nil => rfl
    | cons first rest ih =>
      obtain ⟨here, later⟩ := List.forall_mem_cons.mp same
      rw [List.mapM_cons, List.mapM_cons, here, ih later]
  rw [mergePatch, fields_obj, fields_obj, read]

end GatewaySync.Json
