import GatewaySync.Proofs.Ordering
import GatewaySync.Resource.SpecCodec
/-!
# Reading back what was written

A record is written as an object that names each of its fields once, and a reader finds every field there
again. An option is left out if it is unset, and whatever is set is never written as `null`.
-/
namespace GatewaySync.Json

variable {α β : Type} {name key : String} {members : List (String × Json)}

def valuesOf (name : String) (members : List (String × Json)) : List Json :=
  (members.filter (·.1 = name)).map (·.2)

def written (slots : List (Option (String × Json))) : List (String × Json) := slots.filterMap id

theorem object_eq (slots : List (Option (String × Json))) : object slots = .obj (written slots) := rfl

@[simp] theorem object_ne_null (slots : List (Option (String × Json))) : object slots ≠ .null := nofun

def atMostOne : List Json → Option (Option Json)
  | [] => some none
  | [v] => some (some v)
  | _ => none

@[simp] theorem atMostOne_singleton (v : Json) : atMostOne [v] = some (some v) := rfl

@[simp] theorem atMostOne_toList (v : Option Json) : atMostOne v.toList = some v := by
  cases v <;> rfl

@[simp] theorem valuesOf_written_nil : valuesOf name (written []) = [] := rfl

@[simp] theorem valuesOf_always (v : Json) (rest : List (Option (String × Json))) :
    valuesOf name (written (always key v :: rest)) =
      if key = name then v :: valuesOf name (written rest) else valuesOf name (written rest) := by
  by_cases same : key = name <;> simp [valuesOf, written, always, same]

@[simp] theorem valuesOf_whenSet (write : α → Json) (v : Option α) (rest : List (Option (String × Json))) :
    valuesOf name (written (whenSet key write v :: rest)) =
      if key = name then (v.map write).toList ++ valuesOf name (written rest)
      else valuesOf name (written rest) := by
  cases v <;> by_cases same : key = name <;> simp [valuesOf, written, whenSet, same]

@[simp] def fieldOf (members : List (String × Json)) (name : String) : Option (String × Option Json) :=
  (atMostOne (valuesOf name members)).map (Prod.mk name)

theorem fields_obj (names : List String) (members : List (String × Json)) :
    fields names (.obj members) = (names.mapM (fieldOf members)).map (Fields.mk false) := by
  rw [Option.map_eq_bind]
  refine congrArg (fun read => List.mapM read names >>= fun values => some (Fields.mk false values)) ?_
  funext name
  rw [fieldOf, valuesOf]
  generalize members.filter (·.1 = name) = found
  rcases found with _ | ⟨⟨_, _⟩, _ | _⟩ <;> rfl

@[simp] theorem fields_object (names : List String) (slots : List (Option (String × Json))) :
    fields names (object slots) = (names.mapM (fieldOf (written slots))).map (Fields.mk false) :=
  fields_obj names _

/-- The option that a field tells of: nothing if it is missing or `null`. -/
def readOption (d : Decoder α) : Option Json → Option (Option α)
  | none => some none
  | some v => Decoder.optional d v

/-- The value that a field tells of, which a default stands in for. -/
def readOr (default : α) (d : Decoder α) : Option Json → Option α
  | none => some default
  | some v => d v

@[simp] theorem readOr_some (default : α) (d : Decoder α) (v : Json) : readOr default d (some v) = d v := rfl

namespace Fields

@[simp] theorem find_cons (positional : Bool) (key : String) (v : Option Json)
    (rest : List (String × Option Json)) :
    (Fields.mk positional ((key, v) :: rest)).find name =
      if key = name then v else (Fields.mk positional rest).find name := by
  by_cases same : key = name <;> simp [find, same]

variable (fs : Fields) (name : String)

@[simp] theorem required_eq (d : Decoder α) : fs.required name d = (fs.find name).bind d := rfl

@[simp] theorem defaulted_eq (default : α) (d : Decoder α) :
    fs.defaulted name default d = readOr default d (fs.find name) := by
  unfold defaulted
  cases fs.find name <;> rfl

@[simp] theorem optional_eq (d : Decoder α) : fs.optional name d = readOption d (fs.find name) := by
  unfold optional
  rw [defaulted_eq]
  cases fs.find name <;> rfl

@[simp] theorem nullable_eq (values : List (String × Option Json)) (d : Decoder α) :
    (Fields.mk false values).nullable name d = readOption d ((Fields.mk false values).find name) := by
  unfold nullable
  cases (Fields.mk false values).find name <;> rfl

@[simp] theorem text_eq : fs.text name = (fs.find name).bind Decoder.string := rfl

@[simp] theorem textIfSet_eq : fs.textIfSet name = readOption Decoder.string (fs.find name) :=
  optional_eq fs name _

@[simp] theorem strings_eq : fs.strings name = readOr [] stringList (fs.find name) := defaulted_eq fs name _ _

@[simp] theorem ref_eq : fs.ref name = readOption Reference.decode (fs.find name) := optional_eq fs name _

end Fields

theorem optional_of_ne_null {d : Decoder α} {v : Json} (set : v ≠ .null) :
    Decoder.optional d v = (d v).map some := by
  rw [Decoder.optional]
  exact set

theorem readOption_map {d : Decoder α} {write : α → Json} (norm : α → α) {v : Option α}
    (again : ∀ a ∈ v, d (write a) = some (norm a)) (set : ∀ a ∈ v, write a ≠ .null) :
    readOption d (v.map write) = some (v.map norm) := by
  cases v with
  | none => rfl
  | some a =>
    rw [Option.map_some, readOption, optional_of_ne_null (set a rfl), again a rfl]
    rfl

theorem readOption_map_self {d : Decoder α} {write : α → Json} {v : Option α}
    (again : ∀ a ∈ v, d (write a) = some a) (set : ∀ a ∈ v, write a ≠ .null) :
    readOption d (v.map write) = some v := by
  have read := readOption_map id again set
  rwa [Option.map_id] at read

/-- What is read of an option is nothing, or is read of a value that is set. -/
theorem readOption_eq_some {d : Decoder α} {v : Option Json} {x : Option α} (h : readOption d v = some x)
    {a : α} (set : a ∈ x) : ∃ w, w ≠ .null ∧ d w = some a := by
  cases v with
  | none =>
    cases h
    cases set
  | some w =>
    by_cases null : w = .null
    · subst null
      cases h
      cases set
    · rw [readOption, optional_of_ne_null null] at h
      obtain ⟨b, read, rfl⟩ := Option.map_eq_some_iff.mp h
      cases set
      exact ⟨w, null, read⟩

theorem Fields.nullable_eq_some {fs : Fields} {d : Decoder α} {x : Option α} (h : fs.nullable name d = some x)
    {a : α} (set : a ∈ x) : ∃ w, d w = some a := by
  rw [nullable] at h
  cases found : fs.find name with
  | none =>
    rw [found] at h
    split_ifs at h
    cases h
    cases set
  | some v =>
    rw [found] at h
    obtain ⟨w, -, read⟩ := readOption_eq_some (v := some v) h set
    exact ⟨w, read⟩

/-- What is read of a value with a default is the default, or is read of a value that is set. -/
theorem readOr_eq_some {default a : α} {d : Decoder α} {v : Option Json} (h : readOr default d v = some a) :
    a = default ∨ ∃ w, d w = some a := by
  cases v with
  | none =>
    cases h
    exact .inl rfl
  | some w => exact .inr ⟨w, h⟩

section

variable {d : Decoder α} {write : α → Json}

theorem list_map (norm : α → α) {l : List α} (again : ∀ a ∈ l, d (write a) = some (norm a)) :
    Decoder.list d (.arr (l.map write)) = some (l.map norm) := by
  induction l with
  | nil => rfl
  | cons a rest ih =>
    obtain ⟨first, later⟩ := List.forall_mem_cons.mp again
    have ih : (rest.map write).mapM d = some (rest.map norm) := ih later
    simp [Decoder.list, first, ih]

theorem list_map_self {l : List α} (again : ∀ a ∈ l, d (write a) = some a) :
    Decoder.list d (.arr (l.map write)) = some l := by
  have read := list_map id again
  rwa [List.map_id] at read

theorem list_eq_some {v : Json} {l : List α} (h : Decoder.list d v = some l) {a : α} (mem : a ∈ l) :
    ∃ w, d w = some a := by
  cases v with
  | arr items =>
    rw [Decoder.list] at h
    induction items generalizing l with
    | nil =>
      cases h
      cases mem
    | cons w rest ih =>
      simp only [List.mapM_cons, Option.pure_def, Option.bind_eq_bind, Option.bind_eq_some_iff,
        Option.some.injEq] at h
      obtain ⟨b, read, bs, more, rfl⟩ := h
      rcases List.mem_cons.mp mem with rfl | mem
      · exact ⟨w, read⟩
      · exact ih mem more
  | _ => cases h

end

def textMembers (entries : List (String × String)) : List (String × Json) :=
  entries.map fun (k, v) => (k, .str v)

theorem map_textMembers {l : List (String × String)} (ordered : InKeyOrder l) :
    Decoder.map Decoder.string (.obj (textMembers l)) = some l := by
  have folded (start : List (String × String)) :
      (textMembers l).foldlM
          (fun sorted e => (Decoder.string e.2).map (Decoder.insertSorted e.1 · sorted)) start =
        some (l.foldl (fun sorted e => Decoder.insertSorted e.1 e.2 sorted) start) := by
    clear ordered
    induction l generalizing start with
    | nil => rfl
    | cons e rest ih => exact ih _
  exact (folded []).trans (congrArg some (foldl_insertSorted_of_inKeyOrder (l := []) ordered))

theorem map_inKeyOrder {d : Decoder α} {v : Json} {l : List (String × α)} (h : Decoder.map d v = some l) :
    InKeyOrder l := by
  have folded (members : List (String × Json)) : ∀ start : List (String × α), InKeyOrder start →
      members.foldlM (fun sorted e => (d e.2).map (Decoder.insertSorted e.1 · sorted)) start = some l →
        InKeyOrder l := by
    induction members with
    | nil =>
      rintro start ordered ⟨⟩
      exact ordered
    | cons e rest ih =>
      intro start ordered run
      rw [List.foldlM_cons] at run
      obtain ⟨sorted, first, run⟩ := Option.bind_eq_some_iff.mp run
      obtain ⟨a, -, rfl⟩ := Option.map_eq_some_iff.mp first
      exact ih _ (ordered.insertSorted e.1 a) run
  cases v with
  | obj members => exact folded members [] .nil h
  | _ => cases h

section

@[simp] theorem string_str (s : String) : Decoder.string (.str s) = some s := rfl

@[simp] theorem bool_bool (b : Bool) : Decoder.bool (.bool b) = some b := rfl

@[simp] theorem stringList_ofStrings (l : List String) : stringList (ofStrings l) = some l :=
  list_map_self fun s _ => string_str s

@[simp] theorem readOption_str (v : Option String) : readOption Decoder.string (v.map .str) = some v :=
  readOption_map_self (fun s _ => string_str s) (by simp)

@[simp] theorem readOption_bool (v : Option Bool) : readOption Decoder.bool (v.map .bool) = some v :=
  readOption_map_self (fun b _ => bool_bool b) (by simp)

theorem int64_int {n : Int} (fits : isInt64 n) : Decoder.int64 (.int n) = some n := if_pos fits

theorem readOption_int {v : Option Int} (fits : ∀ n ∈ v, isInt64 n) :
    readOption Decoder.int64 (v.map .int) = some v :=
  readOption_map_self (fun n hn => int64_int (fits n hn)) (by simp)

theorem isInt64_of_int64 {v : Json} {n : Int} (h : Decoder.int64 v = some n) : isInt64 n := by
  cases v with
  | int m =>
    rw [Decoder.int64] at h
    split_ifs at h with fits
    cases h
    exact fits
  | _ => cases h

theorem isInt64_of_readOption {v : Option Json} {x : Option Int} (h : readOption Decoder.int64 v = some x) :
    ∀ n ∈ x, isInt64 n := by
  intro n hn
  obtain ⟨w, -, read⟩ := readOption_eq_some h hn
  exact isInt64_of_int64 read

theorem document_eq_some {v w : Json} (h : Decoder.document v = some w) : w = v ∧ v.isReadable := by
  unfold Decoder.document at h
  split_ifs at h with readable
  cases h
  exact ⟨rfl, readable⟩

theorem readOption_document {v : Option Json} (fits : ∀ w ∈ v, w ≠ .null ∧ w.isReadable) :
    readOption Decoder.document v = some v := by
  have read (w : Json) (hw : w ∈ v) : Decoder.document (id w) = some w := if_pos (fits w hw).2
  have again := readOption_map_self read fun w hw => (fits w hw).1
  rwa [Option.map_id, id] at again

theorem fits_of_readOption_document {v : Option Json} {x : Option Json}
    (h : readOption Decoder.document v = some x) : ∀ w ∈ x, w ≠ .null ∧ w.isReadable := by
  intro w hw
  obtain ⟨u, set, read⟩ := readOption_eq_some h hw
  obtain ⟨rfl, readable⟩ := document_eq_some read
  exact ⟨set, readable⟩

end

end GatewaySync.Json

namespace GatewaySync

open Json

@[simp] theorem Reference.decode_encode (r : Reference) : Reference.decode r.encode = some r := by
  cases r with
  | konnectId id => rfl
  | object name ns => cases ns <;> rfl

@[simp] theorem Reference.readOption_encode (v : Option Reference) :
    readOption Reference.decode (v.map Reference.encode) = some v :=
  readOption_map_self (fun r _ => Reference.decode_encode r) (by rintro (_ | _) - <;> simp [Reference.encode])

@[simp] theorem decodeName_encodeName (name : String) : decodeName (encodeName name) = some name := rfl

@[simp] theorem readOption_encodeName (v : Option String) :
    readOption decodeName (v.map encodeName) = some v :=
  readOption_map_self (fun name _ => decodeName_encodeName name) (by simp [encodeName])

end GatewaySync
