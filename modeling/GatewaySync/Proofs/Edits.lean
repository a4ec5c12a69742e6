import GatewaySync.Resource.Owner
import GatewaySync.Resource.Conditions
import Mathlib.Data.List.Nodup
import Mathlib.Tactic.SplitIfs
/-!
# Scripts of status edits

What a pass does to the object at hand is a script: verdicts that it notes, coordinates that it sets and
what a binding applies. Each edit has a slot of the status that it is about. What is said of a slot that
is edited once holds at the end of the script, so that running it again leaves the slot as it is, and the
time of a condition that is noted once only moves if its status turns.
-/
namespace GatewaySync

inductive Field where
  | id
  | serverUrl
  | orgId
  | controlPlaneId
  | parentId
  deriving DecidableEq

namespace Coordinates

def get (k : Coordinates) : Field → String
  | .id => k.id
  | .serverUrl => k.serverUrl
  | .orgId => k.orgId
  | .controlPlaneId => k.controlPlaneId
  | .parentId => k.parentId

def set (f : Field) (value : String) (k : Coordinates) : Coordinates :=
  match f with
  | .id => { k with id := value }
  | .serverUrl => { k with serverUrl := value }
  | .orgId => { k with orgId := value }
  | .controlPlaneId => { k with controlPlaneId := value }
  | .parentId => { k with parentId := value }

theorem get_set (f g : Field) (value : String) (k : Coordinates) :
    (k.set f value).get g = if f = g then value else k.get g := by
  cases f <;> cases g <;> rfl

theorem set_get (f : Field) (k : Coordinates) : k.set f (k.get f) = k := by
  cases f <;> rfl

end Coordinates

namespace Condition

structure Agrees (c : Condition) (v : Verdict) (generation : Int) : Prop where
  status : c.status = v.status
  reason : c.reason = v.reason
  message : c.message = v.message
  observed : c.observedGeneration = generation

/-- What becomes of the condition of a type, if there is one, by a verdict on it. -/
def told (v : Verdict) (generation : Int) (now : Instant) : Option Condition → Condition
  | some c => c.update v generation now
  | none => ofVerdict v generation now

variable {v : Verdict} {generation : Int} {now : Instant}

theorem told_agrees (c : Option Condition) : (told v generation now c).Agrees v generation := by
  cases c <;> exact ⟨rfl, rfl, rfl, rfl⟩

/-- A condition that keeps its status keeps its time. -/
theorem told_time {c : Condition} (same : c.status = v.status) :
    (told v generation now (some c)).lastTransitionTime = c.lastTransitionTime :=
  if_pos same

theorem told_time_cases (c : Option Condition) :
    (told v generation now c).lastTransitionTime = now ∨
      ∃ old, c = some old ∧ (told v generation now c).lastTransitionTime = old.lastTransitionTime := by
  cases c with
  | none => exact .inl rfl
  | some old =>
    by_cases same : old.status = v.status
    · exact .inr ⟨old, rfl, told_time same⟩
    · exact .inl (if_neg same)

theorem find?_record_eq (v : Verdict) (generation : Int) (now : Instant) (type : String)
    (conditions : List Condition) :
    (record v generation now conditions).find? (·.type = type) =
      if v.type = type then some (told v generation now (conditions.find? (·.type = type)))
      else conditions.find? (·.type = type) := by
  induction conditions with
  | nil => by_cases same : v.type = type <;> simp [record, told, ofVerdict, same]
  | cons c rest ih =>
    unfold record
    by_cases mine : c.type = v.type
    · rw [if_pos mine]
      by_cases same : v.type = type <;> simp [update, told, mine, same]
    · rw [if_neg mine]
      by_cases same : c.type = type
      · have other : v.type ≠ type := fun h => mine (same.trans h.symm)
        simp [same, other]
      · simpa [same] using ih

/-- A verdict that a condition agrees with changes nothing. -/
theorem record_of_agrees (now : Instant) {conditions : List Condition} {c : Condition}
    (found : conditions.find? (·.type = v.type) = some c) (agrees : c.Agrees v generation) :
    record v generation now conditions = conditions := by
  induction conditions with
  | nil => cases found
  | cons d rest ih =>
    unfold record
    by_cases mine : d.type = v.type
    · rw [if_pos mine]
      rw [List.find?_cons_of_pos (by simpa using mine)] at found
      cases found
      rcases c with ⟨type, status, reason, message, observed, time⟩
      obtain ⟨rfl, rfl, rfl, rfl⟩ := agrees
      simp [update]
    · rw [if_neg mine]
      rw [List.find?_cons_of_neg (by simpa using mine)] at found
      rw [ih found]

/-- A verdict adds at most its own type to those that are there. -/
theorem record_types (v : Verdict) (generation : Int) (now : Instant) (conditions : List Condition) :
    (record v generation now conditions).map (·.type) =
      if v.type ∈ conditions.map (·.type) then conditions.map (·.type)
      else conditions.map (·.type) ++ [v.type] := by
  induction conditions with
  | nil => simp [record, ofVerdict]
  | cons c rest ih =>
    unfold record
    by_cases mine : c.type = v.type
    · simp [update, mine]
    · have other : v.type ≠ c.type := Ne.symm mine
      rw [if_neg mine, List.map_cons, ih]
      by_cases there : v.type ∈ rest.map (·.type) <;> simp [there, other]

end Condition

namespace Object

theorem record_condition? (o : Object) (v : Verdict) (now : Instant) (type : String) :
    (o.record v now).condition? type =
      if v.type = type then
        some (Condition.told v o.metadata.generationValue now (o.condition? type))
      else o.condition? type := by
  have before : o.conditions = (o.status.getD Status.empty).conditions := by
    rcases o with ⟨m, s, _ | status⟩ <;> rfl
  rw [condition?, condition?, before]
  exact Condition.find?_record_eq v _ now type _

@[simp] theorem withKonnect_conditions (o : Object) (f : Coordinates → Coordinates) :
    (o.withKonnect f).conditions = o.conditions := by
  rcases o with ⟨m, s, _ | status⟩ <;> rfl

@[simp] theorem withKonnect_condition? (o : Object) (f : Coordinates → Coordinates) (type : String) :
    (o.withKonnect f).condition? type = o.condition? type := by
  rw [condition?, condition?, withKonnect_conditions]

def Distinct (o : Object) : Prop := (o.conditions.map (·.type)).Nodup

instance (o : Object) : Decidable o.Distinct := inferInstanceAs (Decidable (List.Nodup _))

theorem condition?_congr {a b : Object} (status : a.status = b.status) (type : String) :
    a.condition? type = b.condition? type := by
  rw [condition?, condition?, conditions, conditions, status]

theorem Distinct.congr {a b : Object} (status : a.status = b.status) (h : a.Distinct) : b.Distinct := by
  rwa [Distinct, conditions, ← status]

theorem Distinct.record {o : Object} (h : o.Distinct) (v : Verdict) (now : Instant) :
    (o.record v now).Distinct := by
  have before : o.conditions = (o.status.getD Status.empty).conditions := by
    rcases o with ⟨m, s, _ | status⟩ <;> rfl
  unfold Distinct at h
  rw [before] at h
  change ((Condition.record v _ now _).map (·.type)).Nodup
  rw [Condition.record_types]
  split_ifs with there
  · exact h
  · exact List.nodup_append.mpr ⟨h, List.nodup_singleton _, fun a ha b hb => by
      rw [List.mem_singleton.mp hb]
      exact fun same => there (same ▸ ha)⟩

theorem Distinct.condition? {o : Object} (h : o.Distinct) {c : Condition} (hc : c ∈ o.conditions) :
    o.condition? c.type = some c := by
  unfold Distinct at h
  unfold Object.condition?
  generalize o.conditions = conditions at h hc
  induction conditions with
  | nil => cases hc
  | cons d rest ih =>
    rw [List.map_cons, List.nodup_cons] at h
    rcases List.mem_cons.mp hc with rfl | hc
    · exact List.find?_cons_of_pos (by simp)
    · have other : d.type ≠ c.type := fun same => h.1 (same ▸ List.mem_map_of_mem hc)
      rw [List.find?_cons_of_neg (by simpa using other)]
      exact ih h.2 hc

end Object

/-- A step of what a pass does to the object at hand. -/
inductive Edit where
  | note (v : Verdict)
  | coordinate (f : Field) (value : String)
  | binding (r : Option ResolvedBinding)

inductive Slot where
  | condition (type : String)
  | coordinate (f : Field)
  deriving DecidableEq

namespace Edit

/-- What a binding applies is not part of the status. -/
def slot? : Edit → Option Slot
  | note v => some (.condition v.type)
  | coordinate f _ => some (.coordinate f)
  | binding _ => none

def apply (t : Instant) (o : Object) : Edit → Object
  | note v => o.record v t
  | coordinate f value => o.withKonnect (·.set f value)
  | binding r => o.withResolved r

/-- What the edit says is what the status of the object says. -/
def Settled (o : Object) : Edit → Prop
  | note v => ∃ c, o.condition? v.type = some c ∧ c.Agrees v o.metadata.generationValue
  | coordinate f value => o.status.isSome ∧ o.konnect.get f = value
  | binding _ => True

variable {t : Instant} {o : Object} {e d : Edit}

@[simp] theorem apply_metadata (t : Instant) (o : Object) (e : Edit) :
    (e.apply t o).metadata = o.metadata := by
  cases e <;> rfl

theorem settled_apply (t : Instant) (o : Object) (e : Edit) : e.Settled (e.apply t o) := by
  cases e with
  | note v => exact ⟨_, (o.record_condition? v t v.type).trans (if_pos rfl), Condition.told_agrees _⟩
  | coordinate f value =>
    refine ⟨rfl, ?_⟩
    rw [apply, Object.withKonnect_konnect, Coordinates.get_set, if_pos rfl]
  | binding r => trivial

theorem apply_condition? {type : String} (other : e.slot? ≠ some (.condition type)) (t : Instant)
    (o : Object) : (e.apply t o).condition? type = o.condition? type := by
  cases e with
  | note v =>
    have different : v.type ≠ type := fun same => other (by rw [slot?, same])
    exact (o.record_condition? v t type).trans (if_neg different)
  | coordinate f value => exact o.withKonnect_condition? _ type
  | binding r => rfl

theorem Settled.apply (h : e.Settled o) (t : Instant) (other : ∀ s ∈ e.slot?, d.slot? ≠ some s) :
    e.Settled (d.apply t o) := by
  cases e with
  | note v =>
    obtain ⟨c, found, agrees⟩ := h
    refine ⟨c, (apply_condition? (other _ rfl) t o).trans found, ?_⟩
    rwa [apply_metadata]
  | coordinate f value =>
    obtain ⟨there, known⟩ := h
    cases d with
    | note v => exact ⟨rfl, (congrArg (·.get f) (o.record_konnect v t)).trans known⟩
    | coordinate g value' =>
      have different : g ≠ f := fun same => other _ rfl (by simp [slot?, same])
      refine ⟨rfl, ?_⟩
      rw [Edit.apply, Object.withKonnect_konnect, Coordinates.get_set, if_neg different, known]
    | binding => exact ⟨there, known⟩
  | binding => trivial

/-- What is settled does not change the status. -/
theorem Settled.status (h : e.Settled o) (t : Instant) : (e.apply t o).status = o.status := by
  cases e with
  | note v =>
    obtain ⟨c, found, agrees⟩ := h
    rcases o with ⟨m, s, _ | status⟩
    · cases found
    · have same := Condition.record_of_agrees t found agrees
      exact congrArg (fun cs => some { status with conditions := cs }) same
  | coordinate f value =>
    obtain ⟨there, known⟩ := h
    rcases o with ⟨m, s, _ | status⟩
    · cases there
    · subst known
      exact congrArg (fun k => some { status with konnect := k }) (Coordinates.set_get f _)
  | binding r => rfl

theorem Settled.congr {a b : Object} (h : e.Settled a) (status : a.status = b.status)
    (generation : a.metadata.generationValue = b.metadata.generationValue) : e.Settled b := by
  have conditions : a.conditions = b.conditions := by rw [Object.conditions, status, Object.conditions]
  cases e with
  | note v =>
    obtain ⟨c, found, agrees⟩ := h
    refine ⟨c, ?_, generation ▸ agrees⟩
    rwa [Object.condition?, ← conditions]
  | coordinate f value =>
    refine ⟨status ▸ h.1, ?_⟩
    rw [← h.2, Object.konnect, Object.konnect, status]
  | binding r => trivial

theorem apply_status_congr {a b : Object} (t : Instant) (e : Edit) (status : a.status = b.status)
    (generation : a.metadata.generationValue = b.metadata.generationValue) :
    (e.apply t a).status = (e.apply t b).status := by
  cases e with
  | note v => simp only [apply, Object.record, status, generation]
  | coordinate f value => simp only [apply, Object.withKonnect, status]
  | binding r => exact status

end Edit

namespace Object

variable {o : Object} {t : Instant} {es ds : List Edit}

def edited (o : Object) (t : Instant) (es : List Edit) : Object := es.foldl (Edit.apply t) o

@[simp] theorem edited_nil (o : Object) (t : Instant) : o.edited t [] = o := rfl

@[simp] theorem edited_cons (o : Object) (t : Instant) (e : Edit) (es : List Edit) :
    o.edited t (e :: es) = (e.apply t o).edited t es := rfl

theorem edited_append (o : Object) (t : Instant) (es ds : List Edit) :
    o.edited t (es ++ ds) = (o.edited t es).edited t ds :=
  List.foldl_append

@[simp] theorem edited_metadata (o : Object) (t : Instant) (es : List Edit) :
    (o.edited t es).metadata = o.metadata := by
  induction es generalizing o with
  | nil => rfl
  | cons e es ih => rw [edited_cons, ih, Edit.apply_metadata]

theorem edited_isSome (there : o.status.isSome) (t : Instant) (es : List Edit) :
    (o.edited t es).status.isSome := by
  induction es generalizing o with
  | nil => exact there
  | cons e es ih =>
    refine ih ?_
    cases e with
    | note | coordinate => rfl
    | binding => exact there

theorem edited_status_congr {a b : Object} (status : a.status = b.status)
    (generation : a.metadata.generationValue = b.metadata.generationValue) (t : Instant)
    (es : List Edit) : (a.edited t es).status = (b.edited t es).status := by
  induction es generalizing a b with
  | nil => exact status
  | cons e es ih =>
    refine ih (e.apply_status_congr t status generation) ?_
    rw [Edit.apply_metadata, Edit.apply_metadata, generation]

def slots (es : List Edit) : List Slot := es.filterMap Edit.slot?

theorem slots_cons (e : Edit) (es : List Edit) : slots (e :: es) = e.slot?.toList ++ slots es := by
  cases h : e.slot? with
  | none => exact List.filterMap_cons_none h
  | some s => exact List.filterMap_cons_some h

theorem not_mem_slots_of_once {e : Edit} {s : Slot} (here : e.slot? = some s)
    (once : (slots (e :: es)).count s ≤ 1) : s ∉ slots es := by
  rw [slots_cons, here, Option.toList_some, List.singleton_append, List.count_cons_self] at once
  exact List.count_eq_zero.mp (by omega)

theorem count_slots_le_cons (s : Slot) (e : Edit) (es : List Edit) :
    (slots es).count s ≤ (slots (e :: es)).count s := by
  rw [slots_cons, List.count_append]
  exact Nat.le_add_left _ _

@[simp] theorem slots_append (es ds : List Edit) : slots (es ++ ds) = slots es ++ slots ds :=
  List.filterMap_append

end Object

namespace Edit

open Object

variable {o : Object} {t : Instant} {e : Edit} {es : List Edit}

theorem Settled.edited (h : e.Settled o) (t : Instant) (es : List Edit)
    (other : ∀ s ∈ e.slot?, s ∉ slots es) : e.Settled (o.edited t es) := by
  induction es generalizing o with
  | nil => exact h
  | cons d es ih =>
    rw [slots_cons] at other
    refine ih (h.apply t fun s hs same => other s hs ?_) fun s hs there => other s hs ?_
    · simp [same]
    · exact List.mem_append_right _ there

/-- What a script edits at most once is what it says in the end. -/
theorem settled_edited (o : Object) (t : Instant) (once : ∀ s ∈ e.slot?, (slots es).count s ≤ 1)
    (he : e ∈ es) : e.Settled (o.edited t es) := by
  induction es generalizing o with
  | nil => cases he
  | cons d es ih =>
    rcases List.mem_cons.mp he with rfl | he
    · exact (settled_apply t o e).edited t es fun s hs => not_mem_slots_of_once hs (once s hs)
    · exact ih _ (fun s hs => Nat.le_trans (count_slots_le_cons s d es) (once s hs)) he

end Edit

namespace Object

variable {o : Object} {t : Instant} {es : List Edit}

theorem edited_of_settled (settled : ∀ e ∈ es, e.Settled o) (t : Instant) :
    (o.edited t es).status = o.status := by
  induction es generalizing o with
  | nil => rfl
  | cons e es ih =>
    have status := (settled e List.mem_cons_self).status t
    rw [edited_cons, ih fun d hd => ?_, status]
    refine (settled d (List.mem_cons_of_mem e hd)).congr status.symm ?_
    rw [Edit.apply_metadata]

/-- What a script came to stays as it is when the script is run over it again. -/
theorem edited_again {x : Object} (once : ∀ s, (slots es).count s ≤ 1)
    (status : x.status = (o.edited t es).status)
    (generation : x.metadata.generationValue = o.metadata.generationValue) (u : Instant) :
    (x.edited u es).status = x.status := by
  refine edited_of_settled (fun e he => ?_) u
  refine (Edit.settled_edited o t (fun s _ => once s) he).congr status.symm ?_
  rw [edited_metadata, generation]

theorem edited_condition? {type : String} (other : .condition type ∉ slots es) (o : Object) (t : Instant) :
    (o.edited t es).condition? type = o.condition? type := by
  induction es generalizing o with
  | nil => rfl
  | cons e es ih =>
    rw [slots_cons, List.mem_append, not_or] at other
    rw [edited_cons, ih other.2]
    exact Edit.apply_condition? (fun same => other.1 (by simp [same])) t o

theorem edited_get {f : Field} (other : .coordinate f ∉ slots es) (o : Object) (t : Instant) :
    (o.edited t es).konnect.get f = o.konnect.get f := by
  induction es generalizing o with
  | nil => rfl
  | cons e es ih =>
    rw [slots_cons, List.mem_append, not_or] at other
    rw [edited_cons, ih other.2]
    cases e with
    | note v => exact congrArg (·.get f) (o.record_konnect v t)
    | coordinate g value =>
      have different : g ≠ f := fun same => other.1 (by simp [Edit.slot?, same])
      rw [Edit.apply, withKonnect_konnect, Coordinates.get_set, if_neg different]
    | binding r => rfl

/-- A coordinate that a script sets does not depend on the object. -/
theorem edited_get_congr {f : Field} (set : .coordinate f ∈ slots es) (a b : Object) (t u : Instant) :
    (a.edited t es).konnect.get f = (b.edited u es).konnect.get f := by
  induction es generalizing a b with
  | nil => cases set
  | cons e es ih =>
    rw [edited_cons, edited_cons]
    by_cases again : .coordinate f ∈ slots es
    · exact ih again _ _
    · rw [edited_get again, edited_get again]
      rw [slots_cons, List.mem_append] at set
      have here : e.slot? = some (.coordinate f) := by simpa using set.resolve_right again
      cases e with
      | coordinate g value =>
        cases here
        rw [Edit.apply, Edit.apply, withKonnect_konnect, withKonnect_konnect, Coordinates.get_set,
          Coordinates.get_set, if_pos rfl, if_pos rfl]
      | note | binding => cases here

@[simp] theorem edited_spec_stored (o : Object) (t : Instant) (es : List Edit) :
    (o.edited t es).spec.stored = o.spec.stored := by
  induction es generalizing o with
  | nil => rfl
  | cons e es ih =>
    rw [edited_cons, ih]
    cases e with
    | note | coordinate => rfl
    | binding r => exact o.spec.withResolved_withResolved r none

theorem edited_spec_congr {a b : Object} (same : a.spec = b.spec) (t u : Instant) (es : List Edit) :
    (a.edited t es).spec = (b.edited u es).spec := by
  induction es generalizing a b with
  | nil => exact same
  | cons e es ih =>
    refine ih ?_
    cases e with
    | note | coordinate => exact same
    | binding r => exact congrArg (Spec.withResolved r) same

/-- What a binding applies does not depend on what it applied before, once the script says it. -/
theorem edited_spec_of_binding {r : Option ResolvedBinding} (bound : .binding r ∈ es) {a b : Object}
    (same : b.spec.stored = a.spec.stored) (t u : Instant) :
    (b.edited u es).spec = (a.edited t es).spec := by
  induction es generalizing a b with
  | nil => cases bound
  | cons e es ih =>
    rcases List.mem_cons.mp bound with rfl | bound
    · refine edited_spec_congr ?_ u t es
      have whole (s : Spec) : s.stored.withResolved r = s.withResolved r := s.withResolved_withResolved none r
      exact (whole b.spec).symm.trans ((congrArg (Spec.withResolved r) same).trans (whole a.spec))
    · refine ih bound ?_
      have kept (x : Object) (t : Instant) : (e.apply t x).spec.stored = x.spec.stored :=
        x.edited_spec_stored t [e]
      rw [kept, kept, same]

@[simp] theorem edited_kind (o : Object) (t : Instant) (es : List Edit) :
    (o.edited t es).kind = o.kind := by
  rw [kind, ← Spec.stored_kind, edited_spec_stored, Spec.stored_kind, kind]

@[simp] theorem edited_key (o : Object) (t : Instant) (es : List Edit) : (o.edited t es).key = o.key := by
  simp only [key, edited_kind, edited_metadata]

/-- A condition that a script notes at most once keeps its time if it keeps its status. -/
theorem edited_time {type : String} {c d : Condition} (once : (slots es).count (.condition type) ≤ 1)
    (before : o.condition? type = some c) (after : (o.edited t es).condition? type = some d)
    (same : d.status = c.status) : d.lastTransitionTime = c.lastTransitionTime := by
  induction es generalizing o with
  | nil => rw [Option.some.inj (before.symm.trans after)]
  | cons e es ih =>
    by_cases mine : e.slot? = some (.condition type)
    · have other := not_mem_slots_of_once mine once
      cases e with
      | note v =>
        cases mine
        rw [edited_cons, edited_condition? other, Edit.apply, record_condition?, if_pos rfl,
          before] at after
        cases after
        exact Condition.told_time same.symm
      | coordinate | binding => cases mine
    · exact ih (Nat.le_trans (count_slots_le_cons _ e es) once)
        ((Edit.apply_condition? mine t o).trans before) after

/-- Whatever a script notes, a condition has the time that it had or that of the script. -/
theorem edited_time_cases {type : String} {d : Condition}
    (after : (o.edited t es).condition? type = some d) :
    d.lastTransitionTime = t ∨
      ∃ c, o.condition? type = some c ∧ d.lastTransitionTime = c.lastTransitionTime := by
  induction es generalizing o with
  | nil => exact .inr ⟨d, after, rfl⟩
  | cons e es ih =>
    rcases ih after with now | ⟨c, found, time⟩
    · exact .inl now
    · by_cases mine : e.slot? = some (.condition type)
      · cases e with
        | note v =>
          cases mine
          rw [Edit.apply, record_condition?, if_pos rfl] at found
          cases found
          rcases Condition.told_time_cases (o.condition? v.type) with now | ⟨old, there, kept⟩
          · exact .inl (time.trans now)
          · exact .inr ⟨old, there, time.trans kept⟩
        | coordinate | binding => cases mine
      · exact .inr ⟨c, (Edit.apply_condition? mine t o).symm.trans found, time⟩

/-- A condition that is noted once more at the end keeps its time with its status, or the last verdict is
what moved it. -/
theorem edited_time_of_noted {type : String} {c d : Condition} {v : Verdict}
    (once : (slots es).count (.condition type) ≤ 1) (before : o.condition? type = some c)
    (after : (o.edited t (es ++ [.note v])).condition? type = some d) (same : d.status = c.status) :
    d.lastTransitionTime = c.lastTransitionTime ∨
      d.Agrees v o.metadata.generationValue ∧ d.lastTransitionTime = t := by
  have last : ((o.edited t es).record v t).condition? type = some d := by
    rwa [edited_append] at after
  by_cases mine : v.type = type
  · rcases edited_time_cases after with now | ⟨old, there, kept⟩
    · rw [record_condition?, if_pos mine, edited_metadata] at last
      cases last
      exact .inr ⟨Condition.told_agrees _, now⟩
    · cases before.symm.trans there
      exact .inl kept
  · rw [record_condition?, if_neg mine] at last
    exact .inl (edited_time once before last same)

theorem Distinct.edited (h : o.Distinct) (t : Instant) (es : List Edit) : (o.edited t es).Distinct := by
  induction es generalizing o with
  | nil => exact h
  | cons e es ih =>
    refine ih ?_
    cases e with
    | note v => exact h.record v t
    | coordinate f value =>
      have same : (o.withKonnect (·.set f value)).conditions = o.conditions := o.withKonnect_conditions _
      rw [Edit.apply, Distinct, same]
      exact h
    | binding r => exact h

end Object

end GatewaySync
