import GatewaySync.Resource.Object
/-!
# Conditions of an object

At most one condition of each type is kept up to date. The time of a condition only moves when its
status changes; the generation it was observed at moves with every update.
-/
namespace GatewaySync

namespace ConditionType

def programmed : String := "Programmed"
def controlPlaneRefValid : String := "ControlPlaneRefValid"
def keySetRefValid : String := "KeySetRefValid"
def consumerRefValid : String := "KongConsumerRefValid"
def serviceRefValid : String := "KongServiceRefValid"
def routeRefValid : String := "KongRouteRefValid"
def pluginRefValid : String := "KongPluginRefValid"

end ConditionType

namespace Reason

def programmed : String := "Programmed"
def failedToCreate : String := "FailedToCreate"
def failedToUpdate : String := "FailedToUpdate"
def missingControlPlaneId : String := "MissingControlPlaneID"
def valid : String := "Valid"
def invalid : String := "Invalid"
def notFound : String := "NotFound"
def notReady : String := "NotReady"
def beingDeleted : String := "BeingDeleted"
def controlPlaneMismatch : String := "ControlPlaneMismatch"

end Reason

structure Verdict where
  type : String
  status : ConditionStatus
  reason : String
  message : String
  deriving DecidableEq, Repr

def Verdict.valid (type : String) : Verdict := ⟨type, .true, Reason.valid, ""⟩

namespace Condition

def ofVerdict (v : Verdict) (generation : Int) (now : Instant) : Condition :=
  ⟨v.type, v.status, v.reason, v.message, generation, now⟩

def update (c : Condition) (v : Verdict) (generation : Int) (now : Instant) : Condition :=
  { c with
    status := v.status
    reason := v.reason
    message := v.message
    observedGeneration := generation
    lastTransitionTime := if c.status = v.status then c.lastTransitionTime else now }

/-- Updates the first condition of the type, or appends one. -/
def record (v : Verdict) (generation : Int) (now : Instant) : List Condition → List Condition
  | [] => [ofVerdict v generation now]
  | c :: rest =>
    if c.type = v.type then c.update v generation now :: rest
    else c :: record v generation now rest

/-- A verdict decides the first condition of its type and no condition of another one. -/
theorem find?_record (v : Verdict) (generation : Int) (now : Instant) (type : String)
    (conditions : List Condition) :
    ((record v generation now conditions).find? (·.type = type)).map (·.status) =
      if v.type = type then some v.status
      else (conditions.find? (·.type = type)).map (·.status) := by
  induction conditions with
  | nil => by_cases same : v.type = type <;> simp [record, ofVerdict, same]
  | cons c rest ih =>
    unfold record
    by_cases mine : c.type = v.type
    · rw [if_pos mine]
      by_cases same : v.type = type <;> simp [update, mine, same]
    · rw [if_neg mine]
      by_cases same : c.type = type
      · have other : v.type ≠ type := fun h => mine (same.trans h.symm)
        simp [same, other]
      · simpa [same] using ih

end Condition

namespace Object

/-- Records a verdict at the current generation. -/
def record (o : Object) (v : Verdict) (now : Instant) : Object :=
  let status := o.status.getD Status.empty
  { o with
    status := some { status with
      conditions := Condition.record v o.metadata.generationValue now status.conditions } }

@[simp] theorem record_konnect (o : Object) (v : Verdict) (now : Instant) :
    (o.record v now).konnect = o.konnect := by
  rcases o with ⟨m, s, _ | status⟩ <;> rfl

def condition? (o : Object) (type : String) : Option Condition :=
  o.conditions.find? (·.type = type)

def verdict? (o : Object) (type : String) : Option ConditionStatus :=
  (o.condition? type).map (·.status)

@[simp] theorem record_verdict? (o : Object) (v : Verdict) (now : Instant) (type : String) :
    (o.record v now).verdict? type = if v.type = type then some v.status else o.verdict? type := by
  have before : o.conditions = (o.status.getD Status.empty).conditions := by
    rcases o with ⟨m, s, _ | status⟩ <;> rfl
  rw [verdict?, verdict?, condition?, condition?, before]
  exact Condition.find?_record v _ now type _

@[simp] theorem withKonnect_verdict? (o : Object) (f : Coordinates → Coordinates) (type : String) :
    (o.withKonnect f).verdict? type = o.verdict? type := by
  rcases o with ⟨m, s, _ | status⟩ <;> rfl

/-- The object is programmed as it stands: a positive verdict at its own generation. -/
def isProgrammed (o : Object) : Bool :=
  match o.condition? ConditionType.programmed with
  | some c => c.status = .true && c.observedGeneration = o.metadata.generationValue
  | none => false

theorem isProgrammed_iff {o : Object} :
    o.isProgrammed ↔ ∃ c, o.condition? ConditionType.programmed = some c ∧ c.status = .true ∧
      c.observedGeneration = o.metadata.generationValue := by
  unfold isProgrammed
  cases o.condition? ConditionType.programmed <;> simp

theorem verdict?_of_isProgrammed {o : Object} (h : o.isProgrammed) :
    o.verdict? ConditionType.programmed = some .true := by
  obtain ⟨c, found, status, -⟩ := isProgrammed_iff.mp h
  rw [verdict?, found, Option.map_some, status]

def recordProgrammed (o : Object) (now : Instant) : Object :=
  o.record ⟨ConditionType.programmed, .true, Reason.programmed, ""⟩ now

end Object

end GatewaySync
