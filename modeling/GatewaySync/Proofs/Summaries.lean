import GatewaySync.Proofs.Edits
/-!
# What conditions tell of the past

An object in memory has verdicts recorded on it and its generation changed, in any order. Its conditions
are then a summary of that: one for each type that was ever there, with what was said of it last, at which
generation, and since when the status is what it is.
-/
namespace GatewaySync

/-- A change of an object in memory that its conditions are about. -/
inductive Update where
  | record (v : Verdict) (now : Instant)
  | recordProgrammed (now : Instant)
  | observe (generation : Option Int)

namespace Update

def apply (o : Object) : Update → Object
  | record v now => o.record v now
  | recordProgrammed now => o.recordProgrammed now
  | observe generation => { o with metadata := { o.metadata with generation } }

def said? : Update → Option (Verdict × Instant)
  | record v now => some (v, now)
  | recordProgrammed now => some (⟨ConditionType.programmed, .true, Reason.programmed, ""⟩, now)
  | observe _ => none

def types (us : List Update) : List String := us.filterMap fun u => u.said?.map (·.1.type)

def generationAfter : Option Int → List Update → Option Int
  | generation, [] => generation
  | _, observe generation :: us => generationAfter generation us
  | generation, _ :: us => generationAfter generation us

variable {o : Object} {u : Update} {us : List Update} {v : Verdict} {now : Instant} {type : String}

theorem apply_of_said (said : u.said? = some (v, now)) : u.apply o = o.record v now := by
  cases u <;> cases said <;> rfl

theorem apply_of_silent (silent : u.said? = none) : (u.apply o).status = o.status := by
  cases u <;> first | rfl | cases silent

theorem types_cons_of_said (said : u.said? = some (v, now)) : types (u :: us) = v.type :: types us := by
  simp [types, said]

theorem types_cons_of_silent (silent : u.said? = none) : types (u :: us) = types us := by
  simp [types, silent]

theorem exists_last (h : type ∈ types us) :
    ∃ before u since v now, us = before ++ u :: since ∧ u.said? = some (v, now) ∧ v.type = type ∧
      type ∉ types since := by
  induction us with
  | nil => simp [types] at h
  | cons u us ih =>
    by_cases later : type ∈ types us
    · obtain ⟨before, w, since, v, now, rfl, said⟩ := ih later
      exact ⟨u :: before, w, since, v, now, rfl, said⟩
    · cases said : u.said? with
      | none => exact absurd (types_cons_of_silent said ▸ h) later
      | some s =>
        rw [types_cons_of_said said, List.mem_cons] at h
        exact ⟨[], u, us, s.1, s.2, rfl, said, (h.resolve_right later).symm, later⟩

end Update

namespace Object

open Update

def updated (o : Object) (us : List Update) : Object := us.foldl Update.apply o

/-- Every verdict on the type finds its status there already. -/
def Steady (type : String) : Object → List Update → Prop
  | _, [] => True
  | o, u :: us =>
    (∀ v now, u.said? = some (v, now) → v.type = type → o.verdict? type = some v.status) ∧
      Steady type (u.apply o) us

/-- The status of a type turned at the given time, or was there from then on, and did not turn again. -/
def TurnedAt (type : String) (o : Object) (us : List Update) (time : Instant) : Prop :=
  ∃ before u since v, us = before ++ u :: since ∧ u.said? = some (v, time) ∧ v.type = type ∧
    (o.updated before).verdict? type ≠ some v.status ∧ Steady type (o.updated (before ++ [u])) since

variable {o : Object} {u : Update} {us : List Update} {v : Verdict} {now : Instant} {type : String}

@[simp] theorem updated_nil (o : Object) : o.updated [] = o := rfl

@[simp] theorem updated_cons (o : Object) (u : Update) (us : List Update) :
    o.updated (u :: us) = (u.apply o).updated us := rfl

theorem updated_append (o : Object) (us more : List Update) :
    o.updated (us ++ more) = (o.updated us).updated more := List.foldl_append

theorem updated_generation (o : Object) (us : List Update) :
    (o.updated us).metadata.generation = generationAfter o.metadata.generation us := by
  induction us generalizing o with
  | nil => rfl
  | cons u us ih => cases u <;> exact ih _

theorem record_conditions (o : Object) (v : Verdict) (now : Instant) :
    (o.record v now).conditions = Condition.record v o.metadata.generationValue now o.conditions := by
  rcases o with ⟨m, s, _ | status⟩ <;> rfl

theorem conditions_of_silent (silent : u.said? = none) : (u.apply o).conditions = o.conditions := by
  rw [conditions, conditions, apply_of_silent silent]

theorem condition?_apply (other : ∀ s ∈ u.said?, s.1.type ≠ type) :
    (u.apply o).condition? type = o.condition? type := by
  cases said : u.said? with
  | none => exact condition?_congr (apply_of_silent said) type
  | some s => rw [apply_of_said said, record_condition?, if_neg (other s said)]

theorem Distinct.apply (h : o.Distinct) (u : Update) : (u.apply o).Distinct := by
  cases said : u.said? with
  | none => exact h.congr (apply_of_silent said).symm
  | some s =>
    rw [apply_of_said said]
    exact h.record s.1 s.2

theorem Distinct.updated (h : o.Distinct) (us : List Update) : (o.updated us).Distinct := by
  induction us generalizing o with
  | nil => exact h
  | cons u us ih => exact ih (h.apply u)

theorem condition?_updated (never : type ∉ types us) : (o.updated us).condition? type = o.condition? type := by
  induction us generalizing o with
  | nil => rfl
  | cons u us ih =>
    cases said : u.said? with
    | none =>
      rw [types_cons_of_silent said] at never
      exact (ih never).trans (condition?_apply (by simp [said]))
    | some s =>
      rw [types_cons_of_said said, List.mem_cons, not_or] at never
      exact (ih never.2).trans (condition?_apply (by simpa [said] using Ne.symm never.1))

/-- What is said last of a type is what its condition says, as of the generation at that time. -/
theorem told_last {before since : List Update} (split : us = before ++ u :: since)
    (said : u.said? = some (v, now)) (last : v.type ∉ types since) :
    ∃ c, (o.updated us).condition? v.type = some c ∧
      c.Agrees v ((generationAfter o.metadata.generation before).getD 0) := by
  rw [split, updated_append, updated_cons, condition?_updated last, apply_of_said said, record_condition?,
    if_pos rfl]
  refine ⟨_, rfl, ?_⟩
  rw [← updated_generation]
  exact Condition.told_agrees _

/-- New types come after those that are there, in the order of their first use. -/
theorem types_updated (o : Object) (us : List Update) :
    ∃ added, (o.updated us).conditions.map (·.type) = o.conditions.map (·.type) ++ added ∧
      (∀ type, type ∈ added ↔ type ∈ types us ∧ type ∉ o.conditions.map (·.type)) ∧
      added.Pairwise fun a b => (types us).idxOf a < (types us).idxOf b := by
  induction us generalizing o with
  | nil => exact ⟨[], by simp, by simp [types], .nil⟩
  | cons u us ih =>
    obtain ⟨added, there, members, order⟩ := ih (u.apply o)
    cases said : u.said? with
    | none =>
      rw [conditions_of_silent said] at there members
      rw [types_cons_of_silent said]
      exact ⟨added, there, members, order⟩
    | some s =>
      rw [apply_of_said said, record_conditions, Condition.record_types] at members
      rw [updated_cons, there, apply_of_said said, record_conditions, Condition.record_types,
        types_cons_of_said said]
      have later : ∀ a ∈ added, a ≠ s.1.type := by
        rintro a ha rfl
        have := ((members _).mp ha).2
        split_ifs at this with known <;> simp_all
      have order : added.Pairwise fun a b =>
          (s.1.type :: types us).idxOf a < (s.1.type :: types us).idxOf b := by
        refine order.imp_of_mem fun ha hb less => ?_
        rw [List.idxOf_cons_ne _ (Ne.symm (later _ ha)), List.idxOf_cons_ne _ (Ne.symm (later _ hb))]
        omega
      split_ifs at members ⊢ with known
      · refine ⟨added, rfl, fun type => ?_, order⟩
        rw [members, List.mem_cons]
        constructor
        · exact fun h => ⟨.inr h.1, h.2⟩
        · rintro ⟨rfl | h, new⟩
          · exact absurd known new
          · exact ⟨h, new⟩
      · refine ⟨s.1.type :: added, by simp, fun type => ?_, List.pairwise_cons.mpr ⟨fun a ha => ?_, order⟩⟩
        · rw [List.mem_cons, List.mem_cons, members, List.mem_append, List.mem_singleton]
          by_cases this : type = s.1.type
          · simp [this, known]
          · simp [this]
        · rw [List.idxOf_cons_self, List.idxOf_cons_ne _ (Ne.symm (later a ha))]
          omega

/-- A condition has the time when its status turned last, or the one that it always had. -/
theorem time_updated (o : Object) (us : List Update) {type : String} {c : Condition}
    (found : (o.updated us).condition? type = some c) :
    o.TurnedAt type us c.lastTransitionTime ∨
      o.Steady type us ∧ ∃ first, o.condition? type = some first ∧
        c.lastTransitionTime = first.lastTransitionTime := by
  induction us generalizing o with
  | nil => exact .inr ⟨trivial, c, found, rfl⟩
  | cons u us ih =>
    rcases ih (u.apply o) found with ⟨before, w, since, v, rfl, said, mine, turned, steady⟩ |
      ⟨steady, first, there, kept⟩
    · exact .inl ⟨u :: before, w, since, v, rfl, said, mine, turned, steady⟩
    · by_cases other : ∀ s ∈ u.said?, s.1.type ≠ type
      · rw [condition?_apply other] at there
        refine .inr ⟨⟨fun v now said mine => ?_, steady⟩, first, there, kept⟩
        exact absurd mine (other (v, now) said)
      · simp only [Option.mem_def, not_forall, not_not] at other
        obtain ⟨⟨v, now⟩, said, mine⟩ := other
        rw [apply_of_said said, record_condition?, if_pos mine, Option.some.injEq] at there
        by_cases same : o.verdict? type = some v.status
        · obtain ⟨old, old_found, old_status⟩ := Option.map_eq_some_iff.mp same
          rw [old_found] at there
          have time : first.lastTransitionTime = old.lastTransitionTime := by
            rw [← there]
            exact Condition.told_time old_status
          refine .inr ⟨⟨fun v' now' said' _ => ?_, steady⟩, old, old_found, ?_⟩
          · rw [said, Option.some.injEq, Prod.mk.injEq] at said'
            rw [same, said'.1]
          · rw [kept, time]
        · have time : first.lastTransitionTime = now := by
            rw [← there]
            cases before : o.condition? type with
            | none => rfl
            | some old =>
              have turns : old.status ≠ v.status := fun kept => same (by simp [verdict?, before, kept])
              exact if_neg turns
          rw [kept, time]
          exact .inl ⟨[], u, us, v, rfl, said, mine, same, steady⟩

structure Summary (o : Object) (us : List Update) : Prop where
  distinct : (o.updated us).Distinct
  /-- The types that were there keep their order, and new ones follow in the order of their first use. -/
  types : ∃ added, (o.updated us).conditions.map (·.type) = o.conditions.map (·.type) ++ added ∧
    (∀ type, type ∈ added ↔ type ∈ Update.types us ∧ type ∉ o.conditions.map (·.type)) ∧
    added.Pairwise fun a b => (Update.types us).idxOf a < (Update.types us).idxOf b
  untouched : ∀ type ∉ Update.types us, (o.updated us).condition? type = o.condition? type
  /-- The last verdict on a type stands, as of the generation that it met. -/
  told : ∀ before u since v now, us = before ++ u :: since → u.said? = some (v, now) →
    v.type ∉ Update.types since → ∃ c, (o.updated us).condition? v.type = some c ∧
      c.Agrees v ((generationAfter o.metadata.generation before).getD 0)
  time : ∀ type c, (o.updated us).condition? type = some c → o.TurnedAt type us c.lastTransitionTime ∨
    o.Steady type us ∧ ∃ first, o.condition? type = some first ∧
      c.lastTransitionTime = first.lastTransitionTime
  programmed : (o.updated us).isProgrammed ↔
    (∃ before u since v now, us = before ++ u :: since ∧ u.said? = some (v, now) ∧
      v.type = ConditionType.programmed ∧ v.type ∉ Update.types since ∧ v.status = .true ∧
      (generationAfter o.metadata.generation before).getD 0 =
        (generationAfter o.metadata.generation us).getD 0) ∨
    ConditionType.programmed ∉ Update.types us ∧ ∃ c, o.condition? ConditionType.programmed = some c ∧
      c.status = .true ∧ c.observedGeneration = (generationAfter o.metadata.generation us).getD 0

/-- Whatever was recorded on an object whose conditions have distinct types, and however its generation
changed: each condition says what was said last of its type at the generation of then, and since when its
status is that. The object counts as programmed exactly if the last verdict says so at the present
generation, or the first condition does if there was none. -/
theorem conditions_summarise (o : Object) (h : o.Distinct) (us : List Update) : o.Summary us where
  distinct := h.updated us
  types := types_updated o us
  untouched _ never := condition?_updated never
  told _ _ _ _ _ split said last := told_last split said last
  time _ _ found := time_updated o us found
  programmed := by
    rw [isProgrammed_iff, Metadata.generationValue, updated_generation]
    constructor
    · rintro ⟨c, found, status, current⟩
      by_cases spoken : ConditionType.programmed ∈ Update.types us
      · obtain ⟨before, u, since, v, now, split, said, mine, last⟩ := exists_last spoken
        obtain ⟨d, found', agrees⟩ := told_last (o := o) split said (mine ▸ last)
        rw [mine, found, Option.some.injEq] at found'
        subst found'
        exact .inl ⟨before, u, since, v, now, split, said, mine, mine ▸ last, agrees.status ▸ status,
          agrees.observed ▸ current⟩
      · exact .inr ⟨spoken, c, condition?_updated spoken ▸ found, status, current⟩
    · rintro (⟨before, u, since, v, now, split, said, mine, last, positive, current⟩ | ⟨never, c, found, rest⟩)
      · obtain ⟨c, found, agrees⟩ := told_last (o := o) split said last
        exact ⟨c, mine ▸ found, agrees.status.trans positive, agrees.observed.trans current⟩
      · exact ⟨c, (condition?_updated never).trans found, rest⟩

section

def anchored : Object where
  metadata := { (default : Metadata) with generation := some 1 }
  spec := .keySet ⟨none, "keys", []⟩
  status := some ⟨Coordinates.none, [⟨ConditionType.controlPlaneRefValid, .true, Reason.valid, "", 1, ⟨5, 0⟩⟩]⟩

/-- It can not be created at first, and is programmed twice in its next generation. -/
def setback : List Update :=
  [.record ⟨ConditionType.programmed, .false, Reason.failedToCreate, "boom"⟩ ⟨10, 0⟩, .observe (some 2),
    .recordProgrammed ⟨20, 0⟩, .recordProgrammed ⟨30, 0⟩]

/-- It counts as programmed, by the last update and since the one before. -/
theorem anchored_summarised :
    anchored.Distinct ∧ (anchored.updated setback).isProgrammed ∧
      ∃ c, (anchored.updated setback).condition? ConditionType.programmed = some c ∧
        c.observedGeneration = 2 ∧ c.lastTransitionTime = ⟨20, 0⟩ := by
  have summary := conditions_summarise anchored (by decide) setback
  obtain ⟨c, found, agrees⟩ := summary.told (setback.take 3) _ [] _ _ rfl rfl (by decide)
  have programmed := summary.programmed.mpr
    (.inl ⟨setback.take 3, _, [], _, _, rfl, rfl, rfl, by decide, rfl, rfl⟩)
  refine ⟨by decide, programmed, c, found, agrees.observed, ?_⟩
  cases found
  rfl

end

end Object

end GatewaySync
