import GatewaySync.Proofs.DesiredStates
import GatewaySync.Proofs.Instants
import GatewaySync.Resource.Object
/-!
# Objects in JSON

An object that was read is written so that it is read again: with the same desired state and status, and with
metadata that are the same up to parts of seconds. Writing that object gives the same document, so nothing is
lost by writing back over and over.
-/
namespace GatewaySync

open Json

section Members

variable {α : Type} {name : String} {d : Decoder α} {members : List (String × Json)}

def Json.readMembers (d : Decoder α) (values : List Json) : Option (Option α) :=
  (values.foldlM (fun _ v => (Decoder.optional d v).map some) none).map Option.join

@[simp] theorem optionalMember_eq (name : String) (d : Decoder α) (members : List (String × Json)) :
    optionalMember name d members = readMembers d (valuesOf name members) := by
  rw [optionalMember, repeatedField, readMembers, valuesOf, List.foldlM_map]

theorem optionalMember_congr {members' : List (String × Json)}
    (same : valuesOf name members' = valuesOf name members) :
    optionalMember name d members' = optionalMember name d members := by
  rw [optionalMember_eq, optionalMember_eq, same]

@[simp] theorem Json.readMembers_singleton (d : Decoder α) (v : Json) :
    readMembers d [v] = Decoder.optional d v := by
  rw [readMembers, List.foldlM_cons]
  cases Decoder.optional d v <;> simp

@[simp] theorem Json.readMembers_toList (d : Decoder α) (v : Option Json) :
    readMembers d v.toList = readOption d v := by
  cases v with
  | none => rfl
  | some v => exact readMembers_singleton d v

theorem optionalMember_of_valuesOf {v : Json} (held : valuesOf name members = [v]) (set : v ≠ .null) {a : α}
    (read : d v = some a) : optionalMember name d members = some (some a) := by
  rw [optionalMember_eq, held, readMembers_singleton, optional_of_ne_null set, read]
  rfl

theorem Json.readMembers_eq_some {values : List Json} {x : Option α} (h : readMembers d values = some x) {a : α}
    (set : a ∈ x) : ∃ w, w ≠ .null ∧ d w = some a := by
  have folded : ∀ (values : List Json) (start : Option (Option α)) (y : Option (Option α)),
      (∀ b ∈ start.join, ∃ w, w ≠ .null ∧ d w = some b) →
        values.foldlM (fun _ v => (Decoder.optional d v).map some) start = some y →
          ∀ b ∈ y.join, ∃ w, w ≠ .null ∧ d w = some b := by
    intro values
    induction values with
    | nil =>
      rintro start y told ⟨⟩
      exact told
    | cons v rest ih =>
      intro start y told run
      rw [List.foldlM_cons] at run
      obtain ⟨next, first, run⟩ := Option.bind_eq_some_iff.mp run
      obtain ⟨z, read, rfl⟩ := Option.map_eq_some_iff.mp first
      refine ih (some z) y (fun b hb => ?_) run
      exact readOption_eq_some (v := some v) read hb
  obtain ⟨y, run, rfl⟩ := Option.map_eq_some_iff.mp h
  exact folded values none y (by simp) run a set

theorem optionalMember_eq_some {x : Option α} (h : optionalMember name d members = some x) {a : α}
    (set : a ∈ x) : ∃ w, w ≠ .null ∧ d w = some a := by
  rw [optionalMember_eq] at h
  exact readMembers_eq_some h set

end Members

theorem Instant.decode_str (s : String) : Instant.decode (.str s) = ofString? s := by
  rw [Instant.decode, string_str, Option.bind_some]

theorem Instant.decode_text {t : Instant} (h : t.Valid) : Instant.decode (.str t.text) = some t := by
  rw [decode_str, ofString?_text h]

theorem Instant.decode_wholeText {t : Instant} (h : t.Valid) :
    Instant.decode (.str t.wholeText) = some t.whole := by
  rw [decode_str, ofString?_wholeText h]

theorem Instant.valid_of_decode {v : Json} {t : Instant} (h : Instant.decode v = some t) : t.Valid := by
  obtain ⟨s, -, read⟩ := Option.bind_eq_some_iff.mp h
  exact valid_of_ofString? read

theorem Instant.readOption_whole {v : Option Instant} (valid : ∀ t ∈ v, t.Valid) :
    readOption Instant.decode (v.map fun t => .str t.wholeText) = some (v.map Instant.whole) :=
  readOption_map Instant.whole (fun t ht => decode_wholeText (valid t ht)) (by simp)

theorem OwnerReference.decode_encode (r : OwnerReference) : OwnerReference.decode r.encode = some r := by
  simp [OwnerReference.decode, OwnerReference.encode, object_eq, stringMember, Decoder.optional]

namespace ManagedFields

structure Fits (m : ManagedFields) : Prop where
  fields : ∀ v ∈ m.fields, v ≠ .null ∧ v.isReadable
  time : ∀ t ∈ m.time, t.Valid

theorem decode_encode {m : ManagedFields} (fits : m.Fits) : ManagedFields.decode m.encode = some m.stored := by
  have fields := readOption_document fits.fields
  have time := Instant.readOption_whole fits.time
  simp [ManagedFields.decode, ManagedFields.encode, object_eq, fields, time, stored]

theorem fits_of_decode {v : Json} {m : ManagedFields} (h : ManagedFields.decode v = some m) : m.Fits := by
  cases v with
  | obj members =>
    simp only [ManagedFields.decode, Option.bind_eq_bind, Option.bind_eq_some_iff, Option.some.injEq] at h
    obtain ⟨apiVersion, -, fieldsType, -, fields, free, manager, -, operation, -, subresource, -, time, read, rfl⟩ := h
    refine ⟨fun v hv => ?_, fun t ht => ?_⟩
    · obtain ⟨w, set, read⟩ := optionalMember_eq_some free hv
      obtain ⟨rfl, readable⟩ := document_eq_some read
      exact ⟨set, readable⟩
    · obtain ⟨w, -, read⟩ := optionalMember_eq_some read ht
      exact Instant.valid_of_decode read
  | _ => cases h

theorem encode_stored (m : ManagedFields) : m.stored.encode = m.encode := by
  cases time : m.time <;> simp [encode, stored, time, Instant.wholeText_whole, whenSet]

end ManagedFields

namespace Metadata

/-- What metadata can hold at all: numbers of 64 bits, times of the calendar and maps in order. -/
structure Fits (m : Metadata) : Prop where
  annotations : ∀ l ∈ m.annotations, InKeyOrder l
  created : ∀ t ∈ m.creationTimestamp, t.Valid
  grace : ∀ n ∈ m.deletionGracePeriodSeconds, isInt64 n
  deleted : ∀ t ∈ m.deletionTimestamp, t.Valid
  generation : ∀ n ∈ m.generation, isInt64 n
  labels : ∀ l ∈ m.labels, InKeyOrder l
  managedFields : ∀ l ∈ m.managedFields, ∀ entry ∈ l, entry.Fits

theorem readOption_textMap {v : Option (List (String × String))} (ordered : ∀ l ∈ v, InKeyOrder l) :
    readOption (Decoder.map Decoder.string) (v.map ofTextMap) = some v :=
  readOption_map_self (fun l hl => map_textMembers (ordered l hl)) (by simp [ofTextMap])

theorem decode_encode {m : Metadata} (fits : m.Fits) : Metadata.decode m.encode = some m.stored := by
  have annotations := readOption_textMap fits.annotations
  have labels := readOption_textMap fits.labels
  have created := Instant.readOption_whole fits.created
  have deleted := Instant.readOption_whole fits.deleted
  have grace := readOption_int fits.grace
  have generation := readOption_int fits.generation
  have finalizers : readOption (Decoder.list Decoder.string) (m.finalizers.map ofStrings) = some m.finalizers :=
    readOption_map_self (fun l _ => stringList_ofStrings l) (by simp [ofStrings])
  have owners : readOption (Decoder.list OwnerReference.decode)
      (m.ownerReferences.map fun refs => .arr (refs.map OwnerReference.encode)) = some m.ownerReferences :=
    readOption_map_self (fun l _ => list_map_self fun r _ => r.decode_encode) (by simp)
  have managed : readOption (Decoder.list ManagedFields.decode)
      (m.managedFields.map fun entries => .arr (entries.map ManagedFields.encode)) =
        some (m.managedFields.map (·.map ManagedFields.stored)) :=
    readOption_map (·.map ManagedFields.stored)
      (fun l hl => list_map _ fun entry mem => ManagedFields.decode_encode (fits.managedFields l hl entry mem)) (by simp)
  simp [Metadata.decode, Metadata.encode, object_eq, annotations, labels, created, deleted, grace, generation,
    finalizers, owners, managed, stored]

/-- The members of an object tell of every field of metadata. -/
structure ToldBy (members : List (String × Json)) (m : Metadata) : Prop where
  annotations : optionalMember "annotations" (Decoder.map Decoder.string) members = some m.annotations
  created : optionalMember "creationTimestamp" Instant.decode members = some m.creationTimestamp
  grace : optionalMember "deletionGracePeriodSeconds" Decoder.int64 members = some m.deletionGracePeriodSeconds
  deleted : optionalMember "deletionTimestamp" Instant.decode members = some m.deletionTimestamp
  finalizers : optionalMember "finalizers" (Decoder.list Decoder.string) members = some m.finalizers
  generateName : optionalMember "generateName" Decoder.string members = some m.generateName
  generation : optionalMember "generation" Decoder.int64 members = some m.generation
  labels : optionalMember "labels" (Decoder.map Decoder.string) members = some m.labels
  managed : optionalMember "managedFields" (Decoder.list ManagedFields.decode) members = some m.managedFields
  name : optionalMember "name" Decoder.string members = some m.name
  ns : optionalMember "namespace" Decoder.string members = some m.ns
  owners : optionalMember "ownerReferences" (Decoder.list OwnerReference.decode) members = some m.ownerReferences
  version : optionalMember "resourceVersion" Decoder.string members = some m.resourceVersion
  link : optionalMember "selfLink" Decoder.string members = some m.selfLink
  uid : optionalMember "uid" Decoder.string members = some m.uid

theorem decode_obj {members : List (String × Json)} {m : Metadata} :
    Metadata.decode (.obj members) = some m ↔ m.ToldBy members := by
  constructor
  · intro h
    obtain ⟨_, annotations, h⟩ := Option.bind_eq_some_iff.mp h
    obtain ⟨_, created, h⟩ := Option.bind_eq_some_iff.mp h
    obtain ⟨_, grace, h⟩ := Option.bind_eq_some_iff.mp h
    obtain ⟨_, deleted, h⟩ := Option.bind_eq_some_iff.mp h
    obtain ⟨_, finalizers, h⟩ := Option.bind_eq_some_iff.mp h
    obtain ⟨_, generateName, h⟩ := Option.bind_eq_some_iff.mp h
    obtain ⟨_, generation, h⟩ := Option.bind_eq_some_iff.mp h
    obtain ⟨_, labels, h⟩ := Option.bind_eq_some_iff.mp h
    obtain ⟨_, managed, h⟩ := Option.bind_eq_some_iff.mp h
    obtain ⟨_, name, h⟩ := Option.bind_eq_some_iff.mp h
    obtain ⟨_, ns, h⟩ := Option.bind_eq_some_iff.mp h
    obtain ⟨_, owners, h⟩ := Option.bind_eq_some_iff.mp h
    obtain ⟨_, version, h⟩ := Option.bind_eq_some_iff.mp h
    obtain ⟨_, link, h⟩ := Option.bind_eq_some_iff.mp h
    obtain ⟨_, uid, h⟩ := Option.bind_eq_some_iff.mp h
    cases h
    exact ⟨annotations, created, grace, deleted, finalizers, generateName, generation, labels, managed, name, ns,
      owners, version, link, uid⟩
  · intro told
    simp only [Metadata.decode, Option.bind_eq_bind, Option.bind_some, told.annotations, told.created, told.grace,
      told.deleted, told.finalizers, told.generateName, told.generation, told.labels, told.managed, told.name,
      told.ns, told.owners, told.version, told.link, told.uid]

theorem fits_of_decode {v : Json} {m : Metadata} (h : Metadata.decode v = some m) : m.Fits := by
  cases v with
  | obj members =>
    have told := decode_obj.mp h
    have ordered {name : String} {x : Option (List (String × String))}
        (read : optionalMember name (Decoder.map Decoder.string) members = some x) : ∀ l ∈ x, InKeyOrder l :=
      fun l hl => (optionalMember_eq_some read hl).elim fun _ read => map_inKeyOrder read.2
    have timed {name : String} {x : Option Instant}
        (read : optionalMember name Instant.decode members = some x) : ∀ t ∈ x, t.Valid :=
      fun t ht => (optionalMember_eq_some read ht).elim fun _ read => Instant.valid_of_decode read.2
    have counted {name : String} {x : Option Int}
        (read : optionalMember name Decoder.int64 members = some x) : ∀ n ∈ x, isInt64 n :=
      fun n hn => (optionalMember_eq_some read hn).elim fun _ read => isInt64_of_int64 read.2
    refine ⟨ordered told.annotations, timed told.created, counted told.grace, timed told.deleted,
      counted told.generation, ordered told.labels, fun l hl entry mem => ?_⟩
    obtain ⟨w, -, read⟩ := optionalMember_eq_some told.managed hl
    obtain ⟨w, read⟩ := list_eq_some read mem
    exact ManagedFields.fits_of_decode read
  | _ => cases h

/-- What is dropped of metadata is not written anyway. -/
theorem encode_stored (m : Metadata) : m.stored.encode = m.encode := by
  have times (v : Option Instant) (key : String) : whenSet key (fun t => Json.str t.wholeText) (v.map Instant.whole) =
      whenSet key (fun t => Json.str t.wholeText) v := by
    cases v with
    | none => rfl
    | some t => simp [whenSet, Instant.wholeText_whole]
  have managed : whenSet "managedFields" (fun entries => Json.arr (entries.map ManagedFields.encode))
        (m.managedFields.map (·.map ManagedFields.stored)) =
      whenSet "managedFields" (fun entries => Json.arr (entries.map ManagedFields.encode)) m.managedFields := by
    cases m.managedFields with
    | none => rfl
    | some l => simp [whenSet, Function.comp_def, ManagedFields.encode_stored]
  simp only [encode, stored, times, managed]

end Metadata

@[simp] theorem ConditionStatus.ofText?_text (s : ConditionStatus) : ofText? s.text = some s := by
  cases s <;> decide

namespace Condition

structure Fits (c : Condition) : Prop where
  generation : isInt64 c.observedGeneration
  time : c.lastTransitionTime.Valid

theorem decode_encode {c : Condition} (fits : c.Fits) : Condition.decode c.encode = some c := by
  have generation := int64_int fits.generation
  have time := Instant.decode_text fits.time
  rw [Condition.encode]
  generalize c.lastTransitionTime.text = text at time ⊢
  simp [Condition.decode, fieldNames, Decoder.alternative, generation, time]

theorem fits_of_decode {v : Json} {c : Condition} (h : Condition.decode v = some c) : c.Fits := by
  simp only [Condition.decode, Fields.defaulted_eq, Fields.required_eq, Option.bind_eq_bind,
    Option.bind_eq_some_iff, Option.some.injEq] at h
  obtain ⟨fs, -, type, -, status, -, reason, -, message, -, generation, read, time, ⟨w, -, timed⟩, rfl⟩ := h
  refine ⟨?_, Instant.valid_of_decode timed⟩
  rcases readOr_eq_some read with rfl | ⟨w, read⟩
  · rfl
  · exact isInt64_of_int64 read

end Condition

@[simp] theorem Coordinates.decode_encode (c : Coordinates) : Coordinates.decode c.encode = some c := by
  simp [Coordinates.decode, Coordinates.encode, fieldNames]

namespace Status

def Fits (s : Status) : Prop := ∀ c ∈ s.conditions, c.Fits

theorem decode_encode {s : Status} (fits : s.Fits) : Status.decode s.encode = some s := by
  have conditions := list_map_self fun c (hc : c ∈ s.conditions) => Condition.decode_encode (fits c hc)
  simp [Status.decode, Status.encode, conditions]

theorem fits_of_decode {v : Json} {s : Status} (h : Status.decode v = some s) : s.Fits := by
  simp only [Status.decode, Fields.defaulted_eq, Option.bind_eq_bind, Option.bind_eq_some_iff,
    Option.some.injEq] at h
  obtain ⟨fs, -, konnect, -, conditions, read, rfl⟩ := h
  intro c hc
  rcases readOr_eq_some read with rfl | ⟨w, read⟩
  · cases hc
  · obtain ⟨w, read⟩ := list_eq_some read hc
    exact Condition.fits_of_decode read

theorem readOption_encode {v : Option Status} (fits : ∀ s ∈ v, s.Fits) :
    readOption Status.decode (v.map Status.encode) = some v :=
  readOption_map_self (fun s hs => decode_encode (fits s hs)) (by simp [encode])

end Status

namespace Object

structure Fits (o : Object) : Prop where
  metadata : o.metadata.Fits
  spec : o.spec.Fits
  status : ∀ s ∈ o.status, s.Fits

theorem decode_encode {o : Object} (fits : o.Fits) :
    Object.decode o.kind o.encode = some { o with metadata := o.metadata.stored } := by
  have metadata := Metadata.decode_encode fits.metadata
  have spec : Spec.decode o.kind o.spec.encode = some o.spec := Spec.decode_encode fits.spec
  have status := Status.readOption_encode fits.status
  simp [Object.decode, Object.encode, metadata, spec, status]

theorem fits_of_decode {kind : ManagedKind} {v : Json} {o : Object} (h : Object.decode kind v = some o) :
    o.kind = kind ∧ o.Fits := by
  simp only [Object.decode, Fields.required_eq, Option.bind_eq_bind, Option.bind_eq_some_iff,
    Option.some.injEq] at h
  obtain ⟨fs, -, metadata, ⟨_, -, metadata'⟩, spec, ⟨_, -, spec'⟩, status, status', rfl⟩ := h
  obtain ⟨kind, fits⟩ := Spec.fits_of_decode spec'
  refine ⟨kind, Metadata.fits_of_decode metadata', fits, fun s hs => ?_⟩
  obtain ⟨w, read⟩ := Fields.nullable_eq_some status' hs
  exact Status.fits_of_decode read

theorem encode_withMetadata {o : Object} {m : Metadata} (h : m.encode = o.metadata.encode) :
    { o with metadata := m }.encode = o.encode := by
  simp only [encode, kind, h]

end Object

namespace Plugin

theorem decode_encode {p : Plugin} (metadata : p.metadata.Fits) (spec : p.spec.Fits) :
    Plugin.decode p.encode = some { p with metadata := p.metadata.stored } := by
  have metadata := Metadata.decode_encode metadata
  have spec := PluginSpec.decode_encode spec
  simp [Plugin.decode, Plugin.encode, metadata, spec]

theorem fits_of_decode {v : Json} {p : Plugin} (h : Plugin.decode v = some p) : p.metadata.Fits ∧ p.spec.Fits := by
  simp only [Plugin.decode, Fields.required_eq, Option.bind_eq_bind, Option.bind_eq_some_iff,
    Option.some.injEq] at h
  obtain ⟨fs, -, metadata, ⟨_, -, metadata'⟩, spec, ⟨_, -, spec'⟩, rfl⟩ := h
  exact ⟨Metadata.fits_of_decode metadata', PluginSpec.fits_of_decode spec'⟩

theorem encode_withMetadata {p : Plugin} {m : Metadata} (h : m.encode = p.metadata.encode) :
    { p with metadata := m }.encode = p.encode := by
  simp only [encode, h]

end Plugin

/-- Whatever a document of a kind is read as, it is written back so that the same is read again, but for the
parts of seconds in its metadata. What is read then is written just the same. -/
theorem Resource.decode_encode_of_decode {kind : Kind} {document : Json} {r : Resource}
    (h : Resource.decode kind document = some r) :
    Resource.decode kind r.encode = some (r.withMetadata r.metadata.stored) ∧
      (r.withMetadata r.metadata.stored).encode = r.encode := by
  cases kind with
  | managed kind =>
    obtain ⟨o, read, rfl⟩ := Option.map_eq_some_iff.mp h
    obtain ⟨rfl, fits⟩ := Object.fits_of_decode read
    constructor
    · exact congrArg (Option.map Resource.managed) (Object.decode_encode fits)
    · exact Object.encode_withMetadata o.metadata.encode_stored
  | plugin =>
    obtain ⟨p, read, rfl⟩ := Option.map_eq_some_iff.mp h
    obtain ⟨metadata, spec⟩ := Plugin.fits_of_decode read
    constructor
    · exact congrArg (Option.map Resource.plugin) (Plugin.decode_encode metadata spec)
    · exact Plugin.encode_withMetadata p.metadata.encode_stored

/-- The document of a service that was created within a second, two hours ahead of the UTC. -/
def Scene.writtenService : Json :=
  .obj [("apiVersion", .str "konnect.konghq.com/v1alpha1"), ("kind", .str "KongService"),
    ("metadata", .obj [("name", .str "web"), ("namespace", .str "team"),
      ("creationTimestamp", .str "2024-02-29T12:30:00.25+02:00"),
      ("labels", .obj [("b", .str "2"), ("a", .str "1")])]),
    ("spec", .obj [("host", .str "web.local"), ("port", .int 8080), ("path", .null)]),
    ("status", .obj [("conditions", .arr [.obj [("type", .str "Programmed"), ("status", .str "True"),
      ("reason", .str "Programmed"), ("lastTransitionTime", .str "2024-02-29T10:31:00.000000001Z")]])])]

theorem Resource.decode_encode_writtenService :
    ∃ r, Resource.decode (.managed .service) Scene.writtenService = some r ∧
      r.metadata.stored.creationTimestamp ≠ r.metadata.creationTimestamp ∧
      Resource.decode (.managed .service) r.encode = some (r.withMetadata r.metadata.stored) ∧
      (r.withMetadata r.metadata.stored).encode = r.encode := by
  have fraction : (Resource.decode (.managed .service) Scene.writtenService).any
      (fun r => r.metadata.stored.creationTimestamp ≠ r.metadata.creationTimestamp) = true := by
    decide +kernel
  obtain ⟨r, read, dropped⟩ := (Option.any_eq_true _ _).mp fraction
  exact ⟨r, read, of_decide_eq_true dropped, Resource.decode_encode_of_decode read⟩

end GatewaySync
