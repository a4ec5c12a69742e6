import GatewaySync.Proofs.Merges
import GatewaySync.Proofs.RoundTrip
import GatewaySync.Proofs.Cloud
import GatewaySync.Cluster.Api
/-!
# What the patches of the cluster API leave

A merge keeps whatever its patch does not name. The patches name all that they are meant to replace, so that
the document tells of the new status afterwards, or of the new finalizers and owners, and of nothing else that
is new but the resource version at hand. The store writes the same objects, except that it keeps a list unset
that a patch writes as an empty one.
-/
namespace GatewaySync

open Json

namespace Coordinates

/-- No part of other coordinates outlives a merge. -/
theorem decode_mergePatch {v : Json} (once : NamesOnce fieldNames v) (c : Coordinates) :
    Coordinates.decode (mergePatch v c.encode) = some c := by
  have replaced : fields fieldNames (mergePatch v c.encode) = fields fieldNames c.encode := by
    apply fields_mergePatch once
    · simp [always]
    · intro name mem
      simp only [fieldNames, List.mem_cons, List.not_mem_nil, or_false] at mem
      rcases mem with rfl | rfl | rfl | rfl | rfl <;> simp [always]
  calc Coordinates.decode (mergePatch v c.encode)
      = Coordinates.decode c.encode := by rw [Coordinates.decode, Coordinates.decode, replaced]
    _ = some c := decode_encode c

theorem namesOnce_of_decode {v : Json} {c : Coordinates} (h : Coordinates.decode v = some c) :
    NamesOnce fieldNames v := by
  obtain ⟨fs, read, -⟩ := Option.bind_eq_some_iff.mp h
  exact namesOnce_of_fields read

end Coordinates

namespace Status

/-- The members of a document name the fields of a status at most once, and those of its coordinates too. -/
structure Mergeable (v : Json) : Prop where
  fields : NamesOnce ["konnect", "conditions"] v
  coordinates : ∀ konnect, valuesOf "konnect" v.membersOf = [konnect] → NamesOnce Coordinates.fieldNames konnect

theorem mergeable_null : Mergeable .null := ⟨namesOnce_null _, nofun⟩

theorem mergeable_of_decode {v : Json} {s : Status} (h : Status.decode v = some s) : Mergeable v := by
  obtain ⟨fs, read, h⟩ := Option.bind_eq_some_iff.mp h
  obtain ⟨c, told, -⟩ := Option.bind_eq_some_iff.mp h
  refine ⟨namesOnce_of_fields read, fun konnect once => ?_⟩
  cases v with
  | obj members =>
    have found : fs.find "konnect" = some konnect :=
      Option.toList_eq_singleton_iff.mp ((valuesOf_of_fields read (by simp)).symm.trans once)
    rw [Fields.defaulted_eq, found] at told
    exact Coordinates.namesOnce_of_decode told
  | _ => cases once

/-- Nothing that was read outlives the merge of a status. -/
theorem decode_mergePatch {v : Json} (mergeable : Mergeable v) {s : Status} (fits : s.Fits) :
    Status.decode (mergePatch v s.encode) = some s := by
  obtain ⟨konnect, once⟩ := mergeable.fields "konnect" (by simp)
  obtain ⟨conditions, once'⟩ := mergeable.fields "conditions" (by simp)
  have names : NamesOnce Coordinates.fieldNames (konnect.getD .null) := by
    cases konnect with
    | none => exact namesOnce_null _
    | some w => exact mergeable.coordinates w once
  have coordinates := Coordinates.decode_mergePatch names s.konnect
  have conditionsTold : Decoder.list Condition.decode (.arr (s.conditions.map Condition.encode)) = some s.conditions :=
    list_map_self fun c hc => Condition.decode_encode (fits c hc)
  let changes := [("konnect", s.konnect.encode), ("conditions", .arr (s.conditions.map Condition.encode))]
  have distinct : (changes.map Prod.fst).Nodup := by simp [changes]
  have merged : valuesOf "konnect" (mergeMembers v.membersOf changes) =
      [mergePatch (konnect.getD .null) s.konnect.encode] :=
    valuesOf_mergeMembers_of_mem once distinct (.head _)
  have merged' : valuesOf "conditions" (mergeMembers v.membersOf changes) =
      [.arr (s.conditions.map Condition.encode)] :=
    valuesOf_mergeMembers_of_mem once' distinct (.tail _ (.head _))
  change Status.decode (mergePatch v (.obj changes)) = some s
  rw [mergePatch, Status.decode, fields_obj]
  simp [merged, merged', coordinates, conditionsTold]

theorem mergeable_of_readOption {v : Option Json} {x : Option Status} (h : readOption Status.decode v = some x) :
    Mergeable (v.getD .null) := by
  cases v with
  | none => exact mergeable_null
  | some w =>
    by_cases null : w = .null
    · subst null
      exact mergeable_null
    · rw [readOption, optional_of_ne_null null] at h
      obtain ⟨s, read, -⟩ := Option.map_eq_some_iff.mp h
      exact mergeable_of_decode read

theorem readOption_patched {v : Option Json} (mergeable : Mergeable (v.getD .null)) {given : Option Status}
    (fits : ∀ s ∈ given, s.Fits) :
    readOption Status.decode (patched v ((given.map Status.encode).getD .null)) = some given := by
  cases given with
  | none => rfl
  | some s =>
    have set : patched v s.encode = some (mergePatch (v.getD .null) s.encode) := rfl
    have object : mergePatch (v.getD .null) s.encode ≠ .null := nofun
    rw [Option.map_some, Option.getD_some, set, readOption, optional_of_ne_null object,
      decode_mergePatch mergeable (fits s rfl)]
    rfl

end Status

theorem Json.patched_text (old : Option Json) (v : Option String) :
    patched old ((v.map Json.str).getD .null) = v.map Json.str := by
  cases v <;> rfl

namespace Metadata

def patchedNames : List String := ["resourceVersion", "finalizers", "ownerReferences"]

/-- Whatever tells the same of all else tells of the same metadata, up to what a patch changes. -/
theorem ToldBy.changed {members members' : List (String × Json)} {m : Metadata} (told : m.ToldBy members)
    (same : ∀ name, name ∉ patchedNames → valuesOf name members' = valuesOf name members)
    {version : Option String} {finalizers : Option (List String)} {owners : Option (List OwnerReference)}
    (versionTold : optionalMember "resourceVersion" Decoder.string members' = some version)
    (finalizersTold : optionalMember "finalizers" (Decoder.list Decoder.string) members' = some finalizers)
    (ownersTold : optionalMember "ownerReferences" (Decoder.list OwnerReference.decode) members' = some owners) :
    ToldBy members' { m with resourceVersion := version, finalizers := finalizers, ownerReferences := owners } := by
  have kept {α : Type} {name : String} {d : Decoder α} {x : Option α} (other : name ∉ patchedNames)
      (read : optionalMember name d members = some x) : optionalMember name d members' = some x :=
    (optionalMember_congr (same name other)).trans read
  exact {
    annotations := kept (by decide) told.annotations
    created := kept (by decide) told.created
    grace := kept (by decide) told.grace
    deleted := kept (by decide) told.deleted
    finalizers := finalizersTold
    generateName := kept (by decide) told.generateName
    generation := kept (by decide) told.generation
    labels := kept (by decide) told.labels
    managed := kept (by decide) told.managed
    name := kept (by decide) told.name
    ns := kept (by decide) told.ns
    owners := ownersTold
    version := versionTold
    link := kept (by decide) told.link
    uid := kept (by decide) told.uid }

theorem exists_obj_of_decode {v : Json} {m : Metadata} (h : Metadata.decode v = some m) :
    ∃ members, v = .obj members := by
  cases v with
  | obj members => exact ⟨members, rfl⟩
  | _ => cases h

section

variable {members : List (String × Json)} {m : Metadata}

/-- The patch of a status writes the resource version alone. -/
theorem decode_versionPatched (told : m.ToldBy members) (once : (members.map Prod.fst).Nodup)
    (version : Option String) :
    Metadata.decode (mergePatch (.obj members)
        (.object [always "resourceVersion" ((version.map Json.str).getD .null)])) =
      some { m with resourceVersion := version } := by
  obtain ⟨old, held⟩ := exists_valuesOf once "resourceVersion"
  let changes := [("resourceVersion", (version.map Json.str).getD .null)]
  have same (name : String) (other : name ≠ "resourceVersion") :
      valuesOf name (mergeMembers members changes) = valuesOf name members :=
    valuesOf_mergeMembers_of_not_mem (by simpa [changes] using other) members
  have distinct : (changes.map Prod.fst).Nodup := List.nodup_singleton _
  have merged := valuesOf_mergeMembers_of_mem held distinct (.head _)
  rw [patched_text] at merged
  change Metadata.decode (mergePatch (.obj members) (.obj changes)) = _
  rw [mergePatch, decode_obj]
  apply told.changed
  · intro name other
    exact same name fun named => other (named ▸ .head _)
  · rw [optionalMember_eq, membersOf, merged, readMembers_toList, readOption_str]
  · exact (optionalMember_congr (same "finalizers" (by decide))).trans told.finalizers
  · exact (optionalMember_congr (same "ownerReferences" (by decide))).trans told.owners

/-- The patch of metadata writes the finalizers and owners too, as lists even if there are none. -/
theorem decode_listsPatched (told : m.ToldBy members) (once : (members.map Prod.fst).Nodup)
    (version : Option String) (finalizers : List String) (owners : List OwnerReference) :
    Metadata.decode (mergePatch (.obj members)
        (.object [always "resourceVersion" ((version.map Json.str).getD .null),
          always "finalizers" (.ofStrings finalizers),
          always "ownerReferences" (.arr (owners.map OwnerReference.encode))])) =
      some { m with resourceVersion := version, finalizers := some finalizers, ownerReferences := some owners } := by
  obtain ⟨oldVersion, versionHeld⟩ := exists_valuesOf once "resourceVersion"
  obtain ⟨oldFinalizers, finalizersHeld⟩ := exists_valuesOf once "finalizers"
  obtain ⟨oldOwners, ownersHeld⟩ := exists_valuesOf once "ownerReferences"
  let changes := [("resourceVersion", (version.map Json.str).getD .null), ("finalizers", .ofStrings finalizers),
    ("ownerReferences", .arr (owners.map OwnerReference.encode))]
  have distinct : (changes.map Prod.fst).Nodup := by simp [changes]
  have versionMerged := valuesOf_mergeMembers_of_mem versionHeld distinct (.head _)
  have finalizersMerged : valuesOf "finalizers" (mergeMembers members changes) = [.ofStrings finalizers] :=
    valuesOf_mergeMembers_of_mem finalizersHeld distinct (.tail _ (.head _))
  have ownersMerged : valuesOf "ownerReferences" (mergeMembers members changes) =
      [.arr (owners.map OwnerReference.encode)] :=
    valuesOf_mergeMembers_of_mem ownersHeld distinct (.tail _ (.tail _ (.head _)))
  rw [patched_text] at versionMerged
  change Metadata.decode (mergePatch (.obj members) (.obj changes)) = _
  rw [mergePatch, decode_obj]
  apply told.changed
  · intro name other
    exact valuesOf_mergeMembers_of_not_mem other members
  · rw [optionalMember_eq, membersOf, versionMerged, readMembers_toList, readOption_str]
  · exact optionalMember_of_valuesOf finalizersMerged (by simp [ofStrings]) (stringList_ofStrings finalizers)
  · exact optionalMember_of_valuesOf ownersMerged (by simp) (list_map_self fun r _ => r.decode_encode)

end

end Metadata

namespace Object

/-- The members of a document hold the parts that an object is read from, each once. -/
structure ToldBy (kind : ManagedKind) (members : List (String × Json)) (metadata spec : Json) (status : Option Json)
    (o : Object) : Prop where
  metadataHeld : valuesOf "metadata" members = [metadata]
  specHeld : valuesOf "spec" members = [spec]
  statusHeld : valuesOf "status" members = status.toList
  metadata : Metadata.decode metadata = some o.metadata
  spec : Spec.decode kind spec = some o.spec
  status : readOption Status.decode status = some o.status

section

variable {kind : ManagedKind} {members : List (String × Json)} {o : Object}

theorem ToldBy.decode {metadata spec : Json} {status : Option Json}
    (told : ToldBy kind members metadata spec status o) : Object.decode kind (.obj members) = some o := by
  rw [Object.decode, fields_obj]
  simp [told.metadataHeld, told.specHeld, told.statusHeld, told.metadata, told.spec, told.status]

theorem toldBy_of_decode (read : Object.decode kind (.obj members) = some o) :
    ∃ metadata spec status, ToldBy kind members metadata spec status o := by
  obtain ⟨fs, found, read⟩ := Option.bind_eq_some_iff.mp read
  obtain ⟨m, metadata', read⟩ := Option.bind_eq_some_iff.mp read
  obtain ⟨s, spec', read⟩ := Option.bind_eq_some_iff.mp read
  obtain ⟨t, status', ⟨⟩⟩ := Option.bind_eq_some_iff.mp read
  obtain ⟨metadata, metadataFound, metadataTold⟩ := Option.bind_eq_some_iff.mp metadata'
  obtain ⟨spec, specFound, specTold⟩ := Option.bind_eq_some_iff.mp spec'
  have held {name : String} (mem : name ∈ ["metadata", "spec", "status"]) := valuesOf_of_fields found mem
  rw [fields_obj] at found
  obtain ⟨values, -, rfl⟩ := Option.map_eq_some_iff.mp found
  refine ⟨metadata, spec, (Fields.mk false values).find "status", ?_, ?_, held (by simp), metadataTold, specTold, ?_⟩
  · rw [held (by simp), metadataFound]
    rfl
  · rw [held (by simp), specFound]
    rfl
  · rwa [Fields.nullable_eq] at status'

end

end Object

namespace Cluster

def restated (o given : Object) : Object :=
  { o with
    metadata := { o.metadata with resourceVersion := given.metadata.resourceVersion }
    status := given.status }

def relisted (o given : Object) : Object :=
  { o with
    metadata := { o.metadata with
      resourceVersion := given.metadata.resourceVersion
      finalizers := some given.metadata.finalizerList
      ownerReferences := some given.metadata.ownerList } }

/-- The object with its finalizers and owners as lists, empty if they are unset. -/
def listed (o : Object) : Object :=
  { o with
    metadata := { o.metadata with
      finalizers := some o.metadata.finalizerList
      ownerReferences := some o.metadata.ownerList } }

section

variable {kind : ManagedKind} {members : List (String × Json)} {o given : Object}

theorem decode_statusPatch (read : Object.decode kind (.obj members) = some o)
    (once : ∀ fields, ("metadata", .obj fields) ∈ members → (fields.map Prod.fst).Nodup)
    (fits : ∀ s ∈ given.status, s.Fits) :
    Object.decode kind (mergePatch (.obj members) (statusPatch given)) = some (restated o given) := by
  obtain ⟨metadata, spec, status, told⟩ := Object.toldBy_of_decode read
  obtain ⟨fields, rfl⟩ := Metadata.exists_obj_of_decode told.metadata
  have once := once fields (mem_of_valuesOf told.metadataHeld)
  have held : valuesOf "metadata" members = (some (Json.obj fields)).toList := told.metadataHeld
  let patch := Json.object [always "resourceVersion" ((given.metadata.resourceVersion.map Json.str).getD .null)]
  let changes := [("metadata", patch), ("status", (given.status.map Status.encode).getD .null)]
  have distinct : (changes.map Prod.fst).Nodup := by simp [changes]
  have told' : Object.ToldBy kind (mergeMembers members changes) (mergePatch (.obj fields) patch) spec
      (patched status ((given.status.map Status.encode).getD .null)) (restated o given) := by
    constructor
    · exact valuesOf_mergeMembers_of_mem held distinct (.head _)
    · rw [valuesOf_mergeMembers_of_not_mem (by simp [changes])]
      exact told.specHeld
    · exact valuesOf_mergeMembers_of_mem told.statusHeld distinct (.tail _ (.head _))
    · exact Metadata.decode_versionPatched (Metadata.decode_obj.mp told.metadata) once _
    · exact told.spec
    · exact Status.readOption_patched (Status.mergeable_of_readOption told.status) fits
  change Object.decode kind (mergePatch (.obj members) (.obj changes)) = _
  rw [mergePatch]
  exact told'.decode

theorem decode_metadataPatch (read : Object.decode kind (.obj members) = some o)
    (once : ∀ fields, ("metadata", .obj fields) ∈ members → (fields.map Prod.fst).Nodup) :
    Object.decode kind (mergePatch (.obj members) (metadataPatch given)) = some (relisted o given) := by
  obtain ⟨metadata, spec, status, told⟩ := Object.toldBy_of_decode read
  obtain ⟨fields, rfl⟩ := Metadata.exists_obj_of_decode told.metadata
  have once := once fields (mem_of_valuesOf told.metadataHeld)
  have held : valuesOf "metadata" members = (some (Json.obj fields)).toList := told.metadataHeld
  let patch := Json.object [always "resourceVersion" ((given.metadata.resourceVersion.map Json.str).getD .null),
    always "finalizers" (Json.ofStrings given.metadata.finalizerList),
    always "ownerReferences" (.arr (given.metadata.ownerList.map OwnerReference.encode))]
  let changes := [("metadata", patch)]
  have distinct : (changes.map Prod.fst).Nodup := List.nodup_singleton _
  have told' : Object.ToldBy kind (mergeMembers members changes) (mergePatch (.obj fields) patch) spec status
      (relisted o given) := by
    constructor
    · exact valuesOf_mergeMembers_of_mem held distinct (.head _)
    · rw [valuesOf_mergeMembers_of_not_mem (by simp [changes])]
      exact told.specHeld
    · rw [valuesOf_mergeMembers_of_not_mem (by simp [changes])]
      exact told.statusHeld
    · exact Metadata.decode_listsPatched (Metadata.decode_obj.mp told.metadata) once _ _ _
    · exact told.spec
    · exact told.status
  change Object.decode kind (mergePatch (.obj members) (.obj changes)) = _
  rw [mergePatch]
  exact told'.decode

end

section

variable {s : Store} {o given : Object}

theorem findObject?_patchStatus (target : s.patchTarget given = .ok o) (set : given.status.isSome) :
    (s.patchStatus given).2.findObject? given.key = some (s.written (restated o given)) := by
  obtain ⟨status, present⟩ := Option.isSome_iff_exists.mp set
  have key : (Store.statusPatched o given).key = given.key :=
    (Store.key_of_patchTarget target : o.key = given.key)
  rw [Store.patchStatus, target]
  change (s.put (.managed (Store.statusPatched o given))).findObject? given.key = _
  rw [Store.findObject?_put, if_pos key, Store.statusPatched, restated, present]
  rfl

/-- The store keeps of a patch of the metadata what the patched document tells, up to lists that are unset,
and nothing if that is an object to be let go. -/
theorem findObject?_patchMetadata (target : s.patchTarget given = .ok o) :
    ((s.patchMetadata given).2.findObject? given.key).map listed =
      if (relisted o given).metadata.isDeleting ∧ (relisted o given).metadata.finalizerList = [] then none
      else some (s.written (relisted o given)) := by
  have key : (Store.metadataPatched o given).key = given.key :=
    (Store.key_of_patchTarget target : o.key = given.key)
  have gone : (relisted o given).metadata.isDeleting ∧ (relisted o given).metadata.finalizerList = [] ↔
      o.metadata.isDeleting ∧ given.metadata.finalizerList = [] := Iff.rfl
  rw [Store.patchMetadata, target]
  dsimp only
  by_cases letGo : o.metadata.isDeleting ∧ given.metadata.finalizerList = []
  · rw [if_pos letGo, if_pos (gone.mpr letGo), Store.findObject?_erase, if_pos rfl]
    rfl
  · rw [if_neg letGo, if_neg (letGo ∘ gone.mp), Store.findObject?_put, if_pos key]
    rfl

end

/-- Of the document of an object, which names every member of its metadata once, the patch of a status leaves
what it told of but for the status, and the patch of metadata what it told of but for the finalizers and
owners. Only the resource version is written along with them. The store keeps the same of either patch, up to
lists that are unset. -/
theorem patches_replace {kind : ManagedKind} {members : List (String × Json)} {o given : Object}
    (read : Object.decode kind (.obj members) = some o)
    (once : ∀ fields, ("metadata", .obj fields) ∈ members → (fields.map Prod.fst).Nodup)
    (fits : ∀ s ∈ given.status, s.Fits) :
    Object.decode kind (mergePatch (.obj members) (statusPatch given)) = some (restated o given) ∧
      Object.decode kind (mergePatch (.obj members) (metadataPatch given)) = some (relisted o given) ∧
      ∀ s : Store, s.patchTarget given = .ok o →
        (given.status.isSome →
          (s.patchStatus given).2.findObject? given.key = some (s.written (restated o given))) ∧
        ((s.patchMetadata given).2.findObject? given.key).map listed =
          if (relisted o given).metadata.isDeleting ∧ (relisted o given).metadata.finalizerList = [] then none
          else some (s.written (relisted o given)) := by
  refine ⟨decode_statusPatch read once fits, decode_metadataPatch read once, fun s target => ⟨?_, ?_⟩⟩
  · exact findObject?_patchStatus target
  · exact findObject?_patchMetadata target

end Cluster

namespace Scene

open Cluster

/-- What the cluster holds of the service once it is programmed, with fields that nobody here knows. -/
def programmedMembers : List (String × Json) :=
  [("kind", .str "KongService"),
    ("metadata", .obj [("name", .str "web"), ("namespace", .str "shop"), ("resourceVersion", .str "1"),
      ("finalizers", .ofStrings [cleanupFinalizer])]),
    ("spec", .obj [("host", .str "example.org"), ("weight", .int 3)]),
    ("status", .obj [("phase", .str "done"), ("konnect", .obj [("id", .str "s-1"), ("region", .str "eu")])])]

def programmed : Object where
  metadata := { (default : Metadata) with
    name := some "web", ns := some "shop", resourceVersion := some "1", finalizers := some [cleanupFinalizer] }
  spec := .service ⟨none, none, "example.org", none, none, none, none, []⟩
  status := some ⟨⟨"s-1", "", "", "", ""⟩, []⟩

/-- The service with its id forgotten and its finalizer taken away. -/
def cleared : Object :=
  { programmed with
    metadata := { programmed.metadata with finalizers := some [] }
    status := some Status.empty }

theorem programmed_told : Object.decode .service (.obj programmedMembers) = some programmed := rfl

/-- The id is gone after the merge, and so is the finalizer. -/
theorem patches_clear :
    Object.decode .service (mergePatch (.obj programmedMembers) (statusPatch cleared)) =
        some { programmed with status := some Status.empty } ∧
      Object.decode .service (mergePatch (.obj programmedMembers) (metadataPatch cleared)) =
        some { programmed with metadata := (listed cleared).metadata } ∧
      (((Store.empty.put (.managed programmed)).patchStatus cleared).2.findObject? cleared.key).map (·.konnectId) =
        some "" := by
  have once : ∀ fields, ("metadata", .obj fields) ∈ programmedMembers → (fields.map Prod.fst).Nodup := by
    intro fields mem
    simp [programmedMembers] at mem
    simp [mem]
  have fits : ∀ s ∈ cleared.status, s.Fits := by
    rintro s ⟨⟩ c ⟨⟩
  obtain ⟨restated, relisted, kept⟩ := patches_replace programmed_told once fits
  obtain ⟨status, -⟩ := kept (Store.empty.put (.managed programmed)) rfl
  refine ⟨restated, relisted, ?_⟩
  rw [status rfl]
  rfl

def unowned : Object := { programmed with metadata := { programmed.metadata with finalizers := none }, status := none }

/-- What is unset is written as an empty list, which the store does not do. A document in the form of an array
is no object any more after a merge. -/
theorem unset_written_empty :
    Object.decode .service unowned.encode = some unowned ∧ unowned.metadata.ownerReferences = none ∧
      Object.decode .service (mergePatch unowned.encode (metadataPatch unowned)) = some (listed unowned) ∧
      (listed unowned).metadata.ownerReferences ≠ unowned.metadata.ownerReferences ∧
      Store.metadataPatched unowned unowned = unowned ∧
      Object.decode .service (.arr [unowned.metadata.encode, unowned.spec.encode, .null]) = some unowned ∧
      Object.decode .service (mergePatch (.arr [unowned.metadata.encode, unowned.spec.encode, .null])
        (statusPatch unowned)) = none := by
  refine ⟨rfl, rfl, rfl, ?_, rfl, rfl, rfl⟩
  decide

end Scene

end GatewaySync
