import GatewaySync.Proofs.Konnect
import GatewaySync.Proofs.Ordering
/-!
# How an entity is found again

The body of an object carries its uid once, as a tag or as the label of a control plane, and nothing
that a user writes can look like another one. A search by that mark therefore finds the entities that
were written for the uid, and those only.
-/
namespace GatewaySync

theorem spellsUid_eq (tag : String) : spellsUid tag = uidTagStart.toList.isPrefixOf tag.toList := by
  suffices h : ∀ start cs : List Char, (Text.stripStart start cs).isSome = start.isPrefixOf cs from h _ _
  intro start
  induction start with
  | nil => simp [Text.stripStart]
  | cons c rest ih =>
    intro cs
    cases cs with
    | nil => rfl
    | cons d cs =>
      rw [Text.stripStart, List.isPrefixOf_cons_cons, ← ih]
      by_cases same : c = d <;> simp [same]

theorem spellsUid_uidTag (m : Metadata) : spellsUid m.uidTag := by
  simp [spellsUid, Metadata.uidTag, uidTagStart, Text.stripStart]

theorem not_spellsUid_of_userTag {raw tag : String} (h : userTag? raw = some tag) :
    spellsUid tag = false := by
  unfold userTag? at h
  dsimp only at h
  split_ifs at h with blank
  cases h
  rw [spellsUid, String.toList_ofList]
  exact Bool.eq_false_iff.mpr fun spells => blank (.inr spells)

theorem eq_uidTag_of_mem_identityTags {m : Metadata} {kind : Kind} {t : String}
    (ht : t ∈ m.identityTags kind) (spells : spellsUid t) : t = m.uidTag := by
  simp only [Metadata.identityTags, Metadata.identity, List.map_cons, List.map_nil, List.mem_cons,
    List.not_mem_nil, or_false] at ht
  rcases ht with rfl | rfl | rfl | rfl | rfl | rfl | rfl
  case inr.inr.inr.inl => rfl
  all_goals simp [spellsUid, uidTagStart, Text.stripStart] at spells

theorem uidTag_mem_identityTags (m : Metadata) (kind : Kind) : m.uidTag ∈ m.identityTags kind := by
  simp [Metadata.identityTags, Metadata.identity, Metadata.uidTag, uidTagStart]

/-- The tags of an object spell one uid, its own. -/
theorem mem_filter_spellsUid {m : Metadata} {kind : Kind} {specTags : List String} {t : String} :
    t ∈ (m.tags kind specTags).filter spellsUid ↔ t = m.uidTag := by
  rw [List.mem_filter, Metadata.tags, mem_tagSet, List.mem_append]
  constructor
  · rintro ⟨user | own, spells⟩
    · obtain ⟨raw, -, h⟩ := List.mem_filterMap.mp user
      rw [not_spellsUid_of_userTag h] at spells
      cases spells
    · exact eq_uidTag_of_mem_identityTags own spells
  · rintro rfl
    exact ⟨.inr (uidTag_mem_identityTags m kind), spellsUid_uidTag m⟩

theorem identityLabels_eq (m : Metadata) (kind : Kind) :
    m.identityLabels kind = [("k8s-generation", toString m.generationValue),
      ("k8s-group", kind.group), ("k8s-kind", kind.name), ("k8s-name", m.nameText),
      ("k8s-namespace", m.namespaceText), ("k8s-uid", m.uidText), ("k8s-version", kind.version)] := by
  rfl

/-- The identity wins over the labels of the user. -/
theorem find?_labelsWith_uid (s : ControlPlaneSpec) (m : Metadata) (kind : Kind) :
    ((s.labelsWith (m.identityLabels kind)).find? (·.1 = "k8s-uid")).map (·.2) = some m.uidText := by
  simp [ControlPlaneSpec.labelsWith, identityLabels_eq, find?_insertSorted]

namespace Json

section

variable {key k : String} {rest : List (Option (String × Json))}

@[simp] theorem member?_object_nil : (object []).member? key = none := rfl

theorem member?_object_always (v : Json) :
    (object (always k v :: rest)).member? key =
      if k = key then some v else (object rest).member? key := by
  by_cases h : k = key <;> simp [object, always, member?, h]

theorem member?_object_skip {m : Option (String × Json)} (h : ∀ e ∈ m, e.1 ≠ key) :
    (object (m :: rest)).member? key = (object rest).member? key := by
  cases m with
  | none => rfl
  | some e => simp [object, member?, h e rfl]

theorem member?_object_whenSet {α : Type} {write : α → Json} {value : Option α} (h : k ≠ key) :
    (object (whenSet k write value :: rest)).member? key = (object rest).member? key := by
  apply member?_object_skip
  intro e he
  obtain ⟨v, -, rfl⟩ := Option.map_eq_some_iff.mp he
  exact h

theorem member?_object_listUnlessEmpty {items : List String} (h : k ≠ key) :
    (object (listUnlessEmpty k items :: rest)).member? key = (object rest).member? key := by
  apply member?_object_skip
  intro e he
  unfold listUnlessEmpty at he
  split_ifs at he
  · cases he
  · cases he
    exact h

theorem member?_object_idMember {id : String} (h : k ≠ key) :
    (object (idMember k id :: rest)).member? key = (object rest).member? key := by
  apply member?_object_skip
  intro e he
  unfold idMember at he
  split_ifs at he
  · cases he
  · cases he
    exact h

end

theorem member?_ofTextMap (key : String) (entries : List (String × String)) :
    (ofTextMap entries).member? key = ((entries.find? (·.1 = key)).map (·.2)).map str := by
  rw [ofTextMap, member?, List.find?_map, Option.map_map, Option.map_map]
  rfl

end Json

namespace Object

open Json

variable {o : Object}

/-- Every body but that of a control plane ends with its tags and has no labels. -/
theorem member?_bodyWith (h : o.kind ≠ .controlPlane) (tags : List String) :
    (o.bodyWith tags).member? "tags" = some (.ofStrings tags) ∧
      (o.bodyWith tags).member? "labels" = none := by
  unfold bodyWith
  cases hs : o.spec with
  | controlPlane s => exact absurd (congrArg Spec.kind hs) h
  | service s =>
    simp [ServiceSpec.body, tagsMember, member?_object_always, member?_object_whenSet]
  | route s =>
    simp [RouteSpec.body, tagsMember, member?_object_always, member?_object_whenSet,
      member?_object_listUnlessEmpty, member?_object_idMember]
  | consumer s =>
    simp [ConsumerSpec.body, tagsMember, member?_object_always, member?_object_whenSet]
  | consumerGroup s => simp [ConsumerGroupSpec.body, tagsMember, member?_object_always]
  | apiKey s => simp [ApiKeySpec.body, tagsMember, member?_object_always]
  | basicAuth s => simp [BasicAuthSpec.body, tagsMember, member?_object_always]
  | upstream s =>
    simp [UpstreamSpec.body, tagsMember, member?_object_always, member?_object_whenSet]
  | certificate s => simp [CertificateSpec.body, tagsMember, member?_object_always]
  | caCertificate s => simp [CaCertificateSpec.body, tagsMember, member?_object_always]
  | keySet s => simp [KeySetSpec.body, tagsMember, member?_object_always]
  | key s =>
    simp [KeySpec.body, tagsMember, member?_object_always, member?_object_whenSet,
      member?_object_idMember]
  | pluginBinding s =>
    simp [ResolvedBinding.body, tagsMember, member?_object_always, member?_object_whenSet,
      member?_object_listUnlessEmpty, member?_object_idMember]

theorem entityTags_body (h : o.kind ≠ .controlPlane) : o.body.entityTags = o.tags := by
  rw [body, entityTags, (member?_bodyWith h o.tags).1]
  change (o.tags.map str).filterMap Decoder.string = o.tags
  rw [List.filterMap_map]
  exact List.filterMap_some

theorem entityLabel?_body (h : o.kind ≠ .controlPlane) (key : String) :
    o.body.entityLabel? key = none := by
  rw [body, entityLabel?, (member?_bodyWith h o.tags).2]
  rfl

theorem body_controlPlane (h : o.kind = .controlPlane) :
    ∃ s : ControlPlaneSpec, o.spec = .controlPlane s ∧ o.body = s.body (o.metadata.identityLabels o.kind) := by
  unfold body bodyWith
  cases hs : o.spec with
  | controlPlane s => exact ⟨s, rfl, rfl⟩
  | _ =>
    rw [kind, hs] at h
    cases h

theorem member?_labels (s : ControlPlaneSpec) (identity : List (String × String)) :
    (s.body identity).member? "labels" = some (ofTextMap (s.labelsWith identity)) := by
  simp [ControlPlaneSpec.body, member?_object_always, member?_object_whenSet]

theorem entityTags_body_controlPlane (h : o.kind = .controlPlane) : o.body.entityTags = [] := by
  obtain ⟨s, -, hs⟩ := body_controlPlane h
  simp [hs, entityTags, ControlPlaneSpec.body, member?_object_always, member?_object_whenSet]

theorem entityLabel?_body_controlPlane (h : o.kind = .controlPlane) :
    o.body.entityLabel? "k8s-uid" = some o.metadata.uidText := by
  obtain ⟨s, -, hs⟩ := body_controlPlane h
  rw [hs, entityLabel?, member?_labels, Option.bind_some, member?_ofTextMap, find?_labelsWith_uid]
  rfl

/-- The one uid that a body carries is the one that is searched for. -/
theorem mem_uidMarks_body {f : ListFilter} : f ∈ o.body.uidMarks ↔ f = o.listFilter := by
  unfold uidMarks listFilter
  by_cases h : o.kind = .controlPlane
  · rw [entityTags_body_controlPlane h, entityLabel?_body_controlPlane h, if_pos h]
    simp [Metadata.uidTag]
  · rw [entityTags_body h, entityLabel?_body h, if_neg h]
    simp only [Option.map_none, Option.toList_none, List.append_nil, List.mem_map, tags,
      mem_filter_spellsUid, exists_eq_left]
    exact eq_comm

theorem finds_body (o : Object) : o.listFilter.finds o.body := by
  unfold listFilter
  by_cases h : o.kind = .controlPlane
  · rw [if_pos h]
    have split : Text.splitOnce ':' o.metadata.uidTag.toList =
        some ("k8s-uid".toList, o.metadata.uidText.toList) := by
      simp [Metadata.uidTag, uidTagStart, Text.splitOnce]
    simp [ListFilter.finds, split, entityLabel?_body_controlPlane h]
  · rw [if_neg h, ListFilter.finds, entityTags_body h, List.contains_iff_mem, tags, Metadata.tags,
      mem_tagSet]
    exact List.mem_append_right _ (uidTag_mem_identityTags _ _)

end Object

end GatewaySync
