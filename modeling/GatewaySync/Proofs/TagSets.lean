import GatewaySync.Proofs.Identity
import GatewaySync.Proofs.OctetOrder
import GatewaySync.Proofs.Runs
import Mathlib.Data.List.Sort
import Mathlib.Logic.Relation
/-!
# Tag sets

The tags of an object are a list in strict order: those of its identity, and what users ask for in an
annotation or in the desired state, without the blanks around it. How users write it down makes no
difference, and nothing that they write takes another tag away.
-/
namespace GatewaySync

namespace Text

variable {cs t : List Char} {separator : Char} {pieces : List (List Char)}

/-- A text is another one with blanks around it, which has none at its ends. -/
structure Trimmed (cs t : List Char) : Prop where
  around : ∃ before after, cs = before ++ t ++ after ∧ ∀ c ∈ before ++ after, isBlank c
  first : ∀ c ∈ t.head?, ¬ isBlank c
  last : ∀ c ∈ t.getLast?, ¬ isBlank c

theorem trimmed_trim (cs : List Char) : Trimmed cs (trim cs) := by
  have start : cs.takeWhile isBlank ++ trimStart cs = cs := List.takeWhile_append_dropWhile
  have stop : trim cs ++ ((trimStart cs).reverse.takeWhile isBlank).reverse = trimStart cs := by
    rw [trim, trimEnd, ← List.reverse_append, List.takeWhile_append_dropWhile, List.reverse_reverse]
  refine ⟨⟨_, _, by rw [List.append_assoc, stop, start], ?_⟩, fun c first => ?_, fun c last => ?_⟩
  · rw [List.forall_mem_append]
    exact ⟨fun c => List.mem_takeWhile_imp, fun c mem => List.mem_takeWhile_imp (List.mem_reverse.mp mem)⟩
  · apply stops_dropWhile isBlank cs c
    change c ∈ (trimStart cs).head?
    rw [← stop, List.head?_append, Option.mem_def.mp first]
    rfl
  · rw [trim, trimEnd, List.getLast?_reverse] at last
    exact stops_dropWhile isBlank _ c last

theorem Trimmed.trim_eq (h : Trimmed cs t) : trim cs = t := by
  obtain ⟨⟨before, after, rfl, blank⟩, first, last⟩ := h
  obtain ⟨blank_before, blank_after⟩ := List.forall_mem_append.mp blank
  rw [trim, trimStart, List.append_assoc, List.dropWhile_append_of_pos blank_before]
  cases t with
  | nil =>
    rw [List.nil_append, List.dropWhile_eq_nil_iff.mpr blank_after]
    rfl
  | cons c t =>
    have first : Stops isBlank (c :: t ++ after) := first
    have last : Stops isBlank (c :: t).reverse := by rwa [Stops, List.head?_reverse]
    rw [first.dropWhile_eq, trimEnd, List.reverse_append,
      List.dropWhile_append_of_pos fun d mem => blank_after d (List.mem_reverse.mp mem),
      last.dropWhile_eq, List.reverse_reverse]

theorem trimmed_iff : Trimmed cs t ↔ trim cs = t :=
  ⟨Trimmed.trim_eq, fun h => h ▸ trimmed_trim cs⟩

theorem trim_padded {before after : List Char} (blank : ∀ c ∈ before ++ after, isBlank c) (cs : List Char) :
    trim (before ++ cs ++ after) = trim cs := by
  obtain ⟨⟨first, last, split, inner⟩, head, tail⟩ := trimmed_trim cs
  apply Trimmed.trim_eq
  refine ⟨⟨before ++ first, last ++ after, ?_, ?_⟩, head, tail⟩
  · have around : before ++ cs ++ after = before ++ (first ++ trim cs ++ last) ++ after := by rw [← split]
    rw [around]
    simp only [List.append_assoc]
  · simp only [List.forall_mem_append] at blank inner ⊢
    exact ⟨⟨blank.1, inner.1⟩, inner.2, blank.2⟩

theorem trim_of_blank (blank : ∀ c ∈ cs, isBlank c) : trim cs = [] :=
  Trimmed.trim_eq ⟨⟨cs, [], by simp, by simpa using blank⟩, by simp, by simp⟩

structure Separated (separator : Char) (cs : List Char) (pieces : List (List Char)) : Prop where
  exist : pieces ≠ []
  joined : [separator].intercalate pieces = cs
  apart : ∀ piece ∈ pieces, separator ∉ piece

theorem splitOn_eq (separator : Char) (cs : List Char) : splitOn separator cs = cs.splitOn separator := by
  induction cs with
  | nil => rfl
  | cons c cs ih =>
    rw [splitOn, ih, List.splitOn_cons_eq_if_modifyHead]
    by_cases here : c = separator
    · simp [here]
    · cases rest : cs.splitOn separator with
      | nil => exact absurd rest (List.splitOn_ne_nil separator cs)
      | cons piece more => simp [here]

theorem notMem_of_mem_splitOn (cs : List Char) : ∀ piece ∈ splitOn separator cs, separator ∉ piece := by
  induction cs with
  | nil => simp [splitOn]
  | cons c cs ih =>
    rw [splitOn]
    split_ifs with here
    · simpa using ih
    · split
      · simpa using Ne.symm here
      · rename_i piece more rest
        rw [rest, List.forall_mem_cons] at ih
        simpa [Ne.symm here] using ih

theorem separated_iff : Separated separator cs pieces ↔ splitOn separator cs = pieces := by
  constructor
  · rintro ⟨exist, rfl, apart⟩
    rw [splitOn_eq]
    exact List.splitOn_intercalate separator apart exist
  · rintro rfl
    refine ⟨?_, ?_, notMem_of_mem_splitOn cs⟩
    · rw [splitOn_eq]
      exact List.splitOn_ne_nil separator cs
    · rw [splitOn_eq]
      exact List.intercalate_splitOn separator

end Text

/-- What users write in the tags annotation, if there is one, between its commas. -/
def Annotates (annotations : Option (List (String × String))) (pieces : List String) : Prop :=
  match (annotations.getD []).find? (·.1 = tagsAnnotation) with
  | some (_, raw) => Text.Separated ',' raw.toList (pieces.map String.toList)
  | none => pieces = []

/-- Users ask for a tag. It stands between blanks, and is neither empty nor in the form of a uid. -/
def Wished (raws : List String) (tag : String) : Prop :=
  ∃ raw ∈ raws, Text.Trimmed raw.toList tag.toList ∧ tag ≠ "" ∧ ¬ uidTagStart.toList <+: tag.toList

inductive Reworded : List String → List String → Prop
  | permuted {raws raws' : List String} (h : raws.Perm raws') : Reworded raws raws'
  | repeated {raws : List String} {raw : String} (h : raw ∈ raws) : Reworded raws (raw :: raws)
  | padded {raws : List String} {raw : String} (before after : List Char)
      (blank : ∀ c ∈ before ++ after, Text.isBlank c) :
      Reworded (raw :: raws) (String.ofList (before ++ raw.toList ++ after) :: raws)
  | blank {raws : List String} {raw : String} (h : ∀ c ∈ raw.toList, Text.isBlank c) :
      Reworded raws (raw :: raws)
  | spoofed {raws : List String} {raw : String} {tag : List Char} (h : Text.Trimmed raw.toList tag)
      (uid : uidTagStart.toList <+: tag) : Reworded raws (raw :: raws)

section

variable {annotations : Option (List (String × String))} {pieces raws raws' : List String} {tag raw : String}

theorem annotates_iff {m : Metadata} : Annotates m.annotations pieces ↔ m.annotatedTags = pieces := by
  unfold Annotates Metadata.annotatedTags
  generalize (m.annotations.getD []).find? (·.1 = tagsAnnotation) = found
  rcases found with _ | ⟨_, raw⟩
  · exact eq_comm
  · dsimp only
    rw [Text.separated_iff]
    constructor
    · intro same
      simp [same, Function.comp_def]
    · rintro rfl
      simp [Function.comp_def]

theorem userTag?_eq_some_iff : userTag? raw = some tag ↔
    Text.Trimmed raw.toList tag.toList ∧ tag ≠ "" ∧ ¬ uidTagStart.toList <+: tag.toList := by
  rw [Text.trimmed_iff, ← List.isPrefixOf_iff_prefix, ← spellsUid_eq]
  unfold userTag? spellsUid
  dsimp only
  split_ifs with refused
  · simp only [false_iff]
    rintro ⟨trimmed, filled, other⟩
    rw [trimmed, String.toList_eq_nil_iff] at refused
    exact refused.elim filled other
  · rw [Option.some.injEq, ← String.toList_inj, String.toList_ofList]
    constructor
    · intro trimmed
      rw [trimmed, String.toList_eq_nil_iff] at refused
      simpa [trimmed] using refused
    · exact And.left

theorem mem_filterMap_userTag? : tag ∈ raws.filterMap userTag? ↔ Wished raws tag := by
  simp only [List.mem_filterMap, userTag?_eq_some_iff, Wished]

theorem Wished.mono (h : Wished raws tag) (more : raws ⊆ raws') : Wished raws' tag := by
  obtain ⟨raw, mem, wish⟩ := h
  exact ⟨raw, more mem, wish⟩

theorem wished_cons : Wished (raw :: raws) tag ↔ Wished [raw] tag ∨ Wished raws tag := by
  simp [Wished]

theorem not_wished_of_refused (refused : Text.trim raw.toList = [] ∨ uidTagStart.toList <+: Text.trim raw.toList) :
    ¬ Wished [raw] tag := by
  rintro ⟨_, mem, trimmed, filled, other⟩
  obtain rfl := List.mem_singleton.mp mem
  rw [trimmed.trim_eq, String.toList_eq_nil_iff] at refused
  exact refused.elim filled other

theorem Reworded.wished (h : Reworded raws raws') : Wished raws tag ↔ Wished raws' tag := by
  cases h with
  | permuted h => exact ⟨fun wish => wish.mono h.subset, fun wish => wish.mono h.symm.subset⟩
  | @repeated _ raw mem =>
    rw [wished_cons, iff_or_self]
    exact fun wish => wish.mono (by simpa using mem)
  | @padded rest raw before after blank =>
    rw [wished_cons, @wished_cons _ _ (String.ofList _)]
    simp only [Wished, List.mem_singleton, exists_eq_left, String.toList_ofList, Text.trimmed_iff,
      Text.trim_padded blank]
  | @blank _ raw blank =>
    rw [wished_cons, or_iff_right (not_wished_of_refused (.inl (Text.trim_of_blank blank)))]
  | @spoofed _ raw start trimmed uid =>
    rw [wished_cons, or_iff_right (not_wished_of_refused (.inr (trimmed.trim_eq.symm ▸ uid)))]

theorem wished_of_reworded (h : Relation.EqvGen Reworded raws raws') : Wished raws tag ↔ Wished raws' tag := by
  induction h with
  | rel _ _ step => exact step.wished
  | refl => rfl
  | symm _ _ _ ih => exact ih.symm
  | trans _ _ _ _ _ ih ih' => exact ih.trans ih'

end

namespace Metadata

variable {m m' : Metadata} {kind : Kind} {specTags specTags' : List String} {tag : String}

theorem mem_tags : tag ∈ m.tags kind specTags ↔
    tag ∈ m.identityTags kind ∨ Wished (m.annotatedTags ++ specTags) tag := by
  rw [tags, mem_tagSet, List.mem_append, userTags, mem_filterMap_userTag?, or_comm]

theorem tags_subset (same : m'.identity kind = m.identity kind)
    (more : m.annotatedTags ++ specTags ⊆ m'.annotatedTags ++ specTags') :
    m.tags kind specTags ⊆ m'.tags kind specTags' := by
  intro tag mem
  rw [mem_tags, identityTags] at mem ⊢
  rw [same]
  exact mem.imp_right fun wish => wish.mono more

/-- Two strict orders of the same tags are one. -/
theorem tags_eq (same : m'.identity kind = m.identity kind)
    (alike : ∀ tag, Wished (m.annotatedTags ++ specTags) tag ↔ Wished (m'.annotatedTags ++ specTags') tag) :
    m'.tags kind specTags' = m.tags kind specTags := by
  have strict : Std.Irrefl (α := String) (· < ·) := ⟨String.lt_irrefl⟩
  have antisymm : Std.Antisymm (α := String) (· < ·) := ⟨fun _ _ h h' => absurd h' (String.lt_asymm h)⟩
  apply (pairwise_tagSet _).eq_of_mem_iff (pairwise_tagSet _)
  intro tag
  change tag ∈ m'.tags kind specTags' ↔ tag ∈ m.tags kind specTags
  rw [mem_tags, mem_tags, identityTags, identityTags, same, alike]

/-- The tags of an object are in the strict order of their octets. They are the seven of its identity and those
that users ask for, in the pieces of the annotation and in the desired state. Other words for the same wishes,
in either place, make no difference, and a further wish takes no tag away. -/
theorem tags_canonical (m : Metadata) (kind : Kind) (specTags : List String) :
    (m.tags kind specTags).Pairwise (Text.octets · < Text.octets ·) ∧
      ∃ pieces, Annotates m.annotations pieces ∧
        (∀ tag, tag ∈ m.tags kind specTags ↔
          tag ∈ ["k8s-kind:" ++ kind.name, "k8s-name:" ++ m.nameText, "k8s-namespace:" ++ m.namespaceText,
            "k8s-uid:" ++ m.uidText, "k8s-generation:" ++ toString m.generationValue,
            "k8s-group:" ++ kind.group, "k8s-version:" ++ kind.version] ∨ Wished (pieces ++ specTags) tag) ∧
        ∀ annotations pieces' specTags', Annotates annotations pieces' →
          (Relation.EqvGen Reworded (pieces ++ specTags) (pieces' ++ specTags') →
            ({ m with annotations } : Metadata).tags kind specTags' = m.tags kind specTags) ∧
          (pieces ++ specTags ⊆ pieces' ++ specTags' →
            m.tags kind specTags ⊆ ({ m with annotations } : Metadata).tags kind specTags') := by
  refine ⟨(pairwise_tagSet _).imp Text.octets_lt_of_lt, m.annotatedTags, annotates_iff.mpr rfl,
    fun tag => mem_tags, fun annotations pieces' specTags' annotated => ?_⟩
  have given : ({ m with annotations } : Metadata).annotatedTags = pieces' := annotates_iff.mp annotated
  constructor
  · intro reworded
    exact tags_eq rfl fun tag => by rw [given, wished_of_reworded reworded]
  · intro more
    exact tags_subset rfl (given.symm ▸ more)

def annotated : Metadata := { (default : Metadata) with annotations := some [( tagsAnnotation, " , tag1")] }

/-- A tag moved to the annotation, between blanks, is the same as two of it in the desired state. -/
theorem annotated_reworded :
    Annotates annotated.annotations [" ", " tag1"] ∧
      Relation.EqvGen Reworded ["tag1", "tag1", "b"] [" ", " tag1", "b", "tag1"] ∧
      annotated.tags (.managed .upstream) ["b", "tag1"] =
        (default : Metadata).tags (.managed .upstream) ["tag1", "tag1", "b"] := by
  have written : Annotates annotated.annotations [" ", " tag1"] := annotates_iff.mpr (by decide +kernel)
  have swapped : Reworded ["tag1", "tag1", "b"] ["tag1", "b", "tag1"] := .permuted (by decide)
  have padded : Reworded ["tag1", "b", "tag1"] [" tag1", "b", "tag1"] := .padded [' '] [] (List.all_eq_true.mp rfl)
  have widened : Reworded [" tag1", "b", "tag1"] [" ", " tag1", "b", "tag1"] := .blank (List.all_eq_true.mp rfl)
  have reworded : Relation.EqvGen Reworded ["tag1", "tag1", "b"] [" ", " tag1", "b", "tag1"] :=
    .trans _ _ _ (.rel _ _ swapped) (.trans _ _ _ (.rel _ _ padded) (.rel _ _ widened))
  obtain ⟨-, pieces, none, -, other⟩ := tags_canonical default (.managed .upstream) ["tag1", "tag1", "b"]
  obtain rfl : pieces = [] := none
  exact ⟨written, reworded, (other annotated.annotations _ ["b", "tag1"] written).1 reworded⟩

end Metadata

end GatewaySync
