import GatewaySync.Resource.Tags
import Mathlib.Tactic.SplitIfs
/-!
# Lists in order

Tag sets and maps are lists in strictly increasing order. An insertion keeps the order and decides about
one element, or about the value of one key. What is in order comes out of its own insertion as it was.
-/
namespace GatewaySync

theorem lt_of_not_lt {a b : String} (other : a ≠ b) (h : ¬ a < b) : b < a :=
  Decidable.byContradiction fun h' =>
    other (String.le_antisymm (String.not_lt.mp h') (String.not_lt.mp h))

section

variable {t tag : String} {set : List String}

theorem mem_insertTag : t ∈ insertTag tag set ↔ t = tag ∨ t ∈ set := by
  induction set with
  | nil => simp [insertTag]
  | cons x rest ih =>
    unfold insertTag
    split_ifs with same less
    · subst same
      simp
    · simp
    · simp only [List.mem_cons, ih]
      exact or_left_comm

theorem mem_foldl_insertTag (tags set : List String) :
    t ∈ tags.foldl (fun set tag => insertTag tag set) set ↔ t ∈ tags ∨ t ∈ set := by
  induction tags generalizing set with
  | nil => simp
  | cons tag rest ih =>
    rw [List.foldl_cons, ih, mem_insertTag, List.mem_cons, or_left_comm, or_assoc]

theorem mem_tagSet {tags : List String} : t ∈ tagSet tags ↔ t ∈ tags := by
  rw [tagSet, mem_foldl_insertTag]
  simp

theorem pairwise_insertTag (tag : String) (h : set.Pairwise (· < ·)) :
    (insertTag tag set).Pairwise (· < ·) := by
  induction set with
  | nil => simp [insertTag]
  | cons x rest ih =>
    obtain ⟨first, later⟩ := List.pairwise_cons.mp h
    unfold insertTag
    split_ifs with same less
    · exact h
    · refine List.pairwise_cons.mpr ⟨?_, h⟩
      intro y hy
      rcases List.mem_cons.mp hy with rfl | hy
      · exact less
      · exact String.lt_trans less (first y hy)
    · refine List.pairwise_cons.mpr ⟨?_, ih later⟩
      intro y hy
      rcases mem_insertTag.mp hy with rfl | hy
      · exact lt_of_not_lt same less
      · exact first y hy

/-- A tag set is in order and repeats nothing. -/
theorem pairwise_tagSet (tags : List String) : (tagSet tags).Pairwise (· < ·) := by
  suffices h : ∀ set : List String, set.Pairwise (· < ·) →
      (tags.foldl (fun set tag => insertTag tag set) set).Pairwise (· < ·) from h [] .nil
  induction tags with
  | nil => exact fun _ h => h
  | cons tag rest ih => exact fun set h => ih _ (pairwise_insertTag tag h)

theorem eq_singleton_of_pairwise (h : set.Pairwise (· < ·)) (only : ∀ t, t ∈ set ↔ t = tag) :
    set = [tag] := by
  cases set with
  | nil => simpa using only tag
  | cons x rest =>
    obtain ⟨first, -⟩ := List.pairwise_cons.mp h
    obtain rfl : x = tag := (only x).mp List.mem_cons_self
    cases rest with
    | nil => rfl
    | cons y _ =>
      have same : y = x := (only y).mp (by simp)
      have less : x < y := first y List.mem_cons_self
      exact absurd (same ▸ less) (String.lt_irrefl x)

end

def InKeyOrder {α : Type} (l : List (String × α)) : Prop := l.Pairwise (·.1 < ·.1)

section

open Json.Decoder (insertSorted)

variable {α : Type} {k : String} {v : α} {e : String × α} {l : List (String × α)}

theorem find?_insertSorted {α : Type} (k key : String) (value : α) (l : List (String × α)) :
    ((insertSorted k value l).find? (·.1 = key)).map (·.2) =
      if k = key then some value else (l.find? (·.1 = key)).map (·.2) := by
  induction l with
  | nil => by_cases h : k = key <;> simp [insertSorted, h]
  | cons e rest ih =>
    obtain ⟨k', v⟩ := e
    rw [insertSorted]
    by_cases same : k = k'
    · subst same
      by_cases h : k = key <;> simp [h]
    · rw [if_neg same]
      by_cases less : k < k'
      · rw [if_pos less]
        by_cases h : k = key <;> simp [h]
      · rw [if_neg less, List.find?_cons]
        by_cases h : k' = key
        · have other : k ≠ key := fun hk => same (hk.trans h.symm)
          simp [h, other]
        · simpa [h] using ih

theorem mem_insertSorted (h : e ∈ insertSorted k v l) : e.1 = k ∨ e ∈ l := by
  induction l with
  | nil => simp_all [insertSorted]
  | cons d rest ih =>
    rw [insertSorted] at h
    split_ifs at h <;> simp only [List.mem_cons] at h ⊢
    · rcases h with rfl | h
      · exact .inl rfl
      · exact .inr (.inr h)
    · rcases h with rfl | h
      · exact .inl rfl
      · exact .inr h
    · rcases h with h | h
      · exact .inr (.inl h)
      · exact (ih h).imp_right .inr

theorem InKeyOrder.insertSorted (h : InKeyOrder l) (k : String) (v : α) :
    InKeyOrder (insertSorted k v l) := by
  induction l with
  | nil => simp [InKeyOrder, Json.Decoder.insertSorted]
  | cons d rest ih =>
    obtain ⟨first, later⟩ := List.pairwise_cons.mp h
    rw [Json.Decoder.insertSorted]
    split_ifs with same less
    · subst same
      exact later.cons first
    · refine List.pairwise_cons.mpr ⟨?_, h⟩
      intro e he
      rcases List.mem_cons.mp he with rfl | he
      · exact less
      · exact String.lt_trans less (first e he)
    · refine List.pairwise_cons.mpr ⟨?_, ih later⟩
      intro e he
      rcases mem_insertSorted he with same' | he
      · rw [same']
        exact lt_of_not_lt same less
      · exact first e he

theorem InKeyOrder.foldl_insertSorted (h : InKeyOrder l) (added : List (String × α)) :
    InKeyOrder (added.foldl (fun l e => Json.Decoder.insertSorted e.1 e.2 l) l) := by
  induction added generalizing l with
  | nil => exact h
  | cons e rest ih => exact ih (h.insertSorted e.1 e.2)

theorem insertSorted_of_last (h : ∀ e ∈ l, e.1 < k) : insertSorted k v l = l ++ [(k, v)] := by
  induction l with
  | nil => rfl
  | cons d rest ih =>
    obtain ⟨first, later⟩ := List.forall_mem_cons.mp h
    rw [insertSorted, if_neg (fun same : k = d.1 => String.lt_irrefl d.1 (same ▸ first)),
      if_neg (fun less => String.lt_irrefl k (String.lt_trans less first)), ih later]
    rfl

/-- A map in order comes out of its own insertion. -/
theorem foldl_insertSorted_of_inKeyOrder {m : List (String × α)} (h : InKeyOrder (l ++ m)) :
    m.foldl (fun l e => insertSorted e.1 e.2 l) l = l ++ m := by
  induction m generalizing l with
  | nil => simp
  | cons e rest ih =>
    have last : ∀ d ∈ l, d.1 < e.1 := fun d hd =>
      (List.pairwise_append.mp h).2.2 d hd e List.mem_cons_self
    have shifted : l ++ [(e.1, e.2)] ++ rest = l ++ e :: rest := by simp
    rw [List.foldl_cons, insertSorted_of_last last, ih (shifted.symm ▸ h), shifted]

end

end GatewaySync
