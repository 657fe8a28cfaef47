import Mathlib.Data.List.Induction
import Mathlib.Data.String.Basic
import WideColumn.Json.Reader

/-!
# The form in which documents are held

Objects hold their fields in the order of their names, with no name twice. Bringing a document into
this form once is enough (`canonical_canonical`), and what is read is in it (`canonical_of_read`).
-/

namespace WideColumn.Json

/-- Whether fields are in the order of their names, with no name twice. -/
abbrev Sorted (fields : List (String × Json)) : Prop :=
  fields.Pairwise fun f g => f.1 < g.1

theorem mem_insertField {name : String} {value : Json} {fields : List (String × Json)}
    {f : String × Json} (h : f ∈ insertField name value fields) :
    f = (name, value) ∨ f ∈ fields := by
  fun_induction insertField name value fields with grind

theorem sorted_insertField (name : String) (value : Json) {fields : List (String × Json)}
    (h : Sorted fields) : Sorted (insertField name value fields) := by
  fun_induction insertField name value fields with
  | case1 => exact List.pairwise_singleton _ _
  | case2 k v rest hlt =>
    obtain ⟨hhead, -⟩ := List.pairwise_cons.1 h
    refine List.pairwise_cons.2 ⟨fun f hf => ?_, h⟩
    obtain rfl | hf := List.mem_cons.1 hf
    · exact hlt
    · exact hlt.trans (hhead f hf)
  | case3 v rest =>
    exact List.pairwise_cons.2 (List.pairwise_cons.1 h)
  | case4 k v rest hlt hne ih =>
    obtain ⟨hhead, hrest⟩ := List.pairwise_cons.1 h
    refine List.pairwise_cons.2 ⟨fun f hf => ?_, ih hrest⟩
    obtain rfl | hf := mem_insertField hf
    · exact lt_of_le_of_ne (not_lt.1 hlt) (Ne.symm hne)
    · exact hhead f hf

theorem insertField_of_forall_lt {name : String} {value : Json} {fields : List (String × Json)}
    (h : ∀ f ∈ fields, f.1 < name) : insertField name value fields = fields ++ [(name, value)] := by
  induction fields with
  | nil => rfl
  | cons f fields ih =>
    obtain ⟨hf, hfields⟩ := List.forall_mem_cons.1 h
    simp [insertField, not_lt.2 hf.le, ne_of_gt hf, ih hfields]

/-- Sorting leaves sorted fields as they are. -/
theorem sortFields_of_sorted {fields : List (String × Json)} (h : Sorted fields) :
    sortFields fields = fields := by
  unfold sortFields
  induction fields using List.reverseRecOn with
  | nil => rfl
  | append_singleton fields f ih =>
    obtain ⟨hfields, -, hlt⟩ := List.pairwise_append.1 h
    rw [List.foldl_append, ih hfields, List.foldl_cons, List.foldl_nil]
    exact insertField_of_forall_lt fun g hg => hlt g hg f (List.mem_singleton_self f)

theorem sortFields_append_singleton (fields : List (String × Json)) (f : String × Json) :
    sortFields (fields ++ [f]) = insertField f.1 f.2 (sortFields fields) := by
  rw [sortFields, List.foldl_append]
  rfl

theorem sorted_sortFields (fields : List (String × Json)) : Sorted (sortFields fields) := by
  induction fields using List.reverseRecOn with
  | nil => exact List.Pairwise.nil
  | append_singleton fields f ih =>
    rw [sortFields_append_singleton]
    exact sorted_insertField f.1 f.2 ih

theorem mem_of_mem_sortFields {fields : List (String × Json)} {f : String × Json}
    (h : f ∈ sortFields fields) : f ∈ fields := by
  induction fields using List.reverseRecOn with
  | nil => exact h
  | append_singleton fields g ih =>
    rw [sortFields_append_singleton] at h
    obtain rfl | h := mem_insertField h
    · exact List.mem_append_right fields (List.mem_singleton_self _)
    · exact List.mem_append_left _ (ih h)

theorem canonicalFields_of_forall {fields : List (String × Json)}
    (h : ∀ f ∈ fields, f.2.canonical = f.2) : canonicalFields fields = fields := by
  induction fields with
  | nil => rw [canonicalFields]
  | cons f fields ih =>
    obtain ⟨hf, hfields⟩ := List.forall_mem_cons.1 h
    rw [canonicalFields, hf, ih hfields]

mutual

/-- The canonical form of a document is canonical. -/
theorem canonical_canonical : ∀ j : Json, j.canonical.canonical = j.canonical
  | .arr items => by
    rw [canonical, canonical, canonicalItems_canonicalItems items]
  | .obj fields => by
    have hmem := fun f hf => canonical_of_mem_canonicalFields fields f (mem_of_mem_sortFields hf)
    rw [canonical, canonical, canonicalFields_of_forall hmem,
      sortFields_of_sorted (sorted_sortFields _)]
  | .null | .bool _ | .int _ | .float _ | .str _ => by simp only [canonical]

theorem canonicalItems_canonicalItems : ∀ items : List Json,
    canonicalItems (canonicalItems items) = canonicalItems items
  | [] => by simp only [canonicalItems]
  | j :: items => by
    simp only [canonicalItems, canonical_canonical j, canonicalItems_canonicalItems items]

theorem canonical_of_mem_canonicalFields : ∀ (fields : List (String × Json)) (f : String × Json),
    f ∈ canonicalFields fields → f.2.canonical = f.2
  | [], _, h => by simp [canonicalFields] at h
  | (name, j) :: fields, f, h => by
    rw [canonicalFields, List.mem_cons] at h
    obtain rfl | h := h
    · exact canonical_canonical j
    · exact canonical_of_mem_canonicalFields fields f h

end

/-- What is read is in the form in which documents are held. -/
theorem canonical_of_read {s : String} {j : Json} (h : read s = some j) : j.canonical = j := by
  obtain ⟨k, -, rfl⟩ := Option.map_eq_some_iff.1 h
  exact canonical_canonical k

end WideColumn.Json
