import Mathlib.Data.List.Basic
import WideColumn.Meta.Key

/-!
# The layout of a compound key

The rules of a compound key as they are meant: a run of partition components, then clustering
components, of which the last one alone may be reversed. `CompoundKey.fault?` checks the runs by a
count and the reversed component from the end; it finds nothing exactly in the keys that are laid
out so (`CompoundKey.fault?_eq_none_iff`).
-/

namespace WideColumn

namespace CompoundKey

variable {key : CompoundKey}

/-- A key that is laid out by the rules. -/
structure WellLaidOut (key : CompoundKey) : Prop where
  twoComponents : 2 ≤ key.components.length
  names : key.columnNames.Nodup
  /-- Partition components, at least one, then clustering components only. -/
  runs : ∃ partition clustering, key.components = partition ++ clustering ∧ partition ≠ [] ∧
    (∀ c ∈ partition, c.role = .partition) ∧ ∀ c ∈ clustering, c.role = .clustering
  /-- Nothing follows a reversed component, so there is at most one. -/
  reversed : ∀ before c after, key.components = before ++ c :: after → c.reversed = true →
    after = [] ∧ c.role = .clustering

/-! ### The runs of components -/

theorem partition_of_runs {partition clustering : List KeyComponent}
    (h : key.components = partition ++ clustering)
    (hpartition : ∀ c ∈ partition, c.role = .partition)
    (hclustering : ∀ c ∈ clustering, c.role = .clustering) : key.partition = partition := by
  have hkept : partition.filter (fun c => c.role == .partition) = partition :=
    List.filter_eq_self.2 fun c hc => by simp [hpartition c hc]
  have hdropped : clustering.filter (fun c => c.role == .partition) = [] :=
    List.filter_eq_nil_iff.2 fun c hc => by simp [hclustering c hc]
  rw [CompoundKey.partition, h, List.filter_append, hkept, hdropped, List.append_nil]

theorem clustering_of_runs {partition clustering : List KeyComponent}
    (h : key.components = partition ++ clustering)
    (hpartition : ∀ c ∈ partition, c.role = .partition)
    (hclustering : ∀ c ∈ clustering, c.role = .clustering) : key.clustering = clustering := by
  have hdropped : partition.filter (fun c => c.role == .clustering) = [] :=
    List.filter_eq_nil_iff.2 fun c hc => by simp [hpartition c hc]
  have hkept : clustering.filter (fun c => c.role == .clustering) = clustering :=
    List.filter_eq_self.2 fun c hc => by simp [hclustering c hc]
  rw [CompoundKey.clustering, h, List.filter_append, hdropped, hkept, List.nil_append]

/-- The components of a well laid out key are those of the partition, then those that order it. -/
theorem WellLaidOut.components_eq (h : key.WellLaidOut) :
    key.components = key.partition ++ key.clustering := by
  obtain ⟨partition, clustering, hcomponents, -, hpartition, hclustering⟩ := h.runs
  rw [partition_of_runs hcomponents hpartition hclustering,
    clustering_of_runs hcomponents hpartition hclustering, hcomponents]

theorem WellLaidOut.partition_ne_nil (h : key.WellLaidOut) : key.partition ≠ [] := by
  obtain ⟨partition, clustering, hcomponents, hne, hpartition, hclustering⟩ := h.runs
  rw [partition_of_runs hcomponents hpartition hclustering]
  exact hne

/-- When as many components as there are partition components lead the key, and all of these are
partition components, none is left after them. -/
theorem runs_of_count (hne : key.partition ≠ [])
    (hlead : ∀ c ∈ key.components.take key.partition.length, c.role = .partition) :
    ∃ partition clustering, key.components = partition ++ clustering ∧ partition ≠ [] ∧
      (∀ c ∈ partition, c.role = .partition) ∧ ∀ c ∈ clustering, c.role = .clustering := by
  let n := key.partition.length
  have hsplit : key.partition = (key.components.take n).filter (fun c => c.role == .partition) ++
      (key.components.drop n).filter (fun c => c.role == .partition) := by
    rw [← List.filter_append, List.take_append_drop, CompoundKey.partition]
  have hkept : (key.components.take n).filter (fun c => c.role == .partition) =
      key.components.take n :=
    List.filter_eq_self.2 fun c hc => by simp [hlead c hc]
  have hle : n ≤ key.components.length := List.length_filter_le _ _
  have hlength : n = n + ((key.components.drop n).filter fun c => c.role == .partition).length := by
    have := congrArg List.length hsplit
    rwa [hkept, List.length_append, List.length_take, Nat.min_eq_left hle] at this
  have hrest : (key.components.drop n).filter (fun c => c.role == .partition) = [] :=
    List.eq_nil_of_length_eq_zero (by omega)
  refine ⟨key.components.take n, key.components.drop n, (List.take_append_drop _ _).symm, ?_,
    hlead, fun c hc => ?_⟩
  · intro hnil
    rw [hkept, hnil, hrest] at hsplit
    exact hne hsplit
  · have hnot := List.filter_eq_nil_iff.1 hrest c hc
    cases hrole : c.role with
    | partition => simp [hrole] at hnot
    | clustering => rfl

theorem runs_iff :
    (∃ partition clustering, key.components = partition ++ clustering ∧ partition ≠ [] ∧
      (∀ c ∈ partition, c.role = .partition) ∧ ∀ c ∈ clustering, c.role = .clustering) ↔
    key.partition ≠ [] ∧
      ∀ c ∈ key.components.take key.partition.length, c.role = .partition := by
  refine ⟨?_, fun ⟨hne, hlead⟩ => runs_of_count hne hlead⟩
  rintro ⟨partition, clustering, hcomponents, hne, hpartition, hclustering⟩
  rw [partition_of_runs hcomponents hpartition hclustering, hcomponents, List.take_left]
  exact ⟨hne, hpartition⟩

/-! ### The reversed component -/

/-- Of the components read from the end, only the first may be reversed. -/
theorem reversed_iff {last : KeyComponent} {others : List KeyComponent}
    (h : key.components.reverse = last :: others) :
    (∀ before c after, key.components = before ++ c :: after → c.reversed = true →
      after = [] ∧ c.role = .clustering) ↔
    (∀ c ∈ others, c.reversed = false) ∧ (last.reversed = true → last.role = .clustering) := by
  have hcomponents : key.components = others.reverse ++ [last] := by
    rw [← List.reverse_reverse key.components, h, List.reverse_cons]
  constructor
  · intro hreversed
    refine ⟨fun c hc => Bool.eq_false_iff.2 fun htrue => ?_, fun htrue => ?_⟩
    · obtain ⟨before, after, hsplit⟩ := List.append_of_mem (List.mem_reverse.2 hc)
      have := hreversed before c (after ++ [last]) (by simp [hcomponents, hsplit]) htrue
      simp at this
    · exact (hreversed others.reverse last [] hcomponents htrue).2
  · rintro ⟨hothers, hlast⟩ before c after hsplit htrue
    rw [hsplit, List.reverse_append, List.reverse_cons, List.append_assoc] at h
    cases hafter : after.reverse with
    | nil =>
      rw [hafter] at h
      have hc : c = last := (List.cons.inj h).1
      exact ⟨List.reverse_eq_nil_iff.1 hafter, hc ▸ hlast (hc ▸ htrue)⟩
    | cons first rest =>
      rw [hafter] at h
      have hmem : c ∈ others := by simp [← (List.cons.inj h).2]
      rw [hothers c hmem] at htrue
      cases htrue

theorem length_reversed_le {last : KeyComponent} {others : List KeyComponent}
    (h : key.components.reverse = last :: others) (hothers : ∀ c ∈ others, c.reversed = false) :
    (key.components.filter KeyComponent.reversed).length ≤ 1 := by
  have hnone : others.filter KeyComponent.reversed = [] :=
    List.filter_eq_nil_iff.2 fun c hc => by simp [hothers c hc]
  rw [← List.length_reverse, ← List.filter_reverse, h, List.filter_cons, hnone]
  split <;> simp

/-! ### The check -/

/-- The check finds no fault exactly in the keys that are laid out by the rules. -/
theorem fault?_eq_none_iff : key.fault? = none ↔ key.WellLaidOut := by
  unfold fault?
  constructor
  · intro h
    split at h
    · cases h
    · next hlength =>
      split at h
      · cases h
      · next hrepeated =>
        split at h
        · cases h
        · next hpartition =>
          split at h
          · cases h
          · next hlead =>
            split at h
            · cases h
            · have hruns := runs_iff.2 ⟨by simpa using hpartition, by simpa using hlead⟩
              refine ⟨by omega, ((firstRepeated_eq_none_iff _ _).1 hrepeated).1, hruns, ?_⟩
              cases hreverse : key.components.reverse with
              | nil => simp [List.reverse_eq_nil_iff.1 hreverse] at hlength
              | cons last others =>
                rw [hreverse] at h
                dsimp only at h
                refine (reversed_iff hreverse).2 ?_
                split at h
                · cases h
                · next hothers =>
                  split at h
                  · cases h
                  · next hlast => exact ⟨by simpa using hothers, by simpa using hlast⟩
  · intro h
    obtain ⟨hne, hlead⟩ := runs_iff.1 h.runs
    have hrepeated : firstRepeated [] key.columnNames = none :=
      (firstRepeated_eq_none_iff _ _).2 ⟨h.names, by simp⟩
    have hlead' : (key.components.take key.partition.length).any (fun c => c.role != .partition)
        = false := by simpa using hlead
    rw [if_neg (by have := h.twoComponents; omega), hrepeated]
    dsimp only
    rw [if_neg (by simpa using hne), if_neg (by simp [hlead'])]
    cases hreverse : key.components.reverse with
    | nil => simp [List.reverse_eq_nil_iff.1 hreverse]
    | cons last others =>
      obtain ⟨hothers, hlast⟩ := (reversed_iff hreverse).1 h.reversed
      rw [if_neg (by have := length_reversed_le hreverse hothers; omega)]
      dsimp only
      rw [if_neg (by simpa using hothers), if_neg (by simpa using hlast)]

end CompoundKey

end WideColumn
