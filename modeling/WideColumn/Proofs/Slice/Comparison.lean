import WideColumn.Proofs.Operation.Run
import WideColumn.Query.SliceQuery

/-!
# Comparisons of a slice

What a slice asks of a row, as comparisons of columns with values: the fixed columns, then the two
ends of the varying one. `select_eq_ok_iff` and `delete_eq_ok_iff` say which slices have a
statement, and that its condition is the text of these comparisons.
-/

namespace WideColumn

open Op

/-- A column compared with a value. -/
structure Comparison where
  column : String
  relation : Relation
  value : Value

/-- The comparison as a part of a statement. -/
def Comparison.predicate (c : Comparison) : Predicate := .ofValue c.column c.relation c.value

namespace SliceSpec

variable {spec : SliceSpec} {s : SliceStatement}

/-- Every fixed column equals its value, in declared order. -/
def fixedComparisons (spec : SliceSpec) : List Comparison :=
  spec.fixed.map fun (column, v) => ⟨column, .eq, v⟩

/-- A column compared with the ends of a range that are set, the start first. -/
def bounds (ordering : Direction) (bounding : Bounding) (column : String)
    (start stop : Option Value) : List Comparison :=
  (start.map fun v => ⟨column, startRelation ordering bounding, v⟩).toList ++
    (stop.map fun v => ⟨column, stopRelation ordering bounding, v⟩).toList

/-- The comparisons of the varying column. -/
def rangeComparisons (spec : SliceSpec) : List Comparison :=
  spec.varying.toList.flatMap fun column =>
    bounds spec.ordering spec.bounding column spec.start spec.stop

/-- All comparisons of a slice. -/
def comparisons (spec : SliceSpec) : List Comparison :=
  spec.fixedComparisons ++ spec.rangeComparisons

/-- What a slice needs in order to be deleted. -/
structure Deletable (spec : SliceSpec) : Prop where
  table : Text.isBlank spec.table = false
  nonempty : spec.fixed ≠ []
  fixed : ∀ column v, (column, v) ∈ spec.fixed → Text.isBlank column = false ∧ v.isNull = false

/-- What a slice needs in order to be read: a name for the varying column too, if an end is set. -/
structure Selectable (spec : SliceSpec) : Prop extends Deletable spec where
  varying : spec.start.isSome ∨ spec.stop.isSome →
    ∃ column, spec.varying = some column ∧ Text.isBlank column = false

/-- The read with the comparisons as its condition. -/
def selection (spec : SliceSpec) : SliceStatement :=
  let clause : WhereClause := spec.comparisons.map Comparison.predicate
  { query :=
      s!"SELECT {Template.columnsOrStar spec.columns} FROM {spec.table} WHERE {WhereClause.text clause}" ++
        spec.tail ++ ";"
    predicate := WhereClause.text clause
    values := WhereClause.values clause
    fetchSize := spec.batchSize }

/-- The delete with the comparisons of the fixed columns as its condition. -/
def deletion (spec : SliceSpec) : SliceStatement :=
  let clause : WhereClause := spec.fixedComparisons.map Comparison.predicate
  { query := s!"DELETE FROM {spec.table} WHERE {WhereClause.text clause};"
    predicate := WhereClause.text clause
    values := WhereClause.values clause
    fetchSize := none }

section

variable {ordering : Direction} {bounding : Bounding} {column : String} {start stop : Option Value}

theorem of_mem_bounds {c : Comparison} (h : c ∈ bounds ordering bounding column start stop) :
    c.column = column ∧ (start.isSome ∨ stop.isSome) := by
  rcases List.mem_append.1 h with h | h
  · obtain ⟨v, hv, rfl⟩ := Option.map_eq_some_iff.1 (Option.mem_toList.1 h)
    exact ⟨rfl, .inl (by simp [hv])⟩
  · obtain ⟨v, hv, rfl⟩ := Option.map_eq_some_iff.1 (Option.mem_toList.1 h)
    exact ⟨rfl, .inr (by simp [hv])⟩

theorem exists_mem_bounds (h : start.isSome ∨ stop.isSome) :
    ∃ c ∈ bounds ordering bounding column start stop, c.column = column := by
  rcases h with h | h
  · obtain ⟨v, rfl⟩ := Option.isSome_iff_exists.1 h
    exact ⟨⟨column, startRelation ordering bounding, v⟩, by simp [bounds], rfl⟩
  · obtain ⟨v, rfl⟩ := Option.isSome_iff_exists.1 h
    exact ⟨⟨column, stopRelation ordering bounding, v⟩, by simp [bounds], rfl⟩

end

/-! ### The two parts of the condition -/

theorem fixedFault?_eq_none {table column : String} {v : Value} :
    fixedFault? table column v = none ↔ Text.isBlank column = false ∧ v.isNull = false := by
  unfold fixedFault?
  cases Text.isBlank column <;> cases v.isNull <;> simp

/-- A run over a list, each item of which fails or gives its image, gives the images exactly if no
item fails. -/
theorem mapM_eq_ok_iff {α β ε : Type} {f : α → Except ε β} {g : α → β} {P : α → Prop}
    (hf : ∀ a b, f a = .ok b ↔ P a ∧ b = g a) (xs : List α) (ys : List β) :
    xs.mapM f = .ok ys ↔ (∀ x ∈ xs, P x) ∧ ys = xs.map g := by
  induction xs generalizing ys with
  | nil =>
    rw [List.mapM_nil]
    constructor
    · intro h
      exact ⟨by simp, (Except.ok.inj h).symm⟩
    · rintro ⟨-, rfl⟩
      rfl
  | cons x xs ih =>
    rw [List.mapM_cons, List.forall_mem_cons]
    constructor
    · intro h
      obtain ⟨y, hy, h⟩ := except_bind_eq_ok h
      obtain ⟨rest, hrest, h⟩ := except_bind_eq_ok h
      obtain ⟨hx, rfl⟩ := (hf x y).1 hy
      obtain ⟨hxs, rfl⟩ := (ih rest).1 hrest
      exact ⟨⟨hx, hxs⟩, (Except.ok.inj h).symm⟩
    · rintro ⟨⟨hx, hxs⟩, rfl⟩
      rw [(hf x _).2 ⟨hx, rfl⟩, (ih _).2 ⟨hxs, rfl⟩]
      rfl

theorem fixedClause_eq_ok_iff {clause : WhereClause} :
    spec.fixedClause = .ok clause ↔
      spec.Deletable ∧ clause = spec.fixedComparisons.map Comparison.predicate := by
  have hmap : spec.fixedComparisons.map Comparison.predicate =
      spec.fixed.map fun f => .ofValue f.1 .eq f.2 := by
    rw [fixedComparisons, List.map_map]
    rfl
  unfold fixedClause
  cases htable : Text.isBlank spec.table with
  | true =>
    simp only [↓reduceIte, reduceCtorEq, false_iff, not_and]
    intro h
    rw [h.table] at htable
    cases htable
  | false =>
    cases hfixed : spec.fixed.isEmpty with
    | true =>
      simp only [Bool.false_eq_true, ↓reduceIte, reduceCtorEq, false_iff, not_and]
      intro h
      exact absurd (List.isEmpty_iff.1 hfixed) h.nonempty
    | false =>
      simp only [Bool.false_eq_true, ↓reduceIte]
      have hnonempty : spec.fixed ≠ [] := by simpa using hfixed
      rw [hmap]
      have hdeletable : spec.Deletable ↔
          ∀ f ∈ spec.fixed, Text.isBlank f.1 = false ∧ f.2.isNull = false :=
        ⟨fun h f hmem => h.fixed f.1 f.2 hmem,
          fun h => ⟨htable, hnonempty, fun column v hmem => h (column, v) hmem⟩⟩
      rw [hdeletable]
      apply mapM_eq_ok_iff
      intro f p
      rw [← @fixedFault?_eq_none spec.table f.1 f.2]
      cases fixedFault? spec.table f.1 f.2 with
      | some fault => simp
      | none => simp only [Except.ok.injEq, true_and, eq_comm]

theorem rangeClause_eq_ok_iff {clause : WhereClause} :
    spec.rangeClause = .ok clause ↔
      (spec.start.isSome ∨ spec.stop.isSome →
        ∃ column, spec.varying = some column ∧ Text.isBlank column = false) ∧
      clause = spec.rangeComparisons.map Comparison.predicate := by
  unfold rangeClause
  by_cases hends : spec.start.isSome ∨ spec.stop.isSome
  · have hset : (spec.start.isNone && spec.stop.isNone) = false := by
      rcases hends with h | h <;> simp [Option.isNone_eq_false_iff.2 h]
    rw [hset, if_neg Bool.false_ne_true, imp_iff_right hends]
    cases hvarying : spec.varying with
    | none => simp
    | some column =>
      cases hblank : Text.isBlank column with
      | true => simp [Option.filter, hblank]
      | false =>
        have hmap : spec.rangeComparisons.map Comparison.predicate =
            (spec.start.map (Predicate.ofValue column
                (startRelation spec.ordering spec.bounding))).toList ++
              (spec.stop.map (Predicate.ofValue column
                (stopRelation spec.ordering spec.bounding))).toList := by
          rw [rangeComparisons, hvarying]
          cases spec.start <;> cases spec.stop <;> rfl
        rw [hmap]
        simp only [Option.filter, hblank, Bool.not_false, ↓reduceIte, Except.ok.injEq,
          Option.some.injEq, exists_eq_left', true_and]
        exact eq_comm
  · obtain ⟨hstart, hstop⟩ := not_or.1 hends
    rw [Option.not_isSome_iff_eq_none] at hstart hstop
    have hnone : spec.rangeComparisons = [] := by
      rw [rangeComparisons, hstart, hstop]
      cases spec.varying <;> rfl
    rw [hnone, hstart, hstop]
    simp only [Option.isNone_none, Bool.and_self, ↓reduceIte, Except.ok.injEq, Option.isSome_none,
      Bool.false_eq_true, or_self, false_implies, List.map_nil, true_and]
    exact eq_comm

/-! ### The statements -/

/-- A slice has a read exactly if it is selectable; the condition is that of its comparisons. -/
theorem select_eq_ok_iff : spec.select = .ok s ↔ spec.Selectable ∧ s = spec.selection := by
  unfold select selection comparisons
  rw [List.map_append]
  constructor
  · intro h
    obtain ⟨fixed, hfixed, h⟩ := except_bind_eq_ok h
    obtain ⟨range, hrange, h⟩ := except_bind_eq_ok h
    obtain ⟨hdeletable, rfl⟩ := fixedClause_eq_ok_iff.1 hfixed
    obtain ⟨hvarying, rfl⟩ := rangeClause_eq_ok_iff.1 hrange
    exact ⟨⟨hdeletable, hvarying⟩, (Except.ok.inj h).symm⟩
  · rintro ⟨⟨hdeletable, hvarying⟩, rfl⟩
    rw [fixedClause_eq_ok_iff.2 ⟨hdeletable, rfl⟩, rangeClause_eq_ok_iff.2 ⟨hvarying, rfl⟩]
    rfl

/-- A slice has a delete exactly if it is deletable; its ends play no part. -/
theorem delete_eq_ok_iff : spec.delete = .ok s ↔ spec.Deletable ∧ s = spec.deletion := by
  unfold delete deletion
  constructor
  · intro h
    obtain ⟨clause, hclause, h⟩ := except_bind_eq_ok h
    obtain ⟨hdeletable, rfl⟩ := fixedClause_eq_ok_iff.1 hclause
    exact ⟨hdeletable, (Except.ok.inj h).symm⟩
  · rintro ⟨hdeletable, rfl⟩
    rw [fixedClause_eq_ok_iff.2 ⟨hdeletable, rfl⟩]
    rfl

end SliceSpec

/-- Whatever is wrong with a slice of columns is an error of the configuration. -/
theorem SliceFault.isConfig_toError (fault : SliceFault) : fault.toError.isConfig = true := by
  cases fault <;> rfl

end WideColumn
