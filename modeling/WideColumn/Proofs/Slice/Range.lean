import WideColumn.Proofs.Marker.Columns
import WideColumn.Proofs.Slice.Order

/-!
# The range of a slice

A slice query splits its two lists of clustering values into a common prefix, which becomes fixed,
and at most one varying column. The rows that satisfy the comparisons are those of the partition in
the lexicographic range between the two lists (`SliceQuery.range_contract`). Only lists that are
equal have no varying column, so the bounding does not matter for them.
-/

namespace WideColumn

/-- The clustering columns of a slice, and the values at which it starts and ends. -/
structure ClusteringRange where
  columns : List String
  ordering : Direction
  bounding : Bounding
  start : List Value
  stop : List Value

namespace ClusteringRange

/-- The lists have at most one value each after their common prefix, and not more values than there
are columns. -/
structure IsNear (r : ClusteringRange) : Prop where
  start : r.start.length ≤ commonLength r.start r.stop + 1
  stop : r.stop.length ≤ commonLength r.start r.stop + 1
  startColumns : r.start.length ≤ r.columns.length
  stopColumns : r.stop.length ≤ r.columns.length

/-- The comparisons of the clustering columns. -/
def comparisons (r : ClusteringRange) : List Comparison :=
  let common := commonLength r.start r.stop
  let start := r.start[common]?
  let stop := r.stop[common]?
  let varying := if start.isSome || stop.isSome then r.columns[common]? else none
  (r.columns.zip (r.start.take common)).map (fun (column, v) => ⟨column, .eq, v⟩) ++
    varying.toList.flatMap fun column =>
      SliceSpec.bounds r.ordering r.bounding column start stop

section

variable (order : String → ValueOrder) (row : String → Value)

/-- The row is not before the start of the range. -/
def AfterStart (r : ClusteringRange) : Prop :=
  Respects order row r.ordering r.bounding.includesStart r.columns r.start

/-- The row is not past the end of the range. -/
def BeforeStop (r : ClusteringRange) : Prop :=
  Respects order row r.ordering.opposite r.bounding.includesEnd r.columns r.stop

/-- The row lies between the two ends. -/
def Between (r : ClusteringRange) : Prop := r.AfterStart order row ∧ r.BeforeStop order row

/-- One of the two lists is a proper part of the other one, and not empty. -/
def IsNested (r : ClusteringRange) : Prop :=
  r.start.length ≠ r.stop.length ∧ r.start ≠ [] ∧ r.stop ≠ []

instance (r : ClusteringRange) : Decidable r.IsNested :=
  decidable_of_iff (r.start.length ≠ r.stop.length ∧ r.start.isEmpty = false ∧
    r.stop.isEmpty = false) (by simp [IsNested])

/-- The range, for lists that are near: between the two ends, or with the values of the shorter
list and within the bound that the longer one is. -/
def Spans (r : ClusteringRange) : Prop :=
  if r.IsNested then
    if r.start.length < r.stop.length then
      Agrees row r.columns r.start ∧ r.BeforeStop order row
    else
      Agrees row r.columns r.stop ∧ r.AfterStart order row
  else r.Between order row

/-- The rows of the range. Equal lists are a common prefix without anything after it, whatever the
bounding. -/
def Contains (r : ClusteringRange) : Prop :=
  if r.start == r.stop then Agrees row r.columns r.start else r.Spans order row

end

/-! ### The common prefix -/

section

variable {order : String → ValueOrder} {row : String → Value} {column : String}
  {columns : List String} {ordering : Direction} {bounding : Bounding} {a b : Value}
  {start stop : List Value}

theorem comparisons_cons (hab : (a == b) = true) :
    comparisons ⟨column :: columns, ordering, bounding, a :: start, b :: stop⟩ =
      ⟨column, .eq, a⟩ :: comparisons ⟨columns, ordering, bounding, start, stop⟩ := by
  simp [comparisons, commonLength, hab]

theorem isNested_cons :
    IsNested ⟨column :: columns, ordering, bounding, a :: start, b :: stop⟩ ↔
      start.length ≠ stop.length := by
  simp [IsNested]

theorem IsNear.tail (hab : (a == b) = true)
    (h : IsNear ⟨column :: columns, ordering, bounding, a :: start, b :: stop⟩) :
    IsNear ⟨columns, ordering, bounding, start, stop⟩ := by
  obtain ⟨hstart, hstop, hcolumns, hcolumns'⟩ := h
  simp only [commonLength, hab, ↓reduceIte, List.length_cons] at hstart hstop hcolumns hcolumns'
  constructor <;> simp only <;> omega

/-- Lists that begin with different values have no more values. -/
theorem IsNear.nil_of_not_beq (hab : ¬ (a == b) = true)
    (h : IsNear ⟨columns, ordering, bounding, a :: start, b :: stop⟩) : start = [] ∧ stop = [] := by
  obtain ⟨hstart, hstop, -, -⟩ := h
  simpa [commonLength, hab] using And.intro hstart hstop

/-- The shorter one of two nested lists is their common prefix. -/
theorem IsNear.commonLength_eq {r : ClusteringRange} (h : r.IsNear) (hnested : r.IsNested) :
    commonLength r.start r.stop = min r.start.length r.stop.length := by
  have hle : ∀ xs ys : List Value,
      commonLength xs ys ≤ xs.length ∧ commonLength xs ys ≤ ys.length := by
    intro xs
    induction xs with
    | nil => simp [commonLength]
    | cons x xs ih =>
      intro ys
      cases ys with
      | nil => simp [commonLength]
      | cons y ys =>
        have hrest := ih ys
        by_cases hxy : (x == y) = true
        · simp [commonLength, hxy, hrest]
        · simp [commonLength, hxy]
  have hcommon := hle r.start r.stop
  have hlength := hnested.1
  have hstart := h.start
  have hstop := h.stop
  omega

variable (ha : (order column).places a) (hb : (order column).places b)
  (hrow : (order column).places (row column)) (hab : (a == b) = true)
include ha hb hrow hab

/-- A row that has the first common value is in the range exactly if it is in the range of the
remaining columns. -/
theorem contains_cons_of_beq (hx : (row column == a) = true) :
    Contains order row ⟨column :: columns, ordering, bounding, a :: start, b :: stop⟩ ↔
      Contains order row ⟨columns, ordering, bounding, start, stop⟩ := by
  have hx' : (row column == b) = true := ValueOrder.beq_trans ha hb hrow hab hx
  have hafter : start ≠ [] →
      (AfterStart order row ⟨column :: columns, ordering, bounding, a :: start, b :: stop⟩ ↔
        AfterStart order row ⟨columns, ordering, bounding, start, stop⟩) :=
    respects_cons_of_beq ha hrow hx
  have hbefore : stop ≠ [] →
      (BeforeStop order row ⟨column :: columns, ordering, bounding, a :: start, b :: stop⟩ ↔
        BeforeStop order row ⟨columns, ordering, bounding, start, stop⟩) :=
    respects_cons_of_beq hb hrow hx'
  simp only [Contains, List.cons_beq_cons, hab, Bool.true_and, agrees_cons, hx, true_and]
  by_cases hequal : (start == stop) = true
  · simp only [hequal, ↓reduceIte]
  simp only [hequal, Spans, isNested_cons]
  by_cases hlength : start.length = stop.length
  · -- equally many values: neither list is empty, as the lists differ
    have hstart : start ≠ [] := by
      rintro rfl
      exact hequal (by simp [List.length_eq_zero_iff.1 hlength.symm])
    have hstop : stop ≠ [] := by
      rintro rfl
      exact hstart (List.length_eq_zero_iff.1 hlength)
    have hflat : ¬ IsNested ⟨columns, ordering, bounding, start, stop⟩ := fun h => h.1 hlength
    simp only [hlength, ne_eq, not_true_eq_false, hflat, ↓reduceIte, Between, hafter hstart,
      hbefore hstop]
  · simp only [hlength, ne_eq, not_false_eq_true, ↓reduceIte, agrees_cons, hx, hx', true_and,
      List.length_cons, Nat.add_lt_add_iff_right]
    cases start with
    | nil =>
      have hstop : stop ≠ [] := by
        rintro rfl
        exact hlength rfl
      have hflat : ¬ IsNested ⟨columns, ordering, bounding, [], stop⟩ := fun h => h.2.1 rfl
      simp [hflat, Between, AfterStart, hbefore hstop, List.length_pos_iff.2 hstop]
    | cons x start =>
      cases stop with
      | nil =>
        have hflat : ¬ IsNested ⟨columns, ordering, bounding, x :: start, []⟩ :=
          fun h => h.2.2 rfl
        simp [hflat, Between, BeforeStop, hafter]
      | cons y stop =>
        have hnested : IsNested ⟨columns, ordering, bounding, x :: start, y :: stop⟩ :=
          ⟨hlength, List.cons_ne_nil _ _, List.cons_ne_nil _ _⟩
        simp only [hnested, ↓reduceIte, hafter (List.cons_ne_nil _ _),
          hbefore (List.cons_ne_nil _ _)]

/-- A row of the range has the first common value. -/
theorem beq_of_contains
    (h : Contains order row ⟨column :: columns, ordering, bounding, a :: start, b :: stop⟩) :
    (row column == a) = true := by
  have hba : (b == a) = true := (ValueOrder.beq_comm ha hb).1 hab
  unfold Contains Spans at h
  dsimp only at h
  split at h
  · exact (agrees_cons.1 h).1
  · split at h
    · split at h
      · exact (agrees_cons.1 h.1).1
      · exact ValueOrder.beq_trans hb ha hrow hba (agrees_cons.1 h.1).1
    · exact beq_of_respects ha hrow hb hab h.1 h.2

theorem contains_cons :
    Contains order row ⟨column :: columns, ordering, bounding, a :: start, b :: stop⟩ ↔
      (row column == a) = true ∧
        Contains order row ⟨columns, ordering, bounding, start, stop⟩ := by
  constructor
  · intro h
    have hx := beq_of_contains ha hb hrow hab h
    exact ⟨hx, (contains_cons_of_beq ha hb hrow hab hx).1 h⟩
  · rintro ⟨hx, h⟩
    exact (contains_cons_of_beq ha hb hrow hab hx).2 h

end

/-! ### The varying column -/

section

variable {order : String → ValueOrder} {row : String → Value} {column : String}
  {columns : List String} {ordering : Direction} {bounding : Bounding} {a b : Value}
  (hrow : (order column).places (row column))
include hrow

/-- Both ends are set and differ. -/
theorem holds_comparisons_iff_of_not_beq (ha : (order column).places a)
    (hb : (order column).places b) (hab : ¬ (a == b) = true) :
    (∀ c ∈ comparisons ⟨column :: columns, ordering, bounding, [a], [b]⟩, c.Holds order row) ↔
      Contains order row ⟨column :: columns, ordering, bounding, [a], [b]⟩ := by
  have hflat : ¬ IsNested ⟨column :: columns, ordering, bounding, [a], [b]⟩ := fun h => h.1 rfl
  simp [comparisons, commonLength, hab, SliceSpec.bounds, Contains, Spans, hflat, Between,
    AfterStart, BeforeStop, respects_singleton, holds_startRelation ha hrow,
    holds_stopRelation hb hrow]

/-- The start alone is set. -/
theorem holds_comparisons_iff_of_start (ha : (order column).places a) :
    (∀ c ∈ comparisons ⟨column :: columns, ordering, bounding, [a], []⟩, c.Holds order row) ↔
      Contains order row ⟨column :: columns, ordering, bounding, [a], []⟩ := by
  have hflat : ¬ IsNested ⟨column :: columns, ordering, bounding, [a], []⟩ := fun h => h.2.2 rfl
  simp [comparisons, commonLength, SliceSpec.bounds, Contains, Spans, hflat, Between, AfterStart,
    BeforeStop, respects_singleton, holds_startRelation ha hrow]

/-- The end alone is set. -/
theorem holds_comparisons_iff_of_stop (hb : (order column).places b) :
    (∀ c ∈ comparisons ⟨column :: columns, ordering, bounding, [], [b]⟩, c.Holds order row) ↔
      Contains order row ⟨column :: columns, ordering, bounding, [], [b]⟩ := by
  have hflat : ¬ IsNested ⟨column :: columns, ordering, bounding, [], [b]⟩ := fun h => h.2.1 rfl
  simp [comparisons, commonLength, SliceSpec.bounds, Contains, Spans, hflat, Between, AfterStart,
    BeforeStop, respects_singleton, holds_stopRelation hb hrow]

end

/-- The values stand in columns that can hold them. -/
def Fits (order : String → ValueOrder) (columns : List String) (values : List Value) : Prop :=
  ∀ column v, (column, v) ∈ columns.zip values → (order column).places v

theorem fits_cons {order : String → ValueOrder} {column : String} {columns : List String}
    {v : Value} {values : List Value} : Fits order (column :: columns) (v :: values) ↔
      (order column).places v ∧ Fits order columns values := by
  simp [Fits, or_imp, forall_and]

/-- A row satisfies the comparisons exactly if it is in the range. By induction along the common
prefix; what comes after it is at most one varying column. -/
theorem holds_comparisons_iff {order : String → ValueOrder} {row : String → Value}
    {columns : List String} {ordering : Direction} {bounding : Bounding} {start stop : List Value}
    (hnear : IsNear ⟨columns, ordering, bounding, start, stop⟩)
    (hstart : Fits order columns start) (hstop : Fits order columns stop)
    (hrow : ∀ column ∈ columns, (order column).places (row column)) :
    (∀ c ∈ comparisons ⟨columns, ordering, bounding, start, stop⟩, c.Holds order row) ↔
      Contains order row ⟨columns, ordering, bounding, start, stop⟩ := by
  induction start generalizing columns stop with
  | nil =>
    cases stop with
    | nil => simp [comparisons, commonLength, Contains]
    | cons b stop =>
      have hnil : stop = [] := by simpa [commonLength] using hnear.stop
      subst hnil
      cases columns with
      | nil => cases hnear.stopColumns
      | cons column columns =>
        exact holds_comparisons_iff_of_stop (List.forall_mem_cons.1 hrow).1 (fits_cons.1 hstop).1
  | cons a start ih =>
    cases columns with
    | nil => cases hnear.startColumns
    | cons column columns =>
      obtain ⟨hx, hrow'⟩ := List.forall_mem_cons.1 hrow
      obtain ⟨ha, hstart'⟩ := fits_cons.1 hstart
      cases stop with
      | nil =>
        have hnil : start = [] := by simpa [commonLength] using hnear.start
        subst hnil
        exact holds_comparisons_iff_of_start hx ha
      | cons b stop =>
        obtain ⟨hb, hstop'⟩ := fits_cons.1 hstop
        by_cases hab : (a == b) = true
        · rw [comparisons_cons hab, List.forall_mem_cons, contains_cons ha hb hx hab,
            ih (hnear.tail hab) hstart' hstop' hrow']
          exact .rfl
        · obtain ⟨rfl, rfl⟩ := hnear.nil_of_not_beq hab
          exact holds_comparisons_iff_of_not_beq hx ha hb hab

end ClusteringRange

/-- The statement asks for these comparisons. -/
structure SliceStatement.Asks (s : SliceStatement) (comparisons : List Comparison) : Prop where
  predicate : s.predicate = WhereClause.text (comparisons.map Comparison.predicate)
  values : s.values = WhereClause.values (comparisons.map Comparison.predicate)

namespace SliceQuery

variable {q : SliceQuery} {slice : SliceSpec}

/-- The clustering columns between the two lists. -/
def range (q : SliceQuery) : ClusteringRange :=
  ⟨q.key.clustering.map KeyComponent.name, q.ordering, q.bounding, q.start, q.stop⟩

/-- The columns that decide where a row lives. -/
def partitionColumns (q : SliceQuery) : List String := q.key.partition.map KeyComponent.name

/-- What an accepted query has: the values of the partition, and lists of clustering values that
are near, without nulls. -/
structure Accepted (q : SliceQuery) : Prop where
  partition : q.partition.length = q.partitionColumns.length
  partitionValues : ∀ v ∈ q.partition, v.isNull = false
  near : q.range.IsNear
  startValues : ∀ v ∈ q.start, v.isNull = false
  stopValues : ∀ v ∈ q.stop, v.isNull = false

theorem orElse_eq_none {α : Type} {x y : Option α} :
    (x <|> y) = none ↔ x = none ∧ y = none := by
  cases x <;> simp

theorem sideFault?_eq_none {side : SliceSide} {values : List Value} :
    q.sideFault? side values = none ↔
      values.length ≤ q.key.clustering.length ∧ ∀ v ∈ values, v.isNull = false := by
  have hnulls : values.any Value.isNull = false ↔ ∀ v ∈ values, v.isNull = false := by
    simp [List.any_eq_false]
  rw [← hnulls, ← Nat.not_lt]
  unfold sideFault?
  by_cases hlength : q.key.clustering.length < values.length
  · simp [hlength]
  · cases values.any Value.isNull <;> simp [hlength]

theorem near_of_rangeFault? (hstart : q.start.length ≤ q.key.clustering.length)
    (hstop : q.stop.length ≤ q.key.clustering.length) (h : q.rangeFault? = none) :
    q.range.IsNear := by
  unfold rangeFault? at h
  dsimp only at h
  split at h
  · cases h
  · next hnear =>
    simp only [Bool.or_eq_true, decide_eq_true_eq, not_or, Nat.not_lt] at hnear
    exact ⟨hnear.1, hnear.2, by simpa [range] using hstart, by simpa [range] using hstop⟩

theorem partitionFault?_eq_none (h : q.partitionFault? = none) :
    q.partition.length = q.partitionColumns.length ∧ ∀ v ∈ q.partition, v.isNull = false := by
  unfold partitionFault? at h
  dsimp only at h
  split at h
  · cases h
  · next hlength =>
    have hlength : q.partition.length = q.key.partition.length := by simpa using hlength
    rw [Option.map_eq_none_iff, List.find?_eq_none] at h
    refine ⟨by simpa [partitionColumns] using hlength, fun v hv => ?_⟩
    have hzip : v ∈ (q.key.partition.zip q.partition).map Prod.snd := by
      rwa [List.map_snd_zip (Nat.le_of_eq hlength)]
    obtain ⟨⟨component, _⟩, hmem, rfl⟩ := List.mem_map.1 hzip
    simpa using h _ hmem

theorem accepted_of_spec (h : q.spec = .ok slice) : q.Accepted ∧ slice = q.columnsSpec := by
  unfold spec fault? at h
  split at h
  · cases h
  · next hfault =>
    simp only [orElse_eq_none, sideFault?_eq_none] at hfault
    obtain ⟨hpartition, ⟨hstart, hstartValues⟩, ⟨hstop, hstopValues⟩, hrange⟩ := hfault
    obtain ⟨hlength, hvalues⟩ := partitionFault?_eq_none hpartition
    exact ⟨⟨hlength, hvalues, near_of_rangeFault? hstart hstop hrange, hstartValues, hstopValues⟩,
      (Except.ok.inj h).symm⟩

theorem comparisons_columnsSpec : q.columnsSpec.comparisons =
    (q.partitionColumns.zip q.partition).map (fun (column, v) => ⟨column, .eq, v⟩) ++
      q.range.comparisons := by
  unfold SliceSpec.comparisons SliceSpec.fixedComparisons columnsSpec
  dsimp only
  rw [List.map_append, List.append_assoc]
  rfl

/-- The comparisons of the partition columns hold exactly if the row has their values. -/
theorem holds_equalities_iff {order : String → ValueOrder} {row : String → Value}
    {columns : List String} {values : List Value} (hlength : values.length = columns.length) :
    (∀ c ∈ (columns.zip values).map (fun (column, v) => Comparison.mk column .eq v),
      c.Holds order row) ↔ Agrees row columns values := by
  induction columns generalizing values with
  | nil =>
    rw [List.length_eq_zero_iff.1 hlength]
    simp
  | cons column columns ih =>
    cases values with
    | nil => cases hlength
    | cons v values =>
      rw [agrees_cons, ← ih (Nat.succ.inj hlength)]
      simp [Comparison.Holds]

/-- The fixed values of an accepted query are not null. -/
theorem Accepted.fixed (h : q.Accepted) : ∀ column v, (column, v) ∈ q.columnsSpec.fixed →
    v.isNull = false := by
  intro column v hmem
  rcases List.mem_append.1 hmem with hmem | hmem
  · exact h.partitionValues v (List.of_mem_zip hmem).2
  · exact h.startValues v (List.mem_of_mem_take (List.of_mem_zip hmem).2)

/-- An accepted query with an end has a column for it. -/
theorem Accepted.varying (h : q.Accepted)
    (hends : q.columnsSpec.start.isSome ∨ q.columnsSpec.stop.isSome) :
    ∃ column, q.columnsSpec.varying = some column := by
  have hlength : commonLength q.start q.stop < q.range.columns.length := by
    rcases hends with hend | hend
    · have hlt : commonLength q.start q.stop < q.start.length := by simpa [columnsSpec] using hend
      exact Nat.lt_of_lt_of_le hlt h.near.startColumns
    · have hlt : commonLength q.start q.stop < q.stop.length := by simpa [columnsSpec] using hend
      exact Nat.lt_of_lt_of_le hlt h.near.stopColumns
  have hset : (q.columnsSpec.start.isSome || q.columnsSpec.stop.isSome) = true := by
    simpa using hends
  exact ⟨q.range.columns[commonLength q.start q.stop],
    (if_pos hset).trans (List.getElem?_eq_getElem hlength)⟩

/-- An accepted query has a statement exactly if the names that stand in it are not blank and there
is something to fix. -/
theorem Accepted.selectable_iff (h : q.Accepted) :
    q.columnsSpec.Selectable ↔ Text.isBlank q.entity.tableName = false ∧
      q.columnsSpec.fixed ≠ [] ∧ ∀ c ∈ q.columnsSpec.comparisons, Text.isBlank c.column = false := by
  constructor
  · intro hselectable
    refine ⟨hselectable.table, hselectable.nonempty, fun c hc => ?_⟩
    rcases List.mem_append.1 hc with hc | hc
    · obtain ⟨⟨column, v⟩, hmem, rfl⟩ := List.mem_map.1 hc
      exact (hselectable.fixed column v hmem).1
    · obtain ⟨column, hcolumn, hc⟩ := List.mem_flatMap.1 hc
      obtain ⟨rfl, hends⟩ := SliceSpec.of_mem_bounds hc
      obtain ⟨name, hname, hblank⟩ := hselectable.varying hends
      rw [hname] at hcolumn
      rwa [← List.mem_singleton.1 hcolumn] at hblank
  · rintro ⟨htable, hnonempty, hcolumns⟩
    refine ⟨⟨htable, hnonempty, fun column v hmem => ⟨?_, h.fixed column v hmem⟩⟩, fun hends => ?_⟩
    · exact hcolumns ⟨column, .eq, v⟩
        (List.mem_append_left _ (List.mem_map.2 ⟨(column, v), hmem, rfl⟩))
    · obtain ⟨column, hvarying⟩ := h.varying hends
      have hbounds : ∃ c ∈ SliceSpec.bounds q.columnsSpec.ordering q.columnsSpec.bounding column
          q.columnsSpec.start q.columnsSpec.stop, c.column = column :=
        SliceSpec.exists_mem_bounds hends
      obtain ⟨c, hc, rfl⟩ := hbounds
      refine ⟨c.column, hvarying, hcolumns c (List.mem_append_right _ ?_)⟩
      rw [SliceSpec.rangeComparisons, hvarying]
      exact List.mem_flatMap.2 ⟨c.column, List.mem_singleton_self _, hc⟩

theorem select_eq_ok_iff (h : q.spec = .ok slice) {s : SliceStatement} :
    q.select = .ok s ↔ slice.Selectable ∧ s = slice.selection := by
  rw [← SliceSpec.select_eq_ok_iff, select, h]
  show slice.select.mapError SliceFault.toError = .ok s ↔ _
  cases slice.select <;> simp [Except.mapError]

/-- A slice query asks for the rows of its range. The condition of the read is the text of
comparisons that a row satisfies exactly if it lies in the partition and in the range between the
two lists, under any order of the columns. A read exists unless a name in it is blank. -/
theorem range_contract (h : q.spec = .ok slice) {order : String → ValueOrder}
    {row : String → Value} (hstart : ClusteringRange.Fits order q.range.columns q.start)
    (hstop : ClusteringRange.Fits order q.range.columns q.stop)
    (hrow : ∀ column ∈ q.range.columns, (order column).places (row column)) :
    (∀ s, q.select = .ok s → s.Asks slice.comparisons) ∧
    ((∃ s, q.select = .ok s) ↔ Text.isBlank q.entity.tableName = false ∧ slice.fixed ≠ [] ∧
      ∀ c ∈ slice.comparisons, Text.isBlank c.column = false) ∧
    ((∀ c ∈ slice.comparisons, c.Holds order row) ↔
      Agrees row q.partitionColumns q.partition ∧ q.range.Contains order row) ∧
    (q.range.IsNested →
      commonLength q.start q.stop = min q.start.length q.stop.length) := by
  obtain ⟨haccepted, rfl⟩ := accepted_of_spec h
  refine ⟨fun s hs => ?_, ?_, ?_, haccepted.near.commonLength_eq⟩
  · obtain ⟨-, rfl⟩ := (select_eq_ok_iff h).1 hs
    exact ⟨rfl, rfl⟩
  · rw [← haccepted.selectable_iff]
    constructor
    · rintro ⟨s, hs⟩
      exact ((select_eq_ok_iff h).1 hs).1
    · intro hselectable
      exact ⟨_, (select_eq_ok_iff h).2 ⟨hselectable, rfl⟩⟩
  · rw [comparisons_columnsSpec, List.forall_mem_append, holds_equalities_iff haccepted.partition]
    exact and_congr_right fun _ =>
      ClusteringRange.holds_comparisons_iff haccepted.near hstart hstop hrow

end SliceQuery

namespace Sample

/-- The order of 64-bit integers. -/
def bigints : ValueOrder where
  places v := ∃ i, v = .bigint i
  le a b := ∃ i j, a = .bigint i ∧ b = .bigint j ∧ i ≤ j
  total := by
    rintro _ _ ⟨i, rfl⟩ ⟨j, rfl⟩
    exact (Int64.le_total i j).imp (fun h => ⟨i, j, rfl, rfl, h⟩) fun h => ⟨j, i, rfl, rfl, h⟩
  trans := by
    rintro _ _ _ - - - ⟨i, j, rfl, rfl, hij⟩ ⟨_, k, hj, rfl, hjk⟩
    cases hj
    exact ⟨i, k, rfl, rfl, Int64.le_trans hij hjk⟩
  same_iff := by
    rintro _ _ ⟨i, rfl⟩ ⟨j, rfl⟩
    show _ ↔ (i == j) = true
    rw [beq_iff_eq]
    constructor
    · rintro ⟨⟨_, _, hi, hj, hle⟩, ⟨_, _, hj', hi', hge⟩⟩
      cases hi; cases hj; cases hi'; cases hj'
      exact Int64.le_antisymm hle hge
    · rintro rfl
      exact ⟨⟨i, i, rfl, rfl, Int64.le_refl i⟩, ⟨i, i, rfl, rfl, Int64.le_refl i⟩⟩

/-- The key of a sample: its sensor, and when it was taken. -/
def key : CompoundKey :=
  ⟨[⟨"sensor", .text, .partition, false⟩, ⟨"taken", .bigint, .clustering, false⟩]⟩

/-- The class of samples. -/
def entity : EntityMeta where
  className := "Sample"
  tableName := "samples"
  id := { PropertyDraft.ofKind "id" .embeddedId .text with key := some key, entityClass := "Sample" }
  properties :=
    [{ PropertyDraft.ofKind "id" .embeddedId .text with key := some key, entityClass := "Sample" }]
  declaredReadLevel := none
  declaredWriteLevel := none
  readLevel := .one
  writeLevel := .one
  isClusteredCounter := false

/-- The class is the one of its declaration without other properties. -/
theorem build_draft : (draft []).build = .ok entity := by rfl

/-- The samples of a sensor between two times. -/
def slice (start stop : Int64) (bounding : Bounding) : SliceQuery where
  entity
  key
  partition := [.text "door"]
  start := [.bigint start]
  stop := [.bigint stop]
  ordering := .ascending
  bounding
  limit := SliceQuery.defaultLimit
  batchSize := SliceQuery.defaultBatchSize

/-- A sample of the door. -/
def row (taken : Int64) (column : String) : Value :=
  if column = "sensor" then .text "door" else .bigint taken

theorem fits_bigints (columns : List String) (i : Int64) :
    ClusteringRange.Fits (fun _ => bigints) columns [.bigint i] := by
  intro column v hmem
  rw [List.mem_singleton.1 (List.of_mem_zip hmem).2]
  exact ⟨i, rfl⟩

theorem places_row (taken : Int64) :
    ∀ column ∈ (slice 1 5 .inclusive).range.columns, bigints.places (row taken column) :=
  fun _ hcolumn => ⟨taken, by rw [List.mem_singleton.1 hcolumn]; rfl⟩

theorem lt_bigints {i j : Int64} : bigints.lt (.bigint i) (.bigint j) ↔ i < j := by
  constructor
  · rintro ⟨⟨_, _, hi, hj, hle⟩, hnot⟩
    cases hi
    cases hj
    exact Int64.not_le.1 fun hge => hnot ⟨j, i, rfl, rfl, hge⟩
  · intro h
    refine ⟨⟨i, j, rfl, rfl, Int64.le_of_lt h⟩, ?_⟩
    rintro ⟨_, _, hj, hi, hge⟩
    cases hi
    cases hj
    exact absurd h (Int64.not_lt.2 hge)

/-- The sample taken at 3 is among those from 1 to 5. -/
theorem range_contract_slice :
    (slice 1 5 .inclusive).spec = .ok (slice 1 5 .inclusive).columnsSpec ∧
      (∃ s, (slice 1 5 .inclusive).select = .ok s) ∧
      ∀ c ∈ (slice 1 5 .inclusive).columnsSpec.comparisons,
        c.Holds (fun _ => bigints) (row 3) := by
  have hspec : (slice 1 5 .inclusive).spec = .ok (slice 1 5 .inclusive).columnsSpec := by rfl
  obtain ⟨-, hselect, hrows, -⟩ := SliceQuery.range_contract hspec (fits_bigints _ 1)
    (fits_bigints _ 5) (places_row 3)
  refine ⟨hspec, hselect.2 ⟨by decide, List.cons_ne_nil _ _, ?_⟩, hrows.2 ⟨by rfl, ?_⟩⟩
  · decide
  · have hends : ((slice 1 5 .inclusive).range.start == (slice 1 5 .inclusive).range.stop) = false :=
      rfl
    have hflat : ¬ (slice 1 5 .inclusive).range.IsNested := fun h => h.1 rfl
    simp only [ClusteringRange.Contains, hends, ClusteringRange.Spans, hflat, ↓reduceIte,
      Bool.false_eq_true]
    exact ⟨respects_singleton.2 (.inl (lt_bigints.2 (by decide))),
      respects_singleton.2 (.inl (lt_bigints.2 (by decide)))⟩

/-- Equal ends are fixed values, so the one sample between them is read although both ends are
excluded. -/
theorem not_spans_of_equal_ends :
    ¬ ∀ (d : EntityDraft) (q : SliceQuery) (spec : SliceSpec) (order : String → ValueOrder)
      (row : String → Value), d.build = .ok q.entity → q.entity.id.key = some q.key →
      q.spec = .ok spec → ClusteringRange.Fits order q.range.columns q.start →
      ClusteringRange.Fits order q.range.columns q.stop →
      (∀ column ∈ q.range.columns, (order column).places (row column)) →
      ((∀ c ∈ spec.comparisons, c.Holds order row) ↔
        Agrees row q.partitionColumns q.partition ∧ q.range.Spans order row) := by
  intro h
  have hspec : (slice 3 3 .exclusive).spec = .ok (slice 3 3 .exclusive).columnsSpec := by rfl
  have hrows := h (draft []) _ _ (fun _ => bigints) (row 3) build_draft rfl hspec (fits_bigints _ 3)
    (fits_bigints _ 3) (places_row 3)
  have hflat : ¬ (slice 3 3 .exclusive).range.IsNested := fun h => h.1 rfl
  -- both comparisons are equalities, which the row satisfies
  obtain ⟨-, hspans⟩ := hrows.1 fun c hc => by
    rcases List.mem_pair.1 hc with rfl | rfl <;> rfl
  simp only [ClusteringRange.Spans, hflat, ↓reduceIte] at hspans
  rcases respects_singleton.1 hspans.1 with hlt | ⟨hincluded, -⟩
  · exact absurd (lt_bigints.1 hlt) (by decide)
  · cases hincluded

end Sample

end WideColumn
