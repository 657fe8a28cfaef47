import WideColumn.Proofs.Meta.Declared
import WideColumn.Proofs.Slice.Range

/-!
# Well formed slices

A slice query is checked by six rules, one after the other, and its columns are then found by
position: the common prefix of the two lists of clustering values is fixed, and the component after
it varies. The rules are told here at once, for the length of the common prefix
(`SliceQuery.WellFormed`). Exactly the well formed queries are accepted, and for these every
position lies within its list (`SliceQuery.wellFormed_contract`).
-/

namespace WideColumn

/-! ### The common prefix -/

/-- The two lists have equal values up to a position, and there they differ or one of them ends. -/
structure CommonPrefix (start stop : List Value) (k : Nat) : Prop where
  inStart : k ≤ start.length
  inStop : k ≤ stop.length
  equal : ∀ i < k, ∀ a b, start[i]? = some a → stop[i]? = some b → (a == b) = true
  longest : ∀ a b, start[k]? = some a → stop[k]? = some b → (a == b) = false

theorem commonPrefix_commonLength (start stop : List Value) :
    CommonPrefix start stop (commonLength start stop) := by
  induction start generalizing stop with
  | nil => constructor <;> simp [commonLength]
  | cons x start ih =>
    cases stop with
    | nil => constructor <;> simp [commonLength]
    | cons y stop =>
      by_cases hxy : (x == y) = true
      · obtain ⟨hstart, hstop, hequal, hlongest⟩ := ih stop
        rw [commonLength, if_pos hxy]
        refine ⟨by simpa using hstart, by simpa using hstop, fun i hi a b ha hb => ?_,
          by simpa using hlongest⟩
        cases i with
        | zero =>
          rw [← Option.some.inj ha, ← Option.some.inj hb]
          exact hxy
        | succ i => exact hequal i (by omega) a b (by simpa using ha) (by simpa using hb)
      · rw [commonLength, if_neg hxy]
        exact ⟨Nat.zero_le _, Nat.zero_le _, by simp, by simpa using hxy⟩

/-- Two lists have one common prefix. -/
theorem CommonPrefix.eq {start stop : List Value} {k m : Nat} (hk : CommonPrefix start stop k)
    (hm : CommonPrefix start stop m) : k = m := by
  -- the shorter one would go on, as the lists are equal where it ends
  have hnot : ∀ {i j : Nat}, CommonPrefix start stop i → CommonPrefix start stop j → ¬ i < j := by
    intro i j hi hj hlt
    have hstart := hj.inStart
    have hstop := hj.inStop
    have ha : start[i]? = some start[i] := List.getElem?_eq_getElem (by omega)
    have hb : stop[i]? = some stop[i] := List.getElem?_eq_getElem (by omega)
    have := hi.longest _ _ ha hb
    rw [hj.equal i hlt _ _ ha hb] at this
    cases this
  exact Nat.le_antisymm (Nat.not_lt.1 (hnot hm hk)) (Nat.not_lt.1 (hnot hk hm))

/-- How two values must not compare for a read in this direction. -/
def Direction.against : Direction → Ordering
  | .ascending => .gt
  | .descending => .lt

namespace SliceQuery

variable {em : EntityMeta} {q : SliceQuery} {k : Nat} {slice : SliceSpec}

/-- The query is one for the given class, with any values and settings. -/
def IsOf (q : SliceQuery) (em : EntityMeta) : Prop :=
  ∃ fresh, ofMeta em = .ok fresh ∧ q.entity = fresh.entity ∧ q.key = fresh.key

/-- A query that is well formed, with a common prefix of the given length. -/
structure WellFormed (q : SliceQuery) (k : Nat) : Prop where
  /-- There is one value for each partition component. -/
  partition : q.partition.length = q.key.partition.length
  partitionValues : ∀ v ∈ q.partition, v.isNull = false
  startCount : q.start.length ≤ q.key.clustering.length
  startValues : ∀ v ∈ q.start, v.isNull = false
  stopCount : q.stop.length ≤ q.key.clustering.length
  stopValues : ∀ v ∈ q.stop, v.isNull = false
  common : CommonPrefix q.start q.stop k
  /-- Each list has at most one value after the common prefix. -/
  startNear : q.start.length ≤ k + 1
  stopNear : q.stop.length ≤ k + 1
  order : ∀ a b, q.start[k]? = some a → q.stop[k]? = some b →
    a.order? b ≠ some q.ordering.against

/-- The positions at which the lists are read lie within them: the first clustering component, the
values of the common prefix, and the component after it if there is a start or an end. -/
structure InRange (q : SliceQuery) (k : Nat) : Prop where
  first : 0 < q.key.clustering.length
  common : k ≤ q.start.length
  varying : q.start[k]?.isSome ∨ q.stop[k]?.isSome → k < q.key.clustering.length

/-- The slice in terms of columns. -/
structure Yields (q : SliceQuery) (k : Nat) (slice : SliceSpec) : Prop where
  /-- The first columns of the key are fixed, in declared order: those of the partition, then those
  of the common prefix. -/
  fixed : slice.fixed = q.key.columnNames.zip (q.partition ++ q.start.take k)
  fixedCount : slice.fixed.length = q.key.partition.length + k
  /-- The next column varies, if there is a start or an end. -/
  varying : q.start[k]?.isSome ∨ q.stop[k]?.isSome →
    ∃ column, slice.varying = some column ∧
      q.key.columnNames[q.key.partition.length + k]? = some column
  noneVaries : ¬ (q.start[k]?.isSome ∨ q.stop[k]?.isSome) → slice.varying = none
  start : slice.start = q.start[k]?
  stop : slice.stop = q.stop[k]?
  orderColumn : ∃ c ∈ q.key.clustering.head?, slice.orderColumn = some c.name
  settings : slice.table = q.entity.tableName ∧
    slice.columns = Template.entityColumns q.entity ∧ slice.ordering = q.ordering ∧
    slice.bounding = q.bounding ∧ slice.limit = some q.limit ∧ slice.batchSize = some q.batchSize

/-! ### The checks -/

theorem partitionFault?_eq_none_iff :
    q.partitionFault? = none ↔
      q.partition.length = q.key.partition.length ∧ ∀ v ∈ q.partition, v.isNull = false := by
  constructor
  · intro h
    simpa [partitionColumns] using partitionFault?_eq_none h
  · rintro ⟨hlength, hvalues⟩
    unfold partitionFault?
    dsimp only
    rw [if_neg (by simpa using hlength), Option.map_eq_none_iff, List.find?_eq_none]
    rintro ⟨component, v⟩ hmem
    simp [hvalues v (List.of_mem_zip hmem).2]

theorem rangeFault?_eq_none_iff (hk : CommonPrefix q.start q.stop k) :
    q.rangeFault? = none ↔ q.start.length ≤ k + 1 ∧ q.stop.length ≤ k + 1 ∧
      ∀ a b, q.start[k]? = some a → q.stop[k]? = some b →
        a.order? b ≠ some q.ordering.against := by
  obtain rfl := hk.eq (commonPrefix_commonLength _ _)
  unfold rangeFault?
  dsimp only
  by_cases hnear : q.start.length ≤ commonLength q.start q.stop + 1 ∧
      q.stop.length ≤ commonLength q.start q.stop + 1
  · rw [if_neg (by simp; omega)]
    simp only [hnear, true_and]
    cases hstart : q.start[commonLength q.start q.stop]? with
    | none => simp
    | some a =>
      cases hstop : q.stop[commonLength q.start q.stop]? with
      | none => simp
      | some b =>
        cases hordering : q.ordering <;> rcases horder : a.order? b with _ | _ | _ | _ <;>
          simp [Direction.against, horder]
  · rw [if_pos (by simp; omega)]
    simp only [reduceCtorEq, false_iff]
    exact fun h => hnear ⟨h.1, h.2.1⟩

theorem fault?_eq_none_iff (hk : CommonPrefix q.start q.stop k) :
    q.fault? = none ↔ q.WellFormed k := by
  unfold fault?
  simp only [orElse_eq_none, partitionFault?_eq_none_iff, sideFault?_eq_none,
    rangeFault?_eq_none_iff hk]
  constructor
  · rintro ⟨⟨hpartition, hvalues⟩, ⟨hstart, hstartValues⟩, ⟨hstop, hstopValues⟩, hnear, hnear', h⟩
    exact ⟨hpartition, hvalues, hstart, hstartValues, hstop, hstopValues, hk, hnear, hnear', h⟩
  · intro h
    exact ⟨⟨h.partition, h.partitionValues⟩, ⟨h.startCount, h.startValues⟩,
      ⟨h.stopCount, h.stopValues⟩, h.startNear, h.stopNear, h.order⟩

theorem spec_eq_ok_iff : q.spec = .ok slice ↔ q.fault? = none ∧ slice = q.columnsSpec := by
  unfold spec
  cases q.fault? <;> simp [eq_comm]

/-! ### The columns -/

theorem WellFormed.inRange (h : q.WellFormed k) (hkey : q.key.isClustered = true) :
    q.InRange k := by
  have hclustering : q.key.clustering ≠ [] := by simpa [CompoundKey.isClustered] using hkey
  refine ⟨List.length_pos_iff.2 hclustering, h.common.inStart, fun hends => ?_⟩
  have hstart := h.startCount
  have hstop := h.stopCount
  have hlength : k < q.start.length ∨ k < q.stop.length := by simpa using hends
  omega

theorem columnNames_eq (hkey : q.key.WellLaidOut) : q.key.columnNames =
    q.key.partition.map KeyComponent.name ++ q.key.clustering.map KeyComponent.name := by
  rw [CompoundKey.columnNames, hkey.components_eq, List.map_append]

theorem columnNames_getElem? (hkey : q.key.WellLaidOut) :
    q.key.columnNames[q.key.partition.length + k]? =
      (q.key.clustering.map KeyComponent.name)[k]? := by
  rw [columnNames_eq hkey, List.getElem?_append_right (by simp)]
  simp

/-- The columns of a well formed query are those of its key, in declared order. -/
theorem WellFormed.yields (h : q.WellFormed k) (hkey : q.key.WellLaidOut)
    (hrange : q.InRange k) : q.Yields k q.columnsSpec := by
  obtain rfl := h.common.eq (commonPrefix_commonLength _ _)
  have hfixed : q.columnsSpec.fixed =
      q.key.columnNames.zip (q.partition ++ q.start.take (commonLength q.start q.stop)) := by
    rw [columnNames_eq hkey, List.zip_append (by simp [h.partition])]
    rfl
  refine ⟨hfixed, ?_, fun hends => ?_, fun hends => ?_, rfl, rfl, ?_, rfl, rfl, rfl, rfl, rfl, rfl⟩
  · have hcount := h.startCount
    have hcommon := hrange.common
    rw [hfixed, List.length_zip, columnNames_eq hkey]
    simp only [List.length_append, List.length_map, List.length_take, h.partition]
    omega
  · have hlength := hrange.varying hends
    have hname : (q.key.clustering.map KeyComponent.name)[commonLength q.start q.stop]? =
        some q.key.clustering[commonLength q.start q.stop].name := by
      rw [List.getElem?_map, List.getElem?_eq_getElem hlength, Option.map_some]
    exact ⟨_, (if_pos (by simpa using hends)).trans hname, (columnNames_getElem? hkey).trans hname⟩
  · exact if_neg (by simpa using hends)
  · obtain ⟨first, rest, hclustering⟩ := List.exists_cons_of_length_pos hrange.first
    exact ⟨first, by simp [hclustering], by simp [columnsSpec, hclustering]⟩

/-! ### The statements -/

theorem delete_eq_ok_iff (h : q.spec = .ok slice) {s : SliceStatement} :
    q.delete = .ok s ↔ slice.Deletable ∧ s = slice.deletion := by
  rw [← SliceSpec.delete_eq_ok_iff, delete, h]
  show slice.delete.mapError SliceFault.toError = .ok s ↔ _
  cases slice.delete <;> simp [Except.mapError]

/-- A slice of named columns can be read. -/
theorem Yields.selectable (h : q.Yields k slice) (hquery : q.WellFormed k)
    (htable : Text.isBlank q.entity.tableName = false) (hkey : q.key.partition ≠ [])
    (hnames : ∀ column ∈ q.key.columnNames, Text.isBlank column = false) : slice.Selectable := by
  have hvalues : ∀ v ∈ q.partition ++ q.start.take k, v.isNull = false := by
    intro v hv
    rcases List.mem_append.1 hv with hv | hv
    · exact hquery.partitionValues v hv
    · exact hquery.startValues v (List.mem_of_mem_take hv)
  refine ⟨⟨?_, ?_, fun column v hmem => ?_⟩, fun hends => ?_⟩
  · rw [h.settings.1]
    exact htable
  · have hpos := List.length_pos_iff.2 hkey
    refine List.length_pos_iff.1 ?_
    rw [h.fixedCount]
    omega
  · rw [h.fixed] at hmem
    obtain ⟨hcolumn, hv⟩ := List.of_mem_zip hmem
    exact ⟨hnames column hcolumn, hvalues v hv⟩
  · rw [h.start, h.stop] at hends
    obtain ⟨column, hvarying, hcolumn⟩ := h.varying hends
    exact ⟨column, hvarying, hnames column (List.mem_of_getElem? hcolumn)⟩

theorem IsOf.key (h : q.IsOf em) :
    q.entity = em ∧ em.id.key = some q.key ∧ q.key.isClustered = true := by
  obtain ⟨fresh, hfresh, hentity, hkey⟩ := h
  unfold ofMeta at hfresh
  split at hfresh
  · next key hid =>
    split at hfresh
    · next hclustered =>
      rw [← Except.ok.inj hfresh] at hentity hkey
      rw [hentity, hkey]
      exact ⟨rfl, hid, hclustered⟩
    · cases hfresh
  · cases hfresh

/-- Exactly the well formed slice queries of a clustered class are accepted, whatever lists they
are given. Their positions are in range, the slice fixes the first columns of the key and lets at
most the next one vary, and unless a key column has a blank name it can be read and deleted. -/
theorem wellFormed_contract (hem : em.Built) (hq : q.IsOf em) :
    ((∃ slice, q.spec = .ok slice) ↔ ∃ k, q.WellFormed k) ∧
    ∀ k, q.WellFormed k → q.InRange k ∧ ∃ slice, q.spec = .ok slice ∧ q.Yields k slice ∧
      ((∀ c ∈ q.key.components, Text.isBlank c.name = false) →
        (∃ s, q.select = .ok s) ∧ ∃ s, q.delete = .ok s) := by
  obtain ⟨hentity, hid, hclustered⟩ := hq.key
  have hlayout := hem.layout hid
  have hcommon := commonPrefix_commonLength q.start q.stop
  refine ⟨⟨?_, ?_⟩, fun k hk => ?_⟩
  · rintro ⟨slice, hslice⟩
    exact ⟨_, (fault?_eq_none_iff hcommon).1 (spec_eq_ok_iff.1 hslice).1⟩
  · rintro ⟨k, hk⟩
    exact ⟨_, spec_eq_ok_iff.2 ⟨(fault?_eq_none_iff hk.common).2 hk, rfl⟩⟩
  · have hrange := hk.inRange hclustered
    have hspec := spec_eq_ok_iff.2 ⟨(fault?_eq_none_iff hk.common).2 hk, rfl⟩
    have hyields := hk.yields hlayout hrange
    refine ⟨hrange, _, hspec, hyields, fun hnames => ?_⟩
    have hselectable := hyields.selectable hk (hentity ▸ hem.table) hlayout.partition_ne_nil
      (by simpa [CompoundKey.columnNames] using hnames)
    exact ⟨⟨_, (select_eq_ok_iff hspec).2 ⟨hselectable, rfl⟩⟩,
      ⟨_, (delete_eq_ok_iff hspec).2 ⟨hselectable.toDeletable, rfl⟩⟩⟩

end SliceQuery

namespace Sample

/-- The samples of the door from 1 to 5 have no common prefix, and their times vary. -/
theorem wellFormed_contract_slice :
    entity.Built ∧ (slice 1 5 .inclusive).IsOf entity ∧ (slice 1 5 .inclusive).WellFormed 0 ∧
      (∃ s, (slice 1 5 .inclusive).select = .ok s) ∧
        ∃ s, (slice 1 5 .inclusive).delete = .ok s := by
  have hbuilt : entity.Built := ⟨draft [], entity, .one, .one, build_draft, rfl⟩
  have hof : (slice 1 5 .inclusive).IsOf entity := ⟨_, rfl, rfl, rfl⟩
  have hzero : (slice 1 5 .inclusive).WellFormed 0 :=
    (SliceQuery.fault?_eq_none_iff (commonPrefix_commonLength [.bigint 1] [.bigint 5])).1 rfl
  obtain ⟨-, spec, -, -, hstatements⟩ := (SliceQuery.wellFormed_contract hbuilt hof).2 0 hzero
  exact ⟨hbuilt, hof, hzero, hstatements (by decide)⟩

end Sample

end WideColumn
