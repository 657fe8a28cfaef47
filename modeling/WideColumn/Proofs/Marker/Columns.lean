import WideColumn.Proofs.Marker.Templates
import WideColumn.Proofs.Meta.Row

/-!
# Columns that a statement writes and compares

A statement that names a column twice as a target, or changes a column that it also compares, means
nothing certain. The statements that are generated for a class are free of this exactly when its row
is well defined. Main statement: `row_contract`.
-/

namespace WideColumn

namespace Place

/-- The column that a value is written to. -/
def target? : Place → Option String
  | inserted column | assigned column | added column | subtracted column => some column
  | timeToLive | compared _ | unknown => none

/-- The column that a value is compared with. -/
def filter? : Place → Option String
  | compared column => some column
  | _ => none

end Place

/-- The columns that a statement writes. -/
def targetsIn (text : String) : List String := (markersIn text).filterMap fun m => m.place.target?

/-- The columns that a statement compares. -/
def filtersIn (text : String) : List String := (markersIn text).filterMap fun m => m.place.filter?

/-- No column is written twice, or written and compared. -/
structure Unambiguous (text : String) : Prop where
  once : (targetsIn text).Nodup
  apart : ∀ column ∈ targetsIn text, column ∉ filtersIn text

/-- The texts of the statements for a class: those prepared when it is registered, and the updates
of distinct plain properties. -/
inductive Template.Generated (em : EntityMeta) : String → Prop
  | insert : em.isClusteredCounter = false → Generated em (Template.insert em)
  | selectEntity : em.isClusteredCounter = false → Generated em (Template.selectEntity em)
  | selectField {pm : PropertyMeta} {text : String} : em.isClusteredCounter = false →
      pm ∈ em.plain → Template.selectField em pm = .ok text → Generated em text
  | delete {table text : String} : em.isClusteredCounter = false →
      (table, text) ∈ Template.deletes em → Generated em text
  | update {changed : List PropertyMeta} : (∀ pm ∈ changed, pm ∈ em.plain) →
      (changed.map fun pm => pm.name).Nodup → Generated em (Template.update em changed)
  | clusteredCounter {key : CounterAction × String} {text : String} :
      em.isClusteredCounter = true → (key, text) ∈ Template.clusteredCounters em →
        Generated em text

namespace Template

variable {em : EntityMeta}

theorem columns_keyMarkers (columns : List String) :
    (columns.map keyMarker).filterMap (fun m => m.place.target?) = [] ∧
      (columns.map keyMarker).filterMap (fun m => m.place.filter?) = columns := by
  constructor <;>
    simp [List.filterMap_map, Function.comp_def, keyMarker, Place.target?, Place.filter?]

/-- A statement that only compares key columns. -/
theorem unambiguous_of_keyMarkers {text : String}
    (h : markersIn text = em.idColumns.map keyMarker) : Unambiguous text := by
  have htargets : targetsIn text = [] := by
    rw [targetsIn, h, (columns_keyMarkers _).1]
  exact ⟨htargets ▸ List.nodup_nil, fun column hcolumn => by simp [htargets] at hcolumn⟩

theorem columns_insert (h : em.PlainNames) :
    targetsIn (insert em) = insertColumns em ∧ filtersIn (insert em) = [] := by
  rw [targetsIn, filtersIn, markersIn_insert h]
  constructor <;> simp [List.filterMap_map, ttlMarker, Place.target?, Place.filter?]

theorem columns_update (h : em.PlainNames) {changed : List PropertyMeta}
    (hchanged : ∀ pm ∈ changed, pm ∈ em.plain) :
    targetsIn (update em changed) = changed.map (fun pm => pm.name) ∧
      filtersIn (update em changed) = em.idColumns := by
  have hnames : ∀ c ∈ changed.map (fun pm => pm.name), IsPlainName c := by
    intro c hc
    obtain ⟨pm, hpm, rfl⟩ := List.mem_map.1 hc
    exact h.property pm (List.mem_filter.1 (hchanged pm hpm)).1
  have hmarkers : markersIn (update em changed) = _ := markersIn_update h hnames
  obtain ⟨htargets, hfilters⟩ := columns_keyMarkers em.idColumns
  rw [targetsIn, filtersIn, hmarkers, List.cons_append, List.filterMap_cons, List.filterMap_cons,
    List.filterMap_append, List.filterMap_append, htargets, hfilters]
  constructor <;>
    simp [List.filterMap_map, Function.comp_def, ttlMarker, Place.target?, Place.filter?]

theorem columns_clusteredCounters (h : em.PlainNames) {action : CounterAction} {name text : String}
    (hmem : ((action, name), text) ∈ clusteredCounters em) :
    targetsIn text = (if action = .incr ∨ action = .decr then [name] else []) ∧
      filtersIn text = em.idColumns := by
  obtain ⟨htargets, hfilters⟩ := columns_keyMarkers em.idColumns
  rw [targetsIn, filtersIn, markersIn_clusteredCounters h hmem, List.filterMap_append,
    List.filterMap_append, htargets, hfilters]
  cases action <;> simp [deltaMarkers, Place.target?, Place.filter?]

/-- The counters that have statements of changes are those of the class. -/
theorem exists_counter_of_mem {action : CounterAction} {name text : String}
    (hmem : ((action, name), text) ∈ clusteredCounters em)
    (haction : action = .incr ∨ action = .decr) : ∃ pm ∈ em.counters, pm.name = name := by
  simp only [clusteredCounters, clusteredCounter, List.mem_append, List.mem_flatMap, List.mem_cons,
    List.not_mem_nil, or_false, Prod.mk.injEq] at hmem
  rcases hmem with ⟨pm, hpm, hcases⟩ | ⟨⟨rfl, -⟩, -⟩ | ⟨⟨rfl, -⟩, -⟩
  · exact ⟨pm, hpm, by rcases hcases with ⟨⟨-, rfl⟩, -⟩ | ⟨⟨-, rfl⟩, -⟩ | ⟨⟨-, rfl⟩, -⟩ <;> rfl⟩
  · simp at haction
  · simp at haction

end Template

namespace EntityMeta

variable {em : EntityMeta}

/-- The generated statements mean something certain exactly when the row is well defined. -/
theorem Rules.rowDefined_iff_unambiguous (hrules : em.Rules) (hplain : em.PlainNames) :
    em.RowDefined ↔ ∀ text, Template.Generated em text → Unambiguous text := by
  constructor
  · intro hrow text htext
    cases htext with
    | insert hkind =>
      obtain ⟨htargets, hfilters⟩ := Template.columns_insert hplain
      exact ⟨htargets ▸ hrow.insert, fun column _ => by simp [hfilters]⟩
    | selectEntity hkind =>
      exact Template.unambiguous_of_keyMarkers (Template.markersIn_selectEntity hplain)
    | @selectField pm text hkind hpm htext =>
      have hname := hplain.property pm (List.mem_filter.1 hpm).1
      have hcolumns : ∀ c ∈ pm.columnNames, IsPlainName c := by
        rw [hrules.columnNames_of_plain hpm]
        exact List.forall_mem_singleton.2 hname
      exact Template.unambiguous_of_keyMarkers
        (Template.markersIn_selectField hplain hcolumns htext)
    | delete hkind hmem =>
      exact Template.unambiguous_of_keyMarkers (Template.markersIn_deletes hplain hmem)
    | update hchanged hdistinct =>
      obtain ⟨htargets, hfilters⟩ := Template.columns_update hplain hchanged
      refine ⟨htargets ▸ hdistinct, fun column htarget => ?_⟩
      rw [htargets] at htarget
      obtain ⟨pm, hpm, rfl⟩ := List.mem_map.1 htarget
      rw [hfilters]
      exact hrules.nodup_insertColumns_iff.1 hrow.insert pm (hchanged pm hpm)
    | @clusteredCounter key text hkind hmem =>
      obtain ⟨action, name⟩ := key
      obtain ⟨htargets, hfilters⟩ := Template.columns_clusteredCounters hplain hmem
      by_cases haction : action = .incr ∨ action = .decr
      · rw [if_pos haction] at htargets
        obtain ⟨pm, hpm, rfl⟩ := Template.exists_counter_of_mem hmem haction
        refine ⟨htargets ▸ List.nodup_singleton _, fun column htarget => ?_⟩
        rw [htargets, List.mem_singleton] at htarget
        rw [hfilters, htarget]
        exact hrow.counters hkind pm hpm
      · rw [if_neg haction] at htargets
        exact ⟨htargets ▸ List.nodup_nil, fun column htarget => by simp [htargets] at htarget⟩
  · intro hclear
    rw [hrules.rowDefined_iff, rowProperties]
    by_cases hkind : em.isClusteredCounter = true
    · rw [if_pos hkind]
      intro pm hpm
      have hmem : ((.incr, pm.name), _) ∈ Template.clusteredCounters em :=
        List.mem_append_left _ (List.mem_flatMap.2 ⟨pm, hpm, List.mem_cons_self⟩)
      obtain ⟨htargets, hfilters⟩ := Template.columns_clusteredCounters hplain hmem
      have happart := (hclear _ (.clusteredCounter hkind hmem)).apart pm.name
      rw [htargets, hfilters, if_pos (.inl rfl)] at happart
      exact happart (List.mem_singleton_self _)
    · rw [if_neg hkind, ← hrules.nodup_insertColumns_iff,
        ← (Template.columns_insert hplain).1]
      exact (hclear _ (.insert (by simpa using hkind))).once

/-- What a declaration that is accepted says about the columns of the row. -/
structure RowContract (em : EntityMeta) : Prop where
  key : em.idColumns.Nodup
  names : DistinctNames em.properties
  defined : em.RowDefined ↔ ∀ pm ∈ em.rowProperties, pm.name ∉ em.idColumns
  single : em.id.kind = .id → em.RowDefined
  texts : em.PlainNames →
    (em.RowDefined ↔ ∀ text, Template.Generated em text → Unambiguous text)

/-- For every declaration that is accepted, the columns of the row are well defined exactly when no
column besides the key is named like a key column. -/
theorem row_contract {draft : EntityDraft} {em : EntityMeta} (h : draft.build = .ok em) :
    RowContract em := by
  have hrules := EntityDraft.rules_of_build h
  exact ⟨hrules.nodup_idColumns, hrules.names, hrules.rowDefined_iff, hrules.rowDefined_of_single,
    hrules.rowDefined_iff_unambiguous⟩

end EntityMeta

/-! ### Samples -/

namespace Sample

/-- Samples of sensors: one partition for each sensor, in the order in which they were taken. -/
def draft (others : List PropertyDraft) : EntityDraft where
  className := "Sample"
  tableName := "samples"
  properties := { PropertyDraft.ofKind "id" .embeddedId .text with
    key := some
      ⟨[⟨"sensor", .text, .partition, false⟩, ⟨"taken", .bigint, .clustering, false⟩]⟩ } :: others
  readLevel := none
  writeLevel := none
  isClusteredCounter := false

/-- A sample with a value has a well defined row. -/
theorem row_contract_value :
    ∃ em, (draft [.ofKind "value" .simple .double]).build = .ok em ∧ em.RowContract ∧
      em.RowDefined := by
  have hseparate : ((draft [.ofKind "value" .simple .double]).build.toOption.any fun em =>
      decide (∀ pm ∈ em.rowProperties, pm.name ∉ em.idColumns)) = true := by decide +kernel
  cases hbuild : (draft [.ofKind "value" .simple .double]).build with
  | error e =>
    rw [hbuild] at hseparate
    cases hseparate
  | ok em =>
    rw [hbuild] at hseparate
    have hcontract := EntityMeta.row_contract hbuild
    exact ⟨em, rfl, hcontract, hcontract.defined.2 (of_decide_eq_true hseparate)⟩

/-- A property may be named like a component of the key; its column is then inserted twice. -/
theorem not_rowDefined_of_shared_column :
    ¬ ∀ (draft : EntityDraft) (em : EntityMeta), draft.build = .ok em → em.RowDefined := by
  intro h
  have htwice : ((draft [.ofKind "taken" .simple .bigint]).build.toOption.any fun em =>
      decide (¬ (Template.insertColumns em).Nodup)) = true := by decide +kernel
  cases hbuild : (draft [.ofKind "taken" .simple .bigint]).build with
  | error e =>
    rw [hbuild] at htwice
    cases htwice
  | ok em =>
    rw [hbuild] at htwice
    exact of_decide_eq_true htwice (h _ em hbuild).insert

end Sample

end WideColumn
