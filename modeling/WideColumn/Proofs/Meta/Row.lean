import WideColumn.Proofs.Meta.Rules
import WideColumn.Query.Template

/-!
# The row of an entity class

What the checks of a declaration mean for the columns of the row. Names are checked within the
properties and within the components of the key, but not between the two: the columns of a row are
distinct exactly when no property with a column is named like a key column (`rowDefined_iff`).
-/

namespace WideColumn

/-! ### Key columns -/

theorem PropertyDraft.keyFault?_of_fault? {draft : PropertyDraft} (h : draft.fault? = none) :
    draft.keyFault? = none := by
  unfold fault? at h
  split at h
  · cases h
  · split at h
    · cases h
    · assumption

/-- The components of a well laid out key have distinct names. -/
theorem CompoundKey.nodup_columnNames {key : CompoundKey} (h : key.fault? = none) :
    key.columnNames.Nodup := by
  unfold fault? at h
  split at h
  · cases h
  · split at h
    · cases h
    · next hrepeated => exact ((firstRepeated_eq_none_iff _ _).1 hrepeated).1

/-- A well declared property has its own name as its only column, unless it is a compound key. -/
theorem PropertyMeta.columnNames_of_not_embedded {pm : PropertyMeta} (h : pm.fault? = none)
    (hkind : pm.kind ≠ .embeddedId) : pm.columnNames = [pm.name] := by
  have hfault := PropertyDraft.keyFault?_of_fault? h
  unfold PropertyDraft.keyFault? at hfault
  unfold columnNames
  cases hkey : pm.key with
  | none => rfl
  | some key =>
    rw [hkey] at hfault
    split at hfault <;> simp_all

theorem PropertyMeta.nodup_columnNames {pm : PropertyMeta} (h : pm.fault? = none) :
    pm.columnNames.Nodup := by
  by_cases hkind : pm.kind = .embeddedId
  · have hfault := PropertyDraft.keyFault?_of_fault? h
    unfold PropertyDraft.keyFault? at hfault
    unfold columnNames
    cases hkey : pm.key with
    | none => exact List.nodup_singleton _
    | some key =>
      rw [hkind, hkey] at hfault
      exact CompoundKey.nodup_columnNames (by simpa using hfault)
  · rw [columnNames_of_not_embedded h hkind]
    exact List.nodup_singleton _

/-! ### Columns of the row -/

namespace EntityMeta

variable {em : EntityMeta}

/-- The properties besides the key that are columns of the row: all but the counters, or the
counters where the row is one of a counter table. -/
def rowProperties (em : EntityMeta) : List PropertyMeta :=
  if em.isClusteredCounter then em.counters else em.plain

/-- The columns of the row are well defined: those of an insert are distinct, so are those of a
read, and no counter of a counter table is a key column. -/
structure RowDefined (em : EntityMeta) : Prop where
  insert : (Template.insertColumns em).Nodup
  read : (Template.entityColumns em).Nodup
  counters : em.isClusteredCounter = true → ∀ pm ∈ em.counters, pm.name ∉ em.idColumns

theorem rowProperties_subset : ∀ pm ∈ em.rowProperties, pm ∈ em.properties ∧ pm.isId = false := by
  intro pm hpm
  unfold rowProperties at hpm
  split at hpm
  · obtain ⟨hmem, hcounter⟩ := List.mem_filter.1 hpm
    refine ⟨hmem, ?_⟩
    unfold PropertyMeta.isId
    cases hkind : pm.kind <;> simp_all [PropertyMeta.isCounter, PropertyKind.isCounter,
      PropertyKind.isId]
  · obtain ⟨hmem, hplain⟩ := List.mem_filter.1 hpm
    exact ⟨hmem, by simp_all⟩

namespace Rules

variable (h : em.Rules)
include h

theorem id_mem : em.id ∈ em.properties ∧ em.id.isId = true := by
  have hid : em.id ∈ em.properties.filter PropertyMeta.isId := by
    rw [h.id]
    exact List.mem_singleton_self _
  exact List.mem_filter.1 hid

theorem nodup_idColumns : em.idColumns.Nodup :=
  PropertyMeta.nodup_columnNames (h.property _ h.id_mem.1)

theorem nodup_plain : (em.plain.map fun pm => pm.name).Nodup :=
  h.names.sublist (List.filter_sublist.map _)

theorem columnNames_of_plain {pm : PropertyMeta} (hpm : pm ∈ em.plain) :
    pm.columnNames = [pm.name] := by
  obtain ⟨hmem, hplain⟩ := List.mem_filter.1 hpm
  refine PropertyMeta.columnNames_of_not_embedded (h.property pm hmem) fun hkind => ?_
  simp [PropertyMeta.isId, PropertyKind.isId, hkind] at hplain

/-- A counter table has no plain properties. -/
theorem plain_eq_nil (hcounter : em.isClusteredCounter = true) : em.plain = [] := by
  have hfault := h.counterTable hcounter
  unfold EntityDraft.counterTableFault? at hfault
  dsimp only at hfault
  split at hfault
  · cases hfault
  · split at hfault
    · cases hfault
    · next hnone =>
      rw [List.find?_eq_none] at hnone
      refine List.filter_eq_nil_iff.2 fun pm hpm hplain => ?_
      obtain ⟨hid, hcounter⟩ : pm.isId = false ∧ pm.isCounter = false := by simpa using hplain
      exact hnone pm (List.mem_filter.2 ⟨hpm, by simp [hid]⟩) (by simp [hcounter])

/-- The columns of an insert are distinct when no plain property is named like a key column. -/
theorem nodup_insertColumns_iff :
    (Template.insertColumns em).Nodup ↔ ∀ pm ∈ em.plain, pm.name ∉ em.idColumns := by
  unfold Template.insertColumns
  rw [List.nodup_append']
  constructor
  · rintro ⟨-, -, hdisjoint⟩ pm hpm hcolumn
    exact hdisjoint hcolumn (List.mem_map_of_mem hpm)
  · intro hseparate
    refine ⟨h.nodup_idColumns, h.nodup_plain, fun column hcolumn hname => ?_⟩
    obtain ⟨pm, hpm, rfl⟩ := List.mem_map.1 hname
    exact hseparate pm hpm hcolumn

/-- The columns of a row are well defined exactly when none besides the key is named like a key
column. -/
theorem rowDefined_iff : em.RowDefined ↔ ∀ pm ∈ em.rowProperties, pm.name ∉ em.idColumns := by
  have hinsert := h.nodup_insertColumns_iff
  unfold rowProperties
  by_cases hcounter : em.isClusteredCounter = true
  · rw [if_pos hcounter]
    refine ⟨fun hrow => hrow.counters hcounter, fun hcounters => ⟨?_, ?_, fun _ => hcounters⟩⟩
    · rw [hinsert, h.plain_eq_nil hcounter]
      exact List.forall_mem_nil _
    · rw [Template.entityColumns, if_pos hcounter]
      exact List.nodup_nil
  · rw [if_neg hcounter, ← hinsert]
    refine ⟨fun hrow => hrow.insert, fun hcolumns => ⟨hcolumns, ?_, fun h => absurd h hcounter⟩⟩
    rw [Template.entityColumns, if_neg hcounter]
    exact hcolumns.sublist (List.filter_sublist.map _ |>.append_left _)

/-- With a key of a single column they always are. -/
theorem rowDefined_of_single (hid : em.id.kind = .id) : em.RowDefined := by
  have hcolumns : em.idColumns = [em.id.name] :=
    PropertyMeta.columnNames_of_not_embedded (h.property _ h.id_mem.1) (by rw [hid]; decide)
  refine h.rowDefined_iff.2 fun pm hpm hcolumn => ?_
  obtain ⟨hmem, hnotId⟩ := rowProperties_subset pm hpm
  rw [hcolumns, List.mem_singleton] at hcolumn
  have heq : pm = em.id := List.inj_on_of_nodup_map h.names hmem h.id_mem.1 hcolumn
  rw [heq, h.id_mem.2] at hnotId
  cases hnotId

end Rules

end EntityMeta

end WideColumn
