import Mathlib.Data.List.Basic
import WideColumn.Proofs.Meta.Layout
import WideColumn.Proofs.Meta.Rules

/-!
# Declared classes

The checks of a declaration run over three levels, the class, its properties and the components of
a compound key, and stop at the first fault. Here the rules of each level are told without an order
(`PropertyDraft.WellDeclared`, `EntityDraft.WellDeclared`), and the metadata of a class is built
exactly when they hold (`EntityDraft.build_contract`). What is built says what was declared, and
its views split the properties (`EntityMeta.Describes`).
-/

namespace WideColumn

/-! ### Properties -/

theorem PropertyKind.isCounter_iff {kind : PropertyKind} :
    kind.isCounter = true ↔ kind = .counter := by
  cases kind <;> simp [PropertyKind.isCounter]

namespace PropertyDraft

variable {draft : PropertyDraft}

/-- A property that is declared by the rules. -/
structure WellDeclared (draft : PropertyDraft) : Prop where
  name : Text.isBlank draft.name = false
  components : draft.key.isSome = true ↔ draft.kind = .embeddedId
  layout : ∀ key, draft.key = some key → key.WellLaidOut
  counter : draft.type = .counter ↔ draft.kind = .counter
  eagerId : draft.kind.isId = true → draft.isLazy = false

theorem keyFault?_eq_none_iff :
    draft.keyFault? = none ↔ (draft.key.isSome = true ↔ draft.kind = .embeddedId) ∧
      ∀ key, draft.key = some key → key.WellLaidOut := by
  unfold keyFault?
  cases hkey : draft.key with
  | none => cases hkind : draft.kind <;> simp
  | some key =>
    by_cases hkind : draft.kind = .embeddedId
    · simp [hkind, CompoundKey.fault?_eq_none_iff]
    · cases hother : draft.kind <;> simp_all

theorem counterType_iff :
    (draft.kind.isCounter != (draft.type == .counter)) = false ↔
      (draft.type = .counter ↔ draft.kind = .counter) := by
  rw [bne_eq_false_iff_eq, Bool.eq_iff_iff, PropertyKind.isCounter_iff, beq_iff_eq]
  exact Iff.comm

/-- The check finds no fault exactly in the properties that are declared by the rules. -/
theorem fault?_eq_none_iff : draft.fault? = none ↔ draft.WellDeclared := by
  unfold fault?
  constructor
  · intro h
    split at h
    · cases h
    · next hname =>
      split at h
      · cases h
      · next hkey =>
        split at h
        · cases h
        · next hcounter =>
          split at h
          · cases h
          · next heager =>
            obtain ⟨hcomponents, hlayout⟩ := keyFault?_eq_none_iff.1 hkey
            exact ⟨by simpa using hname, hcomponents, hlayout,
              counterType_iff.1 (by simpa using hcounter), by simpa using heager⟩
  · intro h
    rw [if_neg (by simp [h.name]), keyFault?_eq_none_iff.2 ⟨h.components, h.layout⟩]
    dsimp only
    rw [if_neg (by simp [counterType_iff.2 h.counter]), if_neg (by simpa using h.eagerId)]

end PropertyDraft

/-! ### The class -/

/-- What a class of counters has to declare: clustering components in its key, and besides the key
counters only, at least one. -/
structure EntityDraft.CounterTable (draft : EntityDraft) : Prop where
  clustered : ∀ pd ∈ draft.properties, pd.kind.isId = true →
    ∃ key, pd.key = some key ∧ ∃ c ∈ key.components, c.role = .clustering
  counters : ∀ pd ∈ draft.properties, pd.kind.isId = false → pd.kind = .counter
  nonempty : ∃ pd ∈ draft.properties, pd.kind.isId = false

/-- A class that is declared by the rules. -/
structure EntityDraft.WellDeclared (draft : EntityDraft) : Prop where
  table : Text.isBlank draft.tableName = false
  names : (draft.properties.map fun pd => pd.name).Nodup
  property : ∀ pd ∈ draft.properties, pd.WellDeclared
  oneId : (draft.properties.filter fun pd => pd.kind.isId).length = 1
  counterTable : draft.isClusteredCounter = true → draft.CounterTable

namespace EntityDraft

variable {draft : EntityDraft} {em : EntityMeta}

/-- The properties of the class, each with the name of the class. -/
def checkedProperties (draft : EntityDraft) : List PropertyMeta :=
  draft.properties.map fun pd => { pd with entityClass := draft.className }

/-- The metadata of the class, with the given key. -/
def describedBy (draft : EntityDraft) (id : PropertyMeta) : EntityMeta :=
  { className := draft.className
    tableName := draft.tableName
    id
    properties := draft.checkedProperties
    declaredReadLevel := draft.readLevel
    declaredWriteLevel := draft.writeLevel
    readLevel := draft.readLevel.getD Level.standard
    writeLevel := draft.writeLevel.getD Level.standard
    isClusteredCounter := draft.isClusteredCounter }

theorem eq_map_of_buildProperties {entityClass : String} {drafts : List PropertyDraft}
    {seen : List String} {properties : List PropertyMeta}
    (h : buildProperties entityClass seen drafts = .ok properties) :
    properties = drafts.map fun pd => { pd with entityClass } := by
  induction drafts generalizing seen properties with
  | nil => exact (Except.ok.inj h).symm
  | cons pd rest ih =>
    unfold buildProperties at h
    split at h
    · cases h
    · split at h
      · cases h
      · obtain ⟨checked, hchecked, h⟩ := Op.except_bind_eq_ok h
        rw [← Except.ok.inj h, ih hchecked, List.map_cons]

/-- Properties with new and distinct names, each well declared, pass the check. -/
theorem buildProperties_eq_ok {entityClass : String} {drafts : List PropertyDraft}
    {seen : List String} (hnames : (drafts.map fun pd => pd.name).Nodup)
    (hfresh : ∀ pd ∈ drafts, pd.name ∉ seen) (hproperty : ∀ pd ∈ drafts, pd.WellDeclared) :
    buildProperties entityClass seen drafts =
      .ok (drafts.map fun pd => { pd with entityClass }) := by
  induction drafts generalizing seen with
  | nil => rfl
  | cons pd rest ih =>
    obtain ⟨hnew, hnames⟩ := List.nodup_cons.1 hnames
    obtain ⟨hpd, hproperty⟩ := List.forall_mem_cons.1 hproperty
    obtain ⟨hunseen, hfresh⟩ := List.forall_mem_cons.1 hfresh
    have hrest : ∀ other ∈ rest, other.name ∉ pd.name :: seen := by
      intro other hother hmem
      rcases List.mem_cons.1 hmem with heq | hmem
      · exact hnew (List.mem_map.2 ⟨other, hother, heq⟩)
      · exact hfresh other hother hmem
    unfold buildProperties
    rw [if_neg (by simpa using hunseen), PropertyDraft.fault?_eq_none_iff.2 hpd]
    dsimp only
    rw [ih hnames hrest hproperty]
    rfl

theorem buildProperties_eq_ok_iff {properties : List PropertyMeta} :
    buildProperties draft.className [] draft.properties = .ok properties ↔
      (draft.properties.map fun pd => pd.name).Nodup ∧
        (∀ pd ∈ draft.properties, pd.WellDeclared) ∧ properties = draft.checkedProperties := by
  constructor
  · intro h
    obtain rfl : properties = draft.checkedProperties := eq_map_of_buildProperties h
    refine ⟨?_, fun pd hpd => ?_, rfl⟩
    · simpa [DistinctNames, checkedProperties, Function.comp_def]
        using (names_of_buildProperties h).1
    · exact PropertyDraft.fault?_eq_none_iff.1
        (fault?_of_buildProperties h _ (List.mem_map_of_mem hpd))
  · rintro ⟨hnames, hproperty, rfl⟩
    exact buildProperties_eq_ok hnames (by simp) hproperty

theorem theId_eq_ok_iff {properties : List PropertyMeta} {id : PropertyMeta} :
    theId properties = .ok id ↔ properties.filter PropertyMeta.isId = [id] := by
  refine ⟨filter_isId_of_theId, fun h => ?_⟩
  unfold theId
  rw [h]

theorem length_filter_isId :
    (draft.checkedProperties.filter PropertyMeta.isId).length =
      (draft.properties.filter fun pd => pd.kind.isId).length := by
  rw [checkedProperties, List.filter_map, List.length_map]
  rfl

theorem counterTableFault?_eq_none_iff {id : PropertyMeta} {properties : List PropertyMeta} :
    counterTableFault? id properties = none ↔ id.key.any CompoundKey.isClustered = true ∧
      (∀ pm ∈ properties, pm.isId = false → pm.isCounter = true) ∧
        ∃ pm ∈ properties, pm.isId = false := by
  have hothers : (properties.filter fun pm => !pm.isId) ≠ [] ↔
      ∃ pm ∈ properties, pm.isId = false := by simp
  unfold counterTableFault?
  dsimp only
  rw [← hothers]
  by_cases hkey : id.key.any CompoundKey.isClustered = true
  · rw [if_neg (by simp [hkey])]
    cases hfind : (properties.filter fun pm => !pm.isId).find? (fun pm => !pm.isCounter) with
    | some pm =>
      obtain ⟨hpm, hid⟩ := List.mem_filter.1 (List.mem_of_find?_eq_some hfind)
      have hnot := List.find?_some hfind
      simp only [Option.some_ne_none, false_iff]
      rintro ⟨-, hcounters, -⟩
      simp [hcounters pm hpm (by simpa using hid)] at hnot
    | none =>
      have hcounters : ∀ pm ∈ properties, pm.isId = false → pm.isCounter = true := by
        simpa using hfind
      simpa [hkey] using fun _ _ _ => hcounters
  · simp [hkey]

/-- The rules of counter tables, for a class whose key is the given one. -/
theorem counterTable_iff {id : PropertyMeta}
    (hid : draft.checkedProperties.filter PropertyMeta.isId = [id]) :
    counterTableFault? id draft.checkedProperties = none ↔ draft.CounterTable := by
  have hsole : ∀ pd ∈ draft.properties, pd.kind.isId = true →
      ({ pd with entityClass := draft.className } : PropertyMeta) = id := by
    intro pd hpd hkind
    exact List.mem_singleton.1 (hid ▸ List.mem_filter.2 ⟨List.mem_map_of_mem hpd, hkind⟩)
  have hkey : id.key.any CompoundKey.isClustered = true ↔
      ∃ key, id.key = some key ∧ ∃ c ∈ key.components, c.role = .clustering := by
    simp [Option.any_eq_true, CompoundKey.isClustered, CompoundKey.clustering]
  rw [counterTableFault?_eq_none_iff, hkey]
  constructor
  · rintro ⟨hclustered, hcounters, pm, hpm, hother⟩
    refine ⟨fun pd hpd hkind => ?_, fun pd hpd hkind => ?_, ?_⟩
    · rw [← hsole pd hpd hkind] at hclustered
      exact hclustered
    · exact PropertyKind.isCounter_iff.1 (hcounters _ (List.mem_map_of_mem hpd) hkind)
    · obtain ⟨pd, hpd, rfl⟩ := List.mem_map.1 hpm
      exact ⟨pd, hpd, hother⟩
  · intro h
    have hmem : id ∈ draft.checkedProperties.filter PropertyMeta.isId := by simp [hid]
    obtain ⟨hidMem, hidKind⟩ := List.mem_filter.1 hmem
    obtain ⟨pd, hpd, rfl⟩ := List.mem_map.1 hidMem
    refine ⟨h.clustered pd hpd hidKind, fun pm hpm hother => ?_, ?_⟩
    · obtain ⟨other, hmem, rfl⟩ := List.mem_map.1 hpm
      exact PropertyKind.isCounter_iff.2 (h.counters other hmem hother)
    · obtain ⟨other, hmem, hother⟩ := h.nonempty
      exact ⟨_, List.mem_map_of_mem hmem, hother⟩

/-- The checks one after the other: the name of the table, the properties, the key, and the rules
of counter tables. -/
theorem check_eq_ok_iff :
    draft.check = .ok em ↔ Text.isBlank draft.tableName = false ∧ ∃ id,
      buildProperties draft.className [] draft.properties = .ok draft.checkedProperties ∧
      theId draft.checkedProperties = .ok id ∧
      (draft.isClusteredCounter = true → counterTableFault? id draft.checkedProperties = none) ∧
      em = draft.describedBy id := by
  unfold check
  dsimp only
  by_cases hblank : Text.isBlank draft.tableName = true
  · rw [if_pos hblank]
    refine ⟨fun h => ?_, fun h => absurd hblank (by simp [h.1])⟩
    cases h
  rw [if_neg hblank]
  constructor
  · intro h
    obtain ⟨properties, hproperties, h⟩ := Op.except_bind_eq_ok h
    obtain ⟨id, hid, h⟩ := Op.except_bind_eq_ok h
    obtain rfl : properties = draft.checkedProperties := eq_map_of_buildProperties hproperties
    refine ⟨by simpa using hblank, id, hproperties, hid, ?_⟩
    by_cases hcounter : draft.isClusteredCounter = true
    · rw [if_pos hcounter] at h
      cases hfault : counterTableFault? id draft.checkedProperties with
      | some fault =>
        rw [hfault] at h
        cases h
      | none =>
        rw [hfault] at h
        exact ⟨fun _ => rfl, (Except.ok.inj h).symm⟩
    · rw [if_neg hcounter] at h
      exact ⟨fun h => absurd h hcounter, (Except.ok.inj h).symm⟩
  · rintro ⟨-, id, hproperties, hid, hfault, rfl⟩
    simp only [hproperties, hid, bind, Except.bind]
    by_cases hcounter : draft.isClusteredCounter = true
    · rw [if_pos hcounter, hfault hcounter]
      rfl
    · rw [if_neg hcounter]
      rfl

theorem build_eq_ok_iff_check : draft.build = .ok em ↔ draft.check = .ok em := by
  unfold build
  cases draft.check <;> simp [Except.mapError]

/-- What is built is the metadata of the class with its one key, and the rules hold. -/
theorem build_eq_ok_iff :
    draft.build = .ok em ↔ draft.WellDeclared ∧
      ∃ id, draft.checkedProperties.filter PropertyMeta.isId = [id] ∧
        em = draft.describedBy id := by
  rw [build_eq_ok_iff_check, check_eq_ok_iff]
  constructor
  · rintro ⟨htable, id, hproperties, hid, hfault, rfl⟩
    obtain ⟨hnames, hproperty, -⟩ := buildProperties_eq_ok_iff.1 hproperties
    have hfilter := filter_isId_of_theId hid
    refine ⟨⟨htable, hnames, hproperty, ?_, fun h => (counterTable_iff hfilter).1 (hfault h)⟩,
      id, hfilter, rfl⟩
    rw [← length_filter_isId, hfilter]
    rfl
  · rintro ⟨h, id, hfilter, rfl⟩
    exact ⟨h.table, id, buildProperties_eq_ok_iff.2 ⟨h.names, h.property, rfl⟩,
      theId_eq_ok_iff.2 hfilter, fun hc => (counterTable_iff hfilter).2 (h.counterTable hc), rfl⟩

end EntityDraft

/-! ### What is built -/

namespace EntityMeta

variable {em : EntityMeta} {draft : EntityDraft}

/-- The declaration that the metadata tells. -/
def toDraft (em : EntityMeta) : EntityDraft :=
  { className := em.className
    tableName := em.tableName
    properties := em.properties.map PropertyMeta.toPropertyDraft
    readLevel := em.declaredReadLevel
    writeLevel := em.declaredWriteLevel
    isClusteredCounter := em.isClusteredCounter }

/-- The metadata of a declared class. -/
structure Describes (em : EntityMeta) (draft : EntityDraft) : Prop where
  /-- Nothing that was declared is lost or changed. -/
  declared : em.toDraft = draft
  entityClass : ∀ pm ∈ em.properties, pm.entityClass = draft.className
  /-- Levels that were not declared are the standard ones. -/
  levels : em.readLevel = draft.readLevel.getD Level.standard ∧
    em.writeLevel = draft.writeLevel.getD Level.standard
  id : em.properties.filter PropertyMeta.isId = [em.id]
  /-- The key, the counters, the eager and the lazy properties are all of them, each once. -/
  parts : (em.id :: (em.counters ++ (em.eager ++ em.onDemand))).Perm em.properties
  /-- Each view keeps the declared order. -/
  order : em.counters.Sublist em.properties ∧ em.eager.Sublist em.properties ∧
    em.onDemand.Sublist em.properties
  counters : ∀ pm, pm ∈ em.counters ↔ pm ∈ em.properties ∧ pm.kind = .counter
  eager : ∀ pm, pm ∈ em.eager ↔
    pm ∈ em.properties ∧ pm.isLazy = false ∧ pm.kind.isId = false ∧ pm.kind ≠ .counter
  onDemand : ∀ pm, pm ∈ em.onDemand ↔
    pm ∈ em.properties ∧ pm.isLazy = true ∧ pm.kind.isId = false ∧ pm.kind ≠ .counter
  /-- The properties are found by their names, and by no other. -/
  lookup : ∀ name, (∃ pm, em.property name = .ok pm) ↔
    name ∈ draft.properties.map fun pd => pd.name
  found : ∀ name pm, em.property name = .ok pm → pm ∈ em.properties ∧ pm.name = name

/-- The views split the properties, whatever these are, once the key is known. -/
theorem perm_parts (hid : em.properties.filter PropertyMeta.isId = [em.id]) :
    (em.id :: (em.counters ++ (em.eager ++ em.onDemand))).Perm em.properties := by
  have hplain : (em.eager ++ em.onDemand).Perm em.plain := by
    have := List.filter_append_perm (fun pm : PropertyMeta => !pm.isLazy) em.plain
    simpa [eager, onDemand] using this
  have hcounters : (em.properties.filter fun pm => !pm.isId).filter PropertyMeta.isCounter =
      em.counters := by
    rw [List.filter_filter, counters]
    refine List.filter_congr fun pm _ => ?_
    cases hcounter : pm.isCounter with
    | false => rfl
    | true => simp [PropertyMeta.isId_of_isCounter hcounter]
  have hothers : (em.counters ++ em.plain).Perm (em.properties.filter fun pm => !pm.isId) := by
    have := List.filter_append_perm PropertyMeta.isCounter
      (em.properties.filter fun pm => !pm.isId)
    rw [hcounters, List.filter_filter] at this
    simpa [plain, Bool.and_comm] using this
  have hall : ([em.id] ++ em.properties.filter (fun pm => !pm.isId)).Perm em.properties :=
    hid ▸ List.filter_append_perm PropertyMeta.isId em.properties
  exact ((((hplain.append_left _).trans hothers).cons _).trans hall)

theorem property_eq_ok_iff {name : String} {pm : PropertyMeta} :
    em.property name = .ok pm ↔ em.find? name = some pm := by
  unfold property
  cases em.find? name <;> simp

theorem exists_property_iff {name : String} :
    (∃ pm, em.property name = .ok pm) ↔ name ∈ em.properties.map fun pm => pm.name := by
  simp only [property_eq_ok_iff, ← Option.isSome_iff_exists, find?, List.find?_isSome,
    List.mem_map, beq_iff_eq]

theorem describes_describedBy {id : PropertyMeta}
    (hid : draft.checkedProperties.filter PropertyMeta.isId = [id]) :
    (draft.describedBy id).Describes draft where
  declared := by simp [toDraft, EntityDraft.describedBy, EntityDraft.checkedProperties,
    Function.comp_def]
  entityClass pm hpm := by
    obtain ⟨pd, -, rfl⟩ := List.mem_map.1 hpm
    rfl
  levels := ⟨rfl, rfl⟩
  id := hid
  parts := perm_parts hid
  order := ⟨List.filter_sublist, List.filter_sublist.trans List.filter_sublist,
    List.filter_sublist.trans List.filter_sublist⟩
  counters pm := by rw [EntityMeta.counters, List.mem_filter, PropertyMeta.isCounter,
    PropertyKind.isCounter_iff]
  eager pm := by
    simp [EntityMeta.eager, plain, List.mem_filter, PropertyMeta.isId, PropertyMeta.isCounter,
      ← PropertyKind.isCounter_iff]
  onDemand pm := by
    simp [EntityMeta.onDemand, plain, List.mem_filter, PropertyMeta.isId, PropertyMeta.isCounter,
      ← PropertyKind.isCounter_iff]
  lookup name := by
    rw [exists_property_iff]
    simp [EntityDraft.describedBy, EntityDraft.checkedProperties, Function.comp_def]
  found name pm h := by
    have hfind := property_eq_ok_iff.1 h
    exact ⟨List.mem_of_find?_eq_some hfind, by simpa using List.find?_some hfind⟩

/-- The table of checked metadata has a name. -/
theorem Built.table (h : em.Built) : Text.isBlank em.tableName = false := by
  obtain ⟨draft, checked, read, write, hbuild, rfl⟩ := h
  obtain ⟨hdeclared, id, -, rfl⟩ := EntityDraft.build_eq_ok_iff.1 hbuild
  exact hdeclared.table

/-- The compound key of checked metadata is laid out by the rules. -/
theorem Built.layout (h : em.Built) {key : CompoundKey} (hkey : em.id.key = some key) :
    key.WellLaidOut := by
  have hid : em.id ∈ em.properties.filter PropertyMeta.isId := by simp [h.rules.id]
  have hfault := h.rules.property em.id (List.mem_filter.1 hid).1
  exact (PropertyDraft.fault?_eq_none_iff.1 hfault).layout key hkey

end EntityMeta

/-- Metadata is built exactly for the classes that are declared by the rules; it tells what was
declared, its views split the properties, and a property is found by its name. -/
theorem EntityDraft.build_contract (draft : EntityDraft) :
    ((∃ em, draft.build = .ok em) ↔ draft.WellDeclared) ∧
      ∀ em, draft.build = .ok em → em.Describes draft := by
  refine ⟨⟨?_, fun h => ?_⟩, fun em h => ?_⟩
  · rintro ⟨em, h⟩
    exact (build_eq_ok_iff.1 h).1
  · obtain ⟨id, hid⟩ := List.length_eq_one_iff.1 (length_filter_isId.trans h.oneId)
    exact ⟨_, build_eq_ok_iff.2 ⟨h, id, hid, rfl⟩⟩
  · obtain ⟨-, id, hid, rfl⟩ := build_eq_ok_iff.1 h
    exact EntityMeta.describes_describedBy hid

end WideColumn
