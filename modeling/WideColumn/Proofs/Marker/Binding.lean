import WideColumn.Proofs.Encoding.Key
import WideColumn.Proofs.Marker.Templates
import WideColumn.Proofs.Meta.Row
import WideColumn.Proofs.Registry.Registration
import WideColumn.Proofs.Registry.Texts

/-!
# Values and markers

The binders encode values by traversals of their own, which have to agree with the texts of the
templates. A `Slot` is a marker with what it stands for; a request fits when its values are those of
the markers of its text, one by one. Values always fit the templates of the class that they are
bound for. The text is found by class name, so it is the right one if no other type has the class
name. Main statement: `marker_contract`.
-/

namespace WideColumn

open Op

/-- A marker, and the encoding of what it stands for. -/
structure Slot where
  marker : Marker
  value : Except Error Value

/-- The values are those that the markers of the text stand for, in order. -/
structure Request.Fits (r : Request) (slots : List Slot) : Prop where
  markers : markersIn r.query = slots.map Slot.marker
  values : r.values.map .ok = slots.map Slot.value

/-- A request that fits has as many values as its text has markers. -/
theorem Request.Fits.length_values {r : Request} {slots : List Slot} (h : r.Fits slots) :
    r.values.length = countMarkers false r.query.toList := by
  have hmarkers := congrArg List.length h.markers
  have hvalues := congrArg List.length h.values
  rw [length_markersIn ⟨0, r.query⟩, List.length_map] at hmarkers
  rw [List.length_map, List.length_map] at hvalues
  rw [hvalues, ← hmarkers]
  rfl

/-! ### Slots -/

/-- The slots of the key columns, at the given places. -/
def EntityMeta.keySlots (em : EntityMeta) (place : String → Place) (key : List Value) : List Slot :=
  ((em.idColumns.zip em.id.columnTypes).zip key).map fun ((column, type), v) =>
    ⟨⟨some column, place column⟩, .ok (type.encode v)⟩

/-- The slots of attributes of an entity, at the given places. -/
def EntityType.attributeSlots {E : Type} (T : EntityType E) (place : String → Place)
    (properties : List PropertyMeta) (entity : E) : List Slot :=
  properties.map fun pm =>
    ⟨⟨some pm.name, place pm.name⟩, pm.encode ((T.value? entity pm.name).getD .null)⟩

/-- The slot of the time to live. -/
def ttlSlot (options : Options) : Slot := ⟨Template.ttlMarker, .ok (ttlValue options)⟩

/-- The slot of the magnitude of a delta: its sign says whether it is added or subtracted. -/
def deltaSlot (name : Option String) (column : String) (delta : Int) : Slot :=
  ⟨⟨name, if 0 ≤ delta then .added column else .subtracted column⟩,
    .ok (.bigint (Int64.ofNat delta.natAbs))⟩

/-- The slots of the key of a counter in the shared table. -/
def EntityMeta.sharedSlots (em : EntityMeta) (pm : PropertyMeta) (key : List Value) : List Slot :=
  [⟨⟨none, .compared Template.counterClass⟩, .ok (.text em.className)⟩,
    ⟨⟨none, .compared Template.counterKey⟩,
      (Registry.encodedKey em key).map fun encoded => .text (keyText encoded)⟩,
    ⟨⟨none, .compared Template.counterProperty⟩, .ok (.text pm.name)⟩]

theorem map_ok_of_mapM_eq_ok {α β ε : Type} {f : α → Except ε β} {xs : List α} {ys : List β}
    (h : xs.mapM f = .ok ys) : ys.map .ok = xs.map f := by
  induction xs generalizing ys with
  | nil =>
    rw [← Except.ok.inj h]
    rfl
  | cons x xs ih =>
    rw [List.mapM_cons] at h
    obtain ⟨y, hy, h⟩ := except_bind_eq_ok h
    obtain ⟨rest, hrest, h⟩ := except_bind_eq_ok h
    rw [← Except.ok.inj h, List.map_cons, List.map_cons, hy, ih hrest]

section

variable {em : EntityMeta} {key encoded : List Value}
  (h : Registry.encodedKey em key = .ok encoded) (place : String → Place)
include h

/-- An encoded key has the values of the slots of the key columns. -/
theorem EntityMeta.values_keySlots : encoded.map .ok = (em.keySlots place key).map Slot.value := by
  obtain ⟨-, -, rfl⟩ := PropertyMeta.encodeComponents_eq_ok_iff.1 h
  rw [PropertyMeta.sent_eq_map]
  simp [keySlots, idColumns]

/-- These are the markers of all the key columns. -/
theorem EntityMeta.markers_keySlots :
    (em.keySlots place key).map Slot.marker =
      em.idColumns.map fun column => ⟨some column, place column⟩ := by
  obtain ⟨hkey, -, -⟩ := PropertyMeta.encodeComponents_eq_ok_iff.1 h
  have htypes := em.id.length_columnTypes
  have hcolumns : ((em.idColumns.zip em.id.columnTypes).zip key).map (Prod.fst ∘ Prod.fst) =
      em.idColumns := by
    rw [← List.map_map, List.map_fst_zip, List.map_fst_zip]
    · exact Nat.le_of_eq htypes.symm
    · rw [List.length_zip, htypes, hkey]
      exact Nat.min_le_left _ _
  rw [← hcolumns]
  simp [keySlots]

end

/-! ### Binders -/

/-- What a binder is asked for. -/
inductive Binding (E : Type) where
  | insert (entity : E) (options : Options)
  /-- Of the given properties, in any order. -/
  | update (entity : E) (properties : List PropertyMeta) (options : Options)
  | removal (key : List Value) (options : Options)
  | select (key : List Value)
  | selectField (pm : PropertyMeta) (key : List Value)
  | sharedDelta (pm : PropertyMeta) (key : List Value) (delta : Int)
  | sharedSelect (pm : PropertyMeta) (key : List Value)
  | sharedDelete (pm : PropertyMeta) (key : List Value)
  | clusteredDelta (pm : PropertyMeta) (key : List Value) (delta : Int)
  | clusteredSelect (pm : PropertyMeta) (key : List Value)
  /-- The read of a whole counter row. -/
  | rowSelect (key : List Value)
  /-- The delete of a whole counter row. -/
  | rowDelete (key : List Value)

namespace Binding

variable {σ E : Type}

/-- A binder that gives one request. -/
def single (bound : Except Error Request) : Except Error (List Request) := bound.map fun r => [r]

/-- The requests that the binders of a registry give. Updates are bound on a site instead, which may
prepare them first. -/
def fromRegistry (r : Registry) (T : EntityType E) (em : EntityMeta) (level : Level) :
    Binding E → Except Error (List Request)
  | insert entity options => single (r.bindInsert T em entity options level)
  | update .. => return []
  | removal key options => r.bindRemoval em key options level
  | select key => single (r.bindSelect em key level)
  | selectField pm key => single (r.bindSelectField em pm key level)
  | sharedDelta pm key delta => single (r.bindSharedDelta em pm key delta level)
  | sharedSelect pm key => single (r.bindShared .select em pm key level)
  | sharedDelete pm key => single (r.bindShared .delete em pm key level)
  | clusteredDelta pm key delta => single (r.bindClusteredDelta em pm key delta level)
  | clusteredSelect pm key => single (r.bindClustered .select pm.name em key level)
  | rowSelect key => single (r.bindClustered .select Template.selectAll em key level)
  | rowDelete key => single (r.bindClustered .delete Template.deleteAll em key level)

/-- Run a binder. -/
def run [Session σ] (T : EntityType E) (em : EntityMeta) (level : Level) (binding : Binding E) :
    Op σ E (List Request) := do
  match binding with
  | update entity properties options =>
    return [← Op.bindUpdate T em entity properties options level]
  | _ => binding.fromRegistry (← get).registry T em level

/-- The texts that the templates give for a class. -/
def Says (em : EntityMeta) (text : String) : Binding E → Prop
  | insert .. => text = Template.insert em
  | update _ properties _ => text = Template.update em (sortedByName properties)
  | removal .. => ∃ table, (table, text) ∈ Template.deletes em
  | select _ => text = Template.selectEntity em
  | selectField pm _ =>
    ∃ own ∈ em.plain, own.name = pm.name ∧ Template.selectField em own = .ok text
  | sharedDelta _ _ delta => (Registry.deltaAction delta, text) ∈ Template.sharedCounters
  | sharedSelect .. => (.select, text) ∈ Template.sharedCounters
  | sharedDelete .. => (.delete, text) ∈ Template.sharedCounters
  | clusteredDelta pm _ delta =>
    ((Registry.deltaAction delta, pm.name), text) ∈ Template.clusteredCounters em
  | clusteredSelect pm _ => ((.select, pm.name), text) ∈ Template.clusteredCounters em
  | rowSelect _ => ((.select, Template.selectAll), text) ∈ Template.clusteredCounters em
  | rowDelete _ => ((.delete, Template.deleteAll), text) ∈ Template.clusteredCounters em

/-- What the markers stand for. -/
def slots (T : EntityType E) (em : EntityMeta) : Binding E → List Slot
  | insert entity options => em.keySlots .inserted (T.key entity) ++
      T.attributeSlots .inserted em.plain entity ++ [ttlSlot options]
  | update entity properties options => ttlSlot options ::
      T.attributeSlots .assigned (sortedByName properties) entity ++
        em.keySlots .compared (T.key entity)
  | sharedDelta pm key delta =>
    deltaSlot none Template.counterValue delta :: em.sharedSlots pm key
  | sharedSelect pm key | sharedDelete pm key => em.sharedSlots pm key
  | clusteredDelta pm key delta =>
    deltaSlot (some pm.name) pm.name delta :: em.keySlots .compared key
  | removal key _ | select key | selectField _ key | clusteredSelect _ key | rowSelect key
  | rowDelete key => em.keySlots .compared key

/-- The key that is bound. -/
def key (T : EntityType E) : Binding E → List Value
  | insert entity _ | update entity _ _ => T.key entity
  | removal key _ | select key | selectField _ key | sharedDelta _ key _ | sharedSelect _ key
  | sharedDelete _ key | clusteredDelta _ key _ | clusteredSelect _ key | rowSelect key
  | rowDelete key => key

/-- No attribute of a new entity is listed twice, and an update is one of plain properties. -/
def Lawful (T : EntityType E) (em : EntityMeta) : Binding E → Prop
  | insert entity _ => ((T.values entity).map Prod.fst).Nodup
  | update _ properties _ => ∀ pm ∈ properties, pm ∈ em.plain
  | _ => True

/-! ### Markers of the templates -/

section

variable {em : EntityMeta} {T : EntityType E} {binding : Binding E}

theorem markers_attributeSlots (place : String → Place) (properties : List PropertyMeta)
    (entity : E) : (T.attributeSlots place properties entity).map Slot.marker =
      properties.map fun pm => ⟨some pm.name, place pm.name⟩ := by
  simp [EntityType.attributeSlots]

theorem marker_deltaSlot (name : Option String) (column : String) (delta : Int) :
    Template.deltaMarkers (Registry.deltaAction delta) name column =
      [(deltaSlot name column delta).marker] := by
  unfold Registry.deltaAction deltaSlot
  by_cases hdelta : 0 ≤ delta <;> simp [hdelta, Template.deltaMarkers]

/-- The markers of the templates of a class are those of the slots. -/
theorem markersIn_of_says (hrules : em.Rules) (hplain : em.PlainNames)
    (hlawful : binding.Lawful T em) {encoded : List Value}
    (hkey : Registry.encodedKey em (binding.key T) = .ok encoded) {text : String}
    (h : binding.Says em text) : markersIn text = (binding.slots T em).map Slot.marker := by
  have hcompared : (em.keySlots .compared (binding.key T)).map Slot.marker = _ :=
    EntityMeta.markers_keySlots hkey .compared
  have hplainName {pm : PropertyMeta} (hpm : pm ∈ em.plain) : IsPlainName pm.name :=
    hplain.property pm (List.mem_filter.1 hpm).1
  cases binding with
  | insert entity options =>
    have hinserted : (em.keySlots .inserted (T.key entity)).map Slot.marker = _ :=
      EntityMeta.markers_keySlots hkey .inserted
    rw [h, Template.markersIn_insert hplain, Template.insertColumns, slots, List.map_append,
      List.map_append, List.map_append, hinserted, markers_attributeSlots, List.map_map]
    rfl
  | update entity properties options =>
    have hnames : ∀ c ∈ (sortedByName properties).map (fun pm => pm.name), IsPlainName c := by
      intro c hc
      obtain ⟨pm, hpm, rfl⟩ := List.mem_map.1 hc
      exact hplainName (hlawful pm (List.mem_mergeSort.1 hpm))
    have hmarkers := Template.markersIn_update hplain hnames
    rw [key] at hcompared
    rw [h, slots, List.cons_append, List.map_cons, List.map_append, markers_attributeSlots,
      hcompared]
    rw [List.map_map] at hmarkers
    exact hmarkers
  | removal key options =>
    obtain ⟨table, hmem⟩ := h
    exact (Template.markersIn_deletes hplain hmem).trans hcompared.symm
  | select key =>
    rw [h]
    exact (Template.markersIn_selectEntity hplain).trans hcompared.symm
  | selectField pm key =>
    obtain ⟨own, hown, -, htext⟩ := h
    have hcolumns : ∀ c ∈ own.columnNames, IsPlainName c := by
      intro c hc
      rw [hrules.columnNames_of_plain hown, List.mem_singleton] at hc
      rw [hc]
      exact hplainName hown
    exact (Template.markersIn_selectField hplain hcolumns htext).trans hcompared.symm
  | sharedDelta pm key delta =>
    have hmarkers := Template.markersIn_sharedCounters h
    rw [marker_deltaSlot] at hmarkers
    exact hmarkers
  | sharedSelect pm key => exact Template.markersIn_sharedCounters h
  | sharedDelete pm key => exact Template.markersIn_sharedCounters h
  | clusteredDelta pm key delta =>
    have hmarkers := Template.markersIn_clusteredCounters hplain h
    rw [marker_deltaSlot] at hmarkers
    rw [Binding.key] at hcompared
    rw [slots, List.map_cons, hcompared]
    exact hmarkers
  | clusteredSelect pm key =>
    exact (Template.markersIn_clusteredCounters hplain h).trans hcompared.symm
  | rowSelect key => exact (Template.markersIn_clusteredCounters hplain h).trans hcompared.symm
  | rowDelete key => exact (Template.markersIn_clusteredCounters hplain h).trans hcompared.symm

end

end Binding

/-- A request has the values of the slots, the templates of the class have their markers, and the
text is that of a template of the class, or of a registered type with the same class name. -/
structure Request.Binds {E : Type} (r : Request) (types : List (String × EntityMeta))
    (em : EntityMeta) (binding : Binding E) (slots : List Slot) : Prop where
  values : r.values.map .ok = slots.map Slot.value
  own : ∀ text, binding.Says em text → markersIn text = slots.map Slot.marker
  text : ∃ em', (em' = em ∨ ∃ name, (name, em') ∈ types) ∧ em'.className = em.className ∧
    binding.Says em' r.query

namespace Binding

variable {σ E : Type} {r : Registry} {types : List (String × EntityMeta)} {em : EntityMeta}
  {T : EntityType E} {level : Level}

/-! ### Values -/

/-- Attributes are encoded in the order of their slots; of an entity that lists each attribute at
most once the insert takes the same values as an update. -/
theorem values_attributeSlots (place : String → Place) {properties : List PropertyMeta} {entity : E}
    {attributes : List Value}
    (h : (properties.mapM fun pm => pm.encode (Registry.updateValue T entity pm.name)) =
      .ok attributes) :
    attributes.map .ok = (T.attributeSlots place properties entity).map Slot.value := by
  rw [map_ok_of_mapM_eq_ok h, EntityType.attributeSlots, List.map_map]
  rfl

/-- Among distinct keys a look-up finds the same from either end. -/
theorem lookup_reverse_of_nodup {α β : Type} [BEq α] [LawfulBEq α] {entries : List (α × β)}
    (h : (entries.map Prod.fst).Nodup) (key : α) :
    entries.reverse.lookup key = entries.lookup key := by
  induction entries with
  | nil => rfl
  | cons entry rest ih =>
    obtain ⟨hnotin, hrest⟩ := List.nodup_cons.1 h
    rw [List.reverse_cons, List.lookup_append, ih hrest, List.lookup_cons]
    by_cases hkey : key = entry.1
    · have hnone : rest.lookup key = none := by
        by_contra hsome
        obtain ⟨value, hvalue⟩ := Option.ne_none_iff_exists'.1 hsome
        have hmem : key ∈ rest.map Prod.fst := List.mem_map.2 ⟨_, mem_of_lookup hvalue, rfl⟩
        exact hnotin (hkey ▸ hmem)
      have htrue : (key == entry.1) = true := by simpa using hkey
      rw [hnone, List.lookup_cons, htrue]
      rfl
    · have hfalse : (key == entry.1) = false := by simpa using hkey
      rw [hfalse, List.lookup_cons, hfalse]
      exact Option.or_none

theorem insertValue_eq {entity : E} (h : ((T.values entity).map Prod.fst).Nodup) (name : String) :
    Registry.insertValue T entity name = Registry.updateValue T entity name := by
  unfold Registry.insertValue Registry.updateValue EntityType.value?
  rw [lookup_reverse_of_nodup h]

theorem single_eq_ok {bound : Except Error Request} {requests : List Request}
    (h : single bound = .ok requests) : ∃ request, bound = .ok request ∧ requests = [request] := by
  cases bound with
  | error e => cases h
  | ok request => exact ⟨request, rfl, (Except.ok.inj h).symm⟩

theorem eq_ok_of_mem_single {bound : Except Error Request} {requests : List Request}
    (h : single bound = .ok requests) {request : Request} (hmem : request ∈ requests) :
    bound = .ok request := by
  obtain ⟨request', hbound, rfl⟩ := single_eq_ok h
  rw [hbound, List.mem_singleton.1 hmem]

/-- The values of a key that is bound alone. -/
theorem values_of_bindKey {p : Prepared} {key : List Value} {request : Request}
    (h : Registry.bindKey em p key level = .ok request) :
    (∃ encoded, Registry.encodedKey em key = .ok encoded) ∧
      request.values.map .ok = (em.keySlots .compared key).map Slot.value := by
  obtain ⟨encoded, hencoded, rfl⟩ := Registry.bindKey_eq_ok h
  exact ⟨⟨encoded, hencoded⟩, EntityMeta.values_keySlots hencoded _⟩

theorem values_of_bindClustered {action : CounterAction} {name : String} {key : List Value}
    {request : Request} (h : r.bindClustered action name em key level = .ok request) :
    (∃ encoded, Registry.encodedKey em key = .ok encoded) ∧
      request.values.map .ok = (em.keySlots .compared key).map Slot.value := by
  obtain ⟨p, -, h⟩ := except_bind_eq_ok h
  exact values_of_bindKey h

/-- The values of the key of a counter in the shared table. -/
theorem values_of_sharedCounterKey {pm : PropertyMeta} {key values : List Value}
    (h : Registry.sharedCounterKey em pm key = .ok values) :
    (∃ encoded, Registry.encodedKey em key = .ok encoded) ∧
      values.map .ok = (em.sharedSlots pm key).map Slot.value := by
  obtain ⟨encoded, hencoded, h⟩ := except_bind_eq_ok h
  refine ⟨⟨encoded, hencoded⟩, ?_⟩
  rw [← Except.ok.inj h, EntityMeta.sharedSlots, hencoded]
  rfl

theorem values_of_bindShared {action : CounterAction} {pm : PropertyMeta} {key : List Value}
    {request : Request} (h : r.bindShared action em pm key level = .ok request) :
    (∃ encoded, Registry.encodedKey em key = .ok encoded) ∧
      request.values.map .ok = (em.sharedSlots pm key).map Slot.value := by
  obtain ⟨p, -, h⟩ := except_bind_eq_ok h
  obtain ⟨values, hvalues, h⟩ := except_bind_eq_ok h
  rw [← Except.ok.inj h]
  exact values_of_sharedCounterKey hvalues

/-- Whatever is bound, the key has an encoding, and the values are those of the slots. -/
theorem values_of_fromRegistry {binding : Binding E} {requests : List Request}
    (hlawful : binding.Lawful T em) (h : binding.fromRegistry r T em level = .ok requests)
    {request : Request} (hmem : request ∈ requests) :
    (∃ encoded, Registry.encodedKey em (binding.key T) = .ok encoded) ∧
      request.values.map .ok = (binding.slots T em).map Slot.value := by
  cases binding with
  | insert entity options =>
    obtain ⟨_, -, h⟩ := except_bind_eq_ok (eq_ok_of_mem_single h hmem)
    obtain ⟨p, -, h⟩ := except_bind_eq_ok h
    obtain ⟨encoded, hencoded, h⟩ := except_bind_eq_ok h
    obtain ⟨attributes, hattributes, h⟩ := except_bind_eq_ok h
    simp only [insertValue_eq hlawful] at hattributes
    refine ⟨⟨encoded, hencoded⟩, ?_⟩
    rw [← Except.ok.inj h, slots, List.map_append, List.map_append,
      ← EntityMeta.values_keySlots hencoded, ← values_attributeSlots _ hattributes]
    show (encoded ++ attributes ++ [ttlValue options]).map Except.ok = _
    rw [List.map_append, List.map_append]
    rfl
  | update entity properties options =>
    obtain rfl := Except.ok.inj h
    cases hmem
  | removal key options =>
    obtain ⟨_, -, h⟩ := except_bind_eq_ok h
    obtain ⟨encoded, hencoded, h⟩ := except_bind_eq_ok h
    rw [← Except.ok.inj h] at hmem
    obtain ⟨_, -, rfl⟩ := List.mem_map.1 hmem
    exact ⟨⟨encoded, hencoded⟩, EntityMeta.values_keySlots hencoded _⟩
  | select key =>
    obtain ⟨_, -, h⟩ := except_bind_eq_ok (eq_ok_of_mem_single h hmem)
    obtain ⟨p, -, h⟩ := except_bind_eq_ok h
    exact values_of_bindKey h
  | selectField pm key =>
    obtain ⟨_, -, h⟩ := except_bind_eq_ok (eq_ok_of_mem_single h hmem)
    split at h
    · exact values_of_bindKey h
    · obtain ⟨_, -, h⟩ := except_bind_eq_ok h
      cases h
  | sharedDelta pm key delta =>
    obtain ⟨⟨action, magnitude⟩, hdelta, h⟩ := except_bind_eq_ok (eq_ok_of_mem_single h hmem)
    obtain ⟨p, -, h⟩ := except_bind_eq_ok h
    obtain ⟨values, hvalues, h⟩ := except_bind_eq_ok h
    obtain ⟨-, -, rfl⟩ := counterDelta_eq_ok hdelta
    obtain ⟨hencoded, hslots⟩ := values_of_sharedCounterKey hvalues
    refine ⟨hencoded, ?_⟩
    rw [← Except.ok.inj h, slots, List.map_cons, ← hslots]
    rfl
  | clusteredDelta pm key delta =>
    obtain ⟨⟨action, magnitude⟩, hdelta, h⟩ := except_bind_eq_ok (eq_ok_of_mem_single h hmem)
    obtain ⟨p, -, h⟩ := except_bind_eq_ok h
    obtain ⟨encoded, hencoded, h⟩ := except_bind_eq_ok h
    obtain ⟨-, -, rfl⟩ := counterDelta_eq_ok hdelta
    refine ⟨⟨encoded, hencoded⟩, ?_⟩
    rw [← Except.ok.inj h, slots, List.map_cons, ← EntityMeta.values_keySlots hencoded]
    rfl
  | sharedSelect pm key => exact values_of_bindShared (eq_ok_of_mem_single h hmem)
  | sharedDelete pm key => exact values_of_bindShared (eq_ok_of_mem_single h hmem)
  | clusteredSelect pm key => exact values_of_bindClustered (eq_ok_of_mem_single h hmem)
  | rowSelect key => exact values_of_bindClustered (eq_ok_of_mem_single h hmem)
  | rowDelete key => exact values_of_bindClustered (eq_ok_of_mem_single h hmem)

/-! ### Texts -/

/-- A statement of a counter table is one of a type of the class name. -/
theorem mem_clusteredCounters (hr : r.Sound types) {action : CounterAction} {name : String}
    {p : Prepared} (h : r.clusteredCounter em action name = .ok p) :
    ∃ em', (em' = em ∨ ∃ name, (name, em') ∈ types) ∧ em'.className = em.className ∧
      ((action, name), p.query) ∈ Template.clusteredCounters em' := by
  obtain ⟨statements, hstatements, hp⟩ := except_bind_eq_ok h
  obtain ⟨typeName, em', hmem, hclass, hcarry⟩ := hr.exists_carry hstatements
  exact ⟨em', .inr ⟨typeName, hmem⟩, hclass,
    hcarry.clusteredCounter (mem_of_lookup (Registry.orMissing_eq_ok hp))⟩

theorem mem_sharedCounters (hr : r.Sound types) {action : CounterAction} {p : Prepared}
    (h : r.sharedCounter em action = .ok p) : (action, p.query) ∈ Template.sharedCounters := by
  obtain ⟨_, -, h⟩ := except_bind_eq_ok h
  exact hr.sharedCounter (mem_of_lookup (Registry.orMissing_eq_ok h))

theorem mem_clusteredCounters_of_bind (hr : r.Sound types) {action : CounterAction} {name : String}
    {key : List Value} {request : Request}
    (h : r.bindClustered action name em key level = .ok request) :
    ∃ em', (em' = em ∨ ∃ name, (name, em') ∈ types) ∧ em'.className = em.className ∧
      ((action, name), request.query) ∈ Template.clusteredCounters em' := by
  obtain ⟨p, hp, h⟩ := except_bind_eq_ok h
  obtain ⟨encoded, -, rfl⟩ := Registry.bindKey_eq_ok h
  exact mem_clusteredCounters hr hp

theorem mem_sharedCounters_of_bind (hr : r.Sound types) {action : CounterAction}
    {pm : PropertyMeta} {key : List Value} {request : Request}
    (h : r.bindShared action em pm key level = .ok request) :
    (action, request.query) ∈ Template.sharedCounters := by
  obtain ⟨p, hp, h⟩ := except_bind_eq_ok h
  obtain ⟨values, -, h⟩ := except_bind_eq_ok h
  rw [← Except.ok.inj h]
  exact mem_sharedCounters hr hp

/-- The text of what is bound is that of a template for a type of the class name. -/
theorem says_of_fromRegistry (hr : r.Sound types) {binding : Binding E} {requests : List Request}
    (h : binding.fromRegistry r T em level = .ok requests) {request : Request}
    (hmem : request ∈ requests) :
    ∃ em', (em' = em ∨ ∃ name, (name, em') ∈ types) ∧ em'.className = em.className ∧
      binding.Says em' request.query := by
  cases binding with
  | insert entity options =>
    obtain ⟨statements, hstatements, h⟩ := except_bind_eq_ok (eq_ok_of_mem_single h hmem)
    obtain ⟨p, hp, h⟩ := except_bind_eq_ok h
    obtain ⟨_, -, h⟩ := except_bind_eq_ok h
    obtain ⟨_, -, h⟩ := except_bind_eq_ok h
    obtain ⟨name, em', hem', hclass, hcarry⟩ := hr.exists_carry hstatements
    rw [← Except.ok.inj h]
    exact ⟨em', .inr ⟨name, hem'⟩, hclass, hcarry.insert (Registry.orMissing_eq_ok hp)⟩
  | update entity properties options =>
    obtain rfl := Except.ok.inj h
    cases hmem
  | removal key options =>
    obtain ⟨statements, hstatements, h⟩ := except_bind_eq_ok h
    obtain ⟨_, -, h⟩ := except_bind_eq_ok h
    obtain ⟨name, em', hem', hclass, hcarry⟩ := hr.exists_carry hstatements
    rw [← Except.ok.inj h] at hmem
    obtain ⟨⟨table, p⟩, hp, rfl⟩ := List.mem_map.1 hmem
    exact ⟨em', .inr ⟨name, hem'⟩, hclass, table, hcarry.delete hp⟩
  | select key =>
    obtain ⟨statements, hstatements, h⟩ := except_bind_eq_ok (eq_ok_of_mem_single h hmem)
    obtain ⟨p, hp, h⟩ := except_bind_eq_ok h
    obtain ⟨_, -, rfl⟩ := Registry.bindKey_eq_ok h
    obtain ⟨name, em', hem', hclass, hcarry⟩ := hr.exists_carry hstatements
    exact ⟨em', .inr ⟨name, hem'⟩, hclass, hcarry.selectEntity (Registry.orMissing_eq_ok hp)⟩
  | selectField pm key =>
    obtain ⟨statements, hstatements, h⟩ := except_bind_eq_ok (eq_ok_of_mem_single h hmem)
    split at h
    · next p hp =>
      obtain ⟨_, -, rfl⟩ := Registry.bindKey_eq_ok h
      obtain ⟨name, em', hem', hclass, hcarry⟩ := hr.exists_carry hstatements
      exact ⟨em', .inr ⟨name, hem'⟩, hclass, hcarry.selectField (mem_of_lookup hp)⟩
    · obtain ⟨_, -, h⟩ := except_bind_eq_ok h
      cases h
  | sharedDelta pm key delta =>
    obtain ⟨⟨action, magnitude⟩, hdelta, h⟩ := except_bind_eq_ok (eq_ok_of_mem_single h hmem)
    obtain ⟨p, hp, h⟩ := except_bind_eq_ok h
    obtain ⟨_, -, h⟩ := except_bind_eq_ok h
    obtain ⟨-, haction, -⟩ := counterDelta_eq_ok hdelta
    rw [haction] at hp
    rw [← Except.ok.inj h]
    exact ⟨em, .inl rfl, rfl, mem_sharedCounters hr hp⟩
  | clusteredDelta pm key delta =>
    obtain ⟨⟨action, magnitude⟩, hdelta, h⟩ := except_bind_eq_ok (eq_ok_of_mem_single h hmem)
    obtain ⟨p, hp, h⟩ := except_bind_eq_ok h
    obtain ⟨_, -, h⟩ := except_bind_eq_ok h
    obtain ⟨-, haction, -⟩ := counterDelta_eq_ok hdelta
    rw [haction] at hp
    rw [← Except.ok.inj h]
    exact mem_clusteredCounters hr hp
  | sharedSelect pm key =>
    exact ⟨em, .inl rfl, rfl, mem_sharedCounters_of_bind hr (eq_ok_of_mem_single h hmem)⟩
  | sharedDelete pm key =>
    exact ⟨em, .inl rfl, rfl, mem_sharedCounters_of_bind hr (eq_ok_of_mem_single h hmem)⟩
  | clusteredSelect pm key =>
    exact mem_clusteredCounters_of_bind hr (eq_ok_of_mem_single h hmem)
  | rowSelect key => exact mem_clusteredCounters_of_bind hr (eq_ok_of_mem_single h hmem)
  | rowDelete key => exact mem_clusteredCounters_of_bind hr (eq_ok_of_mem_single h hmem)

/-! ### Requests -/

variable [Session σ] [LawfulSession σ]

omit [LawfulSession σ] in
/-- An update has the values of its slots, the encoded key of the entity among them. -/
theorem values_of_bindUpdate {s t : Site σ E} {entity : E} {properties : List PropertyMeta}
    {options : Options} {request : Request}
    (h : Op.bindUpdate T em entity properties options level s = (.ok request, t)) :
    (∃ encoded, Registry.encodedKey em (T.key entity) = .ok encoded) ∧
      request.values.map .ok = ((update entity properties options).slots T em).map Slot.value := by
  unfold bindUpdate at h
  rw [get_bind_apply] at h
  obtain ⟨_, u, -, h⟩ := bind_eq_ok h
  obtain ⟨p, v, -, h⟩ := bind_eq_ok h
  obtain ⟨values, w, hvalues, h⟩ := bind_eq_ok h
  obtain ⟨hrequest, -⟩ := Prod.mk.inj h
  have hok : Registry.updateValues T em entity (sortedByName properties) options = .ok values :=
    (lift_eq_ok hvalues).1
  obtain ⟨attributes, hattributes, hok⟩ := except_bind_eq_ok hok
  obtain ⟨encoded, hencoded, hok⟩ := except_bind_eq_ok hok
  rw [← Except.ok.inj hrequest]
  refine ⟨⟨encoded, hencoded⟩, ?_⟩
  show values.map Except.ok = _
  rw [← Except.ok.inj hok, slots, List.map_append, List.map_append, List.map_cons, List.map_cons,
    ← EntityMeta.values_keySlots hencoded, ← values_attributeSlots _ hattributes]
  rfl

/-- An update has the values of its slots, and the text of an update for a type of the class
name. -/
theorem binds_of_bindUpdate {s t : Site σ E} (hs : s.registry.Sound types) (hrules : em.Rules)
    (hplain : em.PlainNames) {entity : E} {properties : List PropertyMeta} {options : Options}
    (hlawful : (update entity properties options).Lawful T em) {request : Request}
    (h : Op.bindUpdate T em entity properties options level s = (.ok request, t)) :
    request.Binds types em (update entity properties options)
      ((update entity properties options).slots T em) := by
  obtain ⟨⟨encoded, hencoded⟩, hvalues⟩ := values_of_bindUpdate h
  refine ⟨hvalues, fun text htext => markersIn_of_says hrules hplain hlawful hencoded htext, ?_⟩
  unfold bindUpdate at h
  rw [get_bind_apply] at h
  obtain ⟨_, u, hstatements, h⟩ := bind_eq_ok h
  obtain ⟨p, v, hp, h⟩ := bind_eq_ok h
  obtain ⟨values, w, -, h⟩ := bind_eq_ok h
  obtain ⟨hrequest, -⟩ := Prod.mk.inj h
  obtain ⟨-, rfl⟩ := lift_eq_ok hstatements
  obtain ⟨em', hem', htext⟩ :=
    query_of_preparedUpdate_of_class (properties_ofProperties_sortedByName _ _) hs hp
  rw [← Except.ok.inj hrequest]
  rcases hem' with rfl | ⟨name, hin, hclass⟩
  · exact ⟨em', .inl rfl, rfl, htext⟩
  · exact ⟨em', .inr ⟨name, hin⟩, hclass, htext⟩

/-- Whatever is bound has the values of its slots, and a text of the class name. -/
theorem binds_of_run {s t : Site σ E} (hs : s.registry.Sound types) (hrules : em.Rules)
    (hplain : em.PlainNames) {binding : Binding E} (hlawful : binding.Lawful T em)
    {requests : List Request} (h : binding.run T em level s = (.ok requests, t))
    {request : Request} (hmem : request ∈ requests) :
    request.Binds types em binding (binding.slots T em) := by
  cases binding with
  | update entity properties options =>
    obtain ⟨bound, u, hbound, h⟩ := bind_eq_ok h
    rw [← Except.ok.inj (Prod.mk.inj h).1, List.mem_singleton] at hmem
    exact hmem ▸ binds_of_bindUpdate hs hrules hplain hlawful hbound
  | _ =>
    obtain ⟨hbound, -⟩ := lift_eq_ok (r := fromRegistry s.registry T em level _) h
    obtain ⟨⟨encoded, hencoded⟩, hvalues⟩ := values_of_fromRegistry hlawful hbound hmem
    exact ⟨hvalues, fun text htext => markersIn_of_says hrules hplain hlawful hencoded htext,
      says_of_fromRegistry hs hbound hmem⟩

end Binding

/-- Without another type of the class name, whatever is bound for a class fits. -/
theorem Request.Binds.fits {E : Type} {request : Request} {types : List (String × EntityMeta)}
    {em : EntityMeta} {binding : Binding E} {slots : List Slot} (hsole : SoleClass types em)
    (h : request.Binds types em binding slots) : request.Fits slots := by
  obtain ⟨em', hem', hclass, hsays⟩ := h.text
  have heq : em' = em := by
    rcases hem' with heq | ⟨name, hin⟩
    · exact heq
    · exact hsole _ hin hclass
  exact ⟨h.own _ (heq ▸ hsays), h.values⟩

/-! ### The contract -/

section

variable {σ E : Type} [Session σ] [LawfulSession σ] {b : Batching σ E} {T : EntityType E}
  {em : EntityMeta} {level : Level}

omit [LawfulSession σ] in
theorem Binding.fromRegistry_of_run {binding : Binding E} {s t : Site σ E}
    {requests : List Request} (h : binding.run T em level s = (.ok requests, t))
    (hupdate : ∀ entity properties options, binding ≠ .update entity properties options) :
    binding.fromRegistry s.registry T em level = .ok requests := by
  cases binding with
  | update entity properties options => exact absurd rfl (hupdate entity properties options)
  | _ => exact (lift_eq_ok (r := fromRegistry s.registry T em level _) h).1

omit [LawfulSession σ] in
/-- A delta that is bound has a magnitude that fits. -/
theorem Binding.magnitudeFits {pm : PropertyMeta} {key : List Value} {delta : Int}
    {requests : List Request} {s t : Site σ E}
    (h : (Binding.sharedDelta pm key delta).run T em level s = (.ok requests, t) ∨
      (Binding.clusteredDelta pm key delta).run T em level s = (.ok requests, t)) :
    MagnitudeFits delta := by
  rcases h with h | h
  · obtain ⟨request, hbound, -⟩ := single_eq_ok (fromRegistry_of_run h nofun)
    obtain ⟨⟨action, magnitude⟩, hdelta, -⟩ := except_bind_eq_ok hbound
    exact (counterDelta_eq_ok hdelta).1
  · obtain ⟨request, hbound, -⟩ := single_eq_ok (fromRegistry_of_run h nofun)
    obtain ⟨⟨action, magnitude⟩, hdelta, -⟩ := except_bind_eq_ok hbound
    exact (counterDelta_eq_ok hdelta).1

/-- What values and markers have to do with each other, for a class that is registered. -/
structure MarkerContract (b : Batching σ E) (T : EntityType E) (em : EntityMeta) : Prop where
  bound {level : Level} {binding : Binding E} {requests : List Request} {t : Site σ E} :
    binding.Lawful T em → binding.run T em level b.site = (.ok requests, t) →
      ∀ request ∈ requests, request.Binds b.site.types em binding (binding.slots T em)
  fits {level : Level} {binding : Binding E} {requests : List Request} {t : Site σ E} :
    SoleClass b.site.types em → binding.Lawful T em →
      binding.run T em level b.site = (.ok requests, t) → ∀ request ∈ requests,
        request.Fits (binding.slots T em) ∧
          ∀ id, (Prepared.mk id request.query).markerCount = request.values.length
  /-- The magnitude that is bound is that of the delta. -/
  magnitude {level : Level} {pm : PropertyMeta} {key : List Value} {delta : Int}
    {requests : List Request} {t : Site σ E} :
    (Binding.sharedDelta pm key delta).run T em level b.site = (.ok requests, t) ∨
      (Binding.clusteredDelta pm key delta).run T em level b.site = (.ok requests, t) →
        (Int64.ofNat delta.natAbs).toInt = delta.natAbs
  /-- The statements of one counter of the shared table bind the same three values for its key. -/
  sameKey {level : Level} {pm : PropertyMeta} {key : List Value} {delta : Int}
    {changes reads deletes : List Request} {t u v : Site σ E} :
    (Binding.sharedDelta pm key delta).run T em level b.site = (.ok changes, t) →
    (Binding.sharedSelect pm key).run T em level b.site = (.ok reads, u) →
    (Binding.sharedDelete pm key).run T em level b.site = (.ok deletes, v) →
      ∃ values, values.length = 3 ∧ (∀ request ∈ changes, request.values.tail = values) ∧
        (∀ request ∈ reads, request.values = values) ∧
          ∀ request ∈ deletes, request.values = values

/-- In every reachable state whatever is bound for a registered class with plain names has the
values that the markers of its templates stand for; it is bound to one of these unless another
registered type has the class name. -/
theorem marker_contract (hb : Reachable b) (hem : b.site.types.lookup T.typeName = some em)
    (hplain : em.PlainNames) : MarkerContract b T em := by
  have hrules : em.Rules := (hb.sound.built (mem_of_lookup hem)).rules
  have hbinds {level : Level} {binding : Binding E} {requests : List Request} {t : Site σ E}
      (hlawful : binding.Lawful T em)
      (h : binding.run T em level b.site = (.ok requests, t)) : ∀ request ∈ requests,
        request.Binds b.site.types em binding (binding.slots T em) :=
    fun request hmem => Binding.binds_of_run hb.sound.registry hrules hplain hlawful h hmem
  refine ⟨hbinds, ?_, ?_, ?_⟩
  · intro level binding requests t hsole hlawful h request hmem
    have hfits := (hbinds hlawful h request hmem).fits hsole
    exact ⟨hfits, fun _ => hfits.length_values.symm⟩
  · intro level pm key delta requests t h
    exact Int64.toInt_ofNat_of_lt (Binding.magnitudeFits h)
  · intro level pm key delta changes reads deletes t u v hchanges hreads hdeletes
    obtain ⟨read, -, rfl⟩ := Binding.single_eq_ok (Binding.fromRegistry_of_run hreads nofun)
    have hbound : ∀ binding : Binding E, binding.Lawful T em → ∀ {requests t},
        binding.run T em level b.site = (.ok requests, t) → ∀ request ∈ requests,
          request.values.map .ok = (binding.slots T em).map Slot.value :=
      fun _ hlawful _ _ h request hmem => (hbinds hlawful h request hmem).values
    have hread : read.values.map .ok = (em.sharedSlots pm key).map Slot.value :=
      hbound (.sharedSelect pm key) trivial hreads read (List.mem_singleton_self _)
    have hinj {values : List Value}
        (h : values.map .ok = (em.sharedSlots pm key).map Slot.value) : values = read.values :=
      List.map_injective_iff.2 (fun _ _ h => Except.ok.inj h) (h.trans hread.symm)
    refine ⟨read.values, ?_, fun request hmem => hinj ?_, ?_, fun request hmem => hinj ?_⟩
    · simpa [EntityMeta.sharedSlots] using congrArg List.length hread
    · have hchange := congrArg List.tail
        (hbound (.sharedDelta pm key delta) trivial hchanges request hmem)
      rwa [← List.map_tail] at hchange
    · intro request hmem
      rw [List.mem_singleton.1 hmem]
    · exact hbound (.sharedDelete pm key) trivial hdeletes request hmem

end

/-! ### Pages -/

namespace Page

/-- Pages with a label, under the class name of pages. -/
def labelDraft : EntityDraft :=
  { draft "labels" with
    properties :=
      [.ofKind "id" .id .bigint, titleMeta.toPropertyDraft, .ofKind "label" .simple .text] }

/-- Pages with a label. -/
def labelled : EntityType Page :=
  { type "label.Page" "labels" [] with entityMeta := labelDraft.build }

/-- The metadata of pages with a label. -/
def labelMeta : EntityMeta :=
  { entityMeta "labels" with
    properties := labelDraft.properties.map fun draft => { draft with entityClass := "Page" } }

theorem reachable_manager_labelled : Reachable (manager .empty [plain, labelled]) := by
  apply reachable_manager
  intro T hT
  simp only [List.mem_cons, List.not_mem_nil, or_false] at hT
  rcases hT with rfl | rfl
  · exact built_type _ _ _
  · exact fun em hem => ⟨labelDraft, em, em.readLevel, em.writeLevel, hem, rfl⟩

theorem plainNames_pages : (entityMeta "pages").PlainNames :=
  ⟨by decide, by decide, by decide⟩

/-- A new page. -/
def start : Page := ⟨.bigint 1, .text "Start", .empty⟩

/-- The contract holds of pages: the insert of a page has three values for its three markers, and an
increment has four. -/
theorem marker_contract_pages :
    MarkerContract (manager .empty [plain]) plain (entityMeta "pages") ∧
      SoleClass (manager .empty [plain]).site.types (entityMeta "pages") ∧
      (Binding.insert start .none).Lawful plain (entityMeta "pages") ∧
      (((Binding.insert start .none).run plain (entityMeta "pages") .standard
        (manager .empty [plain]).site).1.toOption.map fun requests =>
          requests.map fun request => request.values.length) = some [3] ∧
      (((Binding.sharedDelta hitsMeta [.bigint 1] 2).run plain (entityMeta "pages") .standard
        (manager .empty [plain]).site).1.toOption.map fun requests =>
          requests.map fun request => request.values.length) = some [4] := by
  refine ⟨marker_contract (reachable_manager_type _ _ _ _) (by decide +kernel) plainNames_pages, ?_,
    List.nodup_singleton "title", by decide +kernel, by decide +kernel⟩
  unfold SoleClass
  decide +kernel

/-- When two types share a class name, a new entity of one is bound to the statement of the other,
which takes fewer values. -/
theorem not_fits_of_shared_name :
    ¬ ∀ (b : Batching Script Page) (T : EntityType Page) (em : EntityMeta) (level : Level)
      (binding : Binding Page) (requests : List Request) (t : Site Script Page),
      Reachable b → b.site.types.lookup T.typeName = some em → em.PlainNames →
      binding.Lawful T em → binding.run T em level b.site = (.ok requests, t) →
      ∀ request ∈ requests,
        (Prepared.mk 0 request.query).markerCount = request.values.length := by
  intro h
  have hplain : labelMeta.PlainNames := ⟨by decide, by decide, by decide⟩
  have hcounts : (((Binding.insert start .none).run labelled labelMeta .standard
      (manager .empty [plain, labelled]).site).1.toOption.map fun requests =>
        requests.map fun request => ((Prepared.mk 0 request.query).markerCount,
          request.values.length)) = some [(3, 4)] := by decide +kernel
  rcases hrun : (Binding.insert start .none).run labelled labelMeta .standard
    (manager .empty [plain, labelled]).site with ⟨e | requests, t⟩
  · rw [hrun] at hcounts
    cases hcounts
  · rw [hrun] at hcounts
    have heach := h _ labelled labelMeta .standard (.insert start .none) requests t
      reachable_manager_labelled (by decide +kernel) hplain (List.nodup_singleton "title") hrun
    obtain ⟨request, rfl, hcount⟩ := List.map_eq_singleton_iff.1 (Option.some.inj hcounts)
    have hequal := heach request (List.mem_singleton_self _)
    obtain ⟨hmarkers, hvalues⟩ := Prod.mk.inj hcount
    rw [hmarkers, hvalues] at hequal
    cases hequal

end Page

end WideColumn
