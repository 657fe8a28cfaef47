import WideColumn.Proofs.Counter.KeyText
import WideColumn.Proofs.Counter.Table
import WideColumn.Proofs.Update.Address

/-!
# Rows that statements are on

A write is on the row of a key in the table of its class, or on the row of a counter in the table
that all plain counters share: there the class, the text of the key and the property say which. It is
read off the text and the values of the write, and never two rows at once (`Request.IsOn.unique`).
What is bound under a key, inserts, updates, deltas and deletes alike, is on the rows of the key
(`EntityMeta.rowsOf`). Rows of other keys and of other classes are other rows.
-/

namespace WideColumn

open Op

variable {σ E : Type}

/-! ### The rows of a key -/

/-- A row of a table of entities, by its encoded key, or of the shared counter table. -/
inductive RowName where
  | entity (table : String) (key : List Value)
  | counter (className keyText property : String)

namespace EntityMeta

/-- The row that a counter is kept in. -/
def counterRow (em : EntityMeta) (encoded : List Value) (pm : PropertyMeta) : RowName :=
  if em.isClusteredCounter then .entity em.tableName encoded
  else .counter em.className (keyText encoded) pm.name

/-- All rows in which something is kept under a key: its row in the table of the class, and the rows
of the counters that are not in this table. -/
def rowsOf (em : EntityMeta) (encoded : List Value) : List RowName :=
  .entity em.tableName encoded ::
    if em.isClusteredCounter then [] else em.counters.map (em.counterRow encoded)

variable {em : EntityMeta} {encoded : List Value}

theorem counterRow_mem_rowsOf {pm : PropertyMeta} (hpm : pm ∈ em.counters) :
    em.counterRow encoded pm ∈ em.rowsOf encoded := by
  unfold rowsOf
  cases hclustered : em.isClusteredCounter with
  | true => simp [counterRow, hclustered]
  | false => exact List.mem_cons_of_mem _ (List.mem_map_of_mem hpm)

/-- A row of a key is its row in the table, or the row of a counter. -/
theorem mem_rowsOf {row : RowName} (h : row ∈ em.rowsOf encoded) :
    row = .entity em.tableName encoded ∨
      ∃ pm ∈ em.counters, row = .counter em.className (keyText encoded) pm.name := by
  rcases List.mem_cons.1 h with h | h
  · exact .inl h
  · split at h
    · cases h
    · next hplain =>
      obtain ⟨pm, hpm, rfl⟩ := List.mem_map.1 h
      exact .inr ⟨pm, hpm, if_neg hplain⟩

/-- Each of these rows is listed once. -/
theorem nodup_rowsOf (hnames : DistinctNames em.counters) (encoded : List Value) :
    (em.rowsOf encoded).Nodup := by
  unfold rowsOf
  cases hclustered : em.isClusteredCounter with
  | true => exact List.nodup_singleton _
  | false =>
    have hrow (pm : PropertyMeta) : em.counterRow encoded pm =
        .counter em.className (keyText encoded) pm.name := by simp [counterRow, hclustered]
    refine List.nodup_cons.2 ⟨fun h => ?_, ?_⟩
    · obtain ⟨pm, -, heq⟩ := List.mem_map.1 h
      rw [hrow] at heq
      cases heq
    · refine List.Nodup.of_map (fun
        | .counter _ _ property => property
        | .entity _ _ => "") ?_
      rw [if_neg Bool.false_ne_true, List.map_map]
      have hproperty : em.counters.map ((fun
          | .counter _ _ property => property
          | .entity _ _ => "") ∘ em.counterRow encoded) = em.counters.map fun pm => pm.name :=
        List.map_congr_left fun pm _ => by rw [Function.comp_apply, hrow]
      rw [hproperty]
      exact hnames

/-- Another key of the class, with components of the same kinds, has other rows. -/
theorem rowsOf_disjoint_of_ne {other : List Value} (hsame : List.Forall₂ Value.SameKind encoded other)
    (hne : encoded ≠ other) : (em.rowsOf encoded).Disjoint (em.rowsOf other) := by
  intro row hrow hother
  rcases mem_rowsOf hrow with rfl | ⟨pm, -, rfl⟩ <;>
    rcases mem_rowsOf hother with h | ⟨pm', -, h⟩
  · exact hne (RowName.entity.inj h).2
  · cases h
  · cases h
  · exact hne (eq_of_keyText_eq hsame (RowName.counter.inj h).2.1)

/-- A class of another name and another table has other rows. -/
theorem rowsOf_disjoint_of_class {other : EntityMeta} (hclass : em.className ≠ other.className)
    (htable : em.tableName ≠ other.tableName) (encoded otherEncoded : List Value) :
    (em.rowsOf encoded).Disjoint (other.rowsOf otherEncoded) := by
  intro row hrow hother
  rcases mem_rowsOf hrow with rfl | ⟨pm, -, rfl⟩ <;>
    rcases mem_rowsOf hother with h | ⟨pm', -, h⟩
  · exact htable (RowName.entity.inj h).1
  · cases h
  · cases h
  · exact hclass (RowName.counter.inj h).1

end EntityMeta

/-! ### The row of a write -/

/-- The texts whose last values are the key: everything that writes the table of a class but the
insert. -/
inductive Template.EndsWithKey (em : EntityMeta) : String → Prop
  | counterWrite {text : String} : CounterWrite em text → EndsWithKey em text
  | update (properties : List PropertyMeta) : EndsWithKey em (Template.update em properties)

/-- The row that a write is on, where the text is one of those of a class or of the shared counter
table. An insert starts with the key, the other writes of the class end with it, and a write of the
shared counter table ends with what says which counter is meant. -/
inductive Request.IsOn (r : Request) (em : EntityMeta) : RowName → Prop
  | insert {encoded rest : List Value} : r.query = Template.insert em →
      r.values = encoded ++ rest → encoded.length = em.idColumns.length →
      IsOn r em (.entity em.tableName encoded)
  | keyed {front encoded : List Value} : Template.EndsWithKey em r.query →
      r.values = front ++ encoded → encoded.length = em.idColumns.length →
      IsOn r em (.entity em.tableName encoded)
  | counter {front : List Value} {className text property : String} : Template.IsShared r.query →
      r.values = front ++ [.text className, .text text, .text property] →
      IsOn r em (.counter className text property)

/-- The write deletes the row. -/
inductive Request.Deletes (r : Request) (em : EntityMeta) : RowName → Prop
  | entity : (em.tableName, r.query) ∈ Template.deletes em →
      r.values.length = em.idColumns.length → Deletes r em (.entity em.tableName r.values)
  | counter {className text property : String} : (.delete, r.query) ∈ Template.sharedCounters →
      r.values = [.text className, .text text, .text property] →
      Deletes r em (.counter className text property)

namespace Template

variable {em : EntityMeta} {text : String}

/-- How the texts start and end that end with the key. -/
theorem EndsWithKey.shape (h : EndsWithKey em text) : ∃ middle,
    text = "UPDATE " ++ middle ++ ";" ∨ text = "DELETE FROM " ++ middle ++ ";" := by
  cases h with
  | counterWrite h =>
    obtain ⟨middle, h | h⟩ := h.shape
    · refine ⟨em.tableName ++ " " ++ ("SET " ++ middle), .inl ?_⟩
      rw [h]
      simp only [String.append_assoc]
    · refine ⟨em.tableName ++ " " ++ middle, .inr ?_⟩
      rw [h]
      simp only [String.append_assoc]
  | update properties =>
    refine ⟨em.tableName ++ (" USING TTL :ttl SET " ++
      (assignments (properties.map fun pm => pm.name) ++ (" WHERE " ++ keyCondition em))), .inl ?_⟩
    simp only [Template.update, toString, String.append_assoc]

theorem EndsWithKey.not_isShared (h : EndsWithKey em text) : ¬ IsShared text := by
  apply not_isShared_of_getLast?
  obtain ⟨middle, rfl | rfl⟩ := h.shape <;> rw [String.toList_append] <;>
    exact List.getLast?_concat

theorem EndsWithKey.ne_insert (h : EndsWithKey em text) : text ≠ Template.insert em := by
  rintro rfl
  obtain ⟨rest, hinsert⟩ : ∃ rest, Template.insert em = "INSERT INTO " ++ rest := by
    refine ⟨em.tableName ++ ("(" ++ (commaList (insertColumns em) ++ (") VALUES (" ++
      (commaList ((insertColumns em).map fun c => ":" ++ c) ++ ") USING TTL :ttl;")))), ?_⟩
    simp only [Template.insert, toString, String.append_assoc]
  obtain ⟨middle, h | h⟩ := h.shape <;> rw [hinsert] at h <;>
    simpa using congrArg (fun t => t.toList.head?) h

theorem not_isShared_insert (em : EntityMeta) : ¬ IsShared (Template.insert em) := by
  apply not_isShared_of_getLast?
  unfold Template.insert
  simp only [toString]
  rw [String.toList_append]
  exact List.getLast?_append_of_ne_nil _ (by simp)

/-- The delete of a row of a counter table is the delete of a row. -/
theorem mem_deletes_of_deleteAll (h : ((.delete, deleteAll), text) ∈ clusteredCounters em) :
    (em.tableName, text) ∈ deletes em := by
  simp only [clusteredCounters, clusteredCounter, List.mem_append, List.mem_flatMap,
    List.mem_cons, List.not_mem_nil, or_false, Prod.mk.injEq, reduceCtorEq, false_and, and_false,
    exists_false, false_or, true_and] at h
  rw [h]
  exact List.mem_singleton_self _

end Template

namespace Request

variable {r : Request} {em : EntityMeta} {row row' : RowName}

/-- A write is on no more than one row. -/
theorem IsOn.unique (h : r.IsOn em row) (h' : r.IsOn em row') : row = row' := by
  cases h with
  | insert htext hvalues hlength =>
    cases h' with
    | insert _ hvalues' hlength' =>
      rw [(List.append_inj (hvalues.symm.trans hvalues') (hlength.trans hlength'.symm)).1]
    | keyed hkeyed _ _ => exact absurd htext hkeyed.ne_insert
    | counter hshared _ => exact absurd (htext ▸ hshared) (Template.not_isShared_insert em)
  | keyed hkeyed hvalues hlength =>
    cases h' with
    | insert htext _ _ => exact absurd htext hkeyed.ne_insert
    | keyed _ hvalues' hlength' =>
      rw [(List.append_inj' (hvalues.symm.trans hvalues') (hlength.trans hlength'.symm)).2]
    | counter hshared _ => exact absurd hshared hkeyed.not_isShared
  | counter hshared hvalues =>
    cases h' with
    | insert htext _ _ => exact absurd (htext ▸ hshared) (Template.not_isShared_insert em)
    | keyed hkeyed _ _ => exact absurd hshared hkeyed.not_isShared
    | counter _ hvalues' =>
      have hlast := (List.append_inj' (hvalues.symm.trans hvalues') rfl).2
      simp only [List.cons.injEq, Value.text.injEq, and_true] at hlast
      obtain ⟨rfl, rfl, rfl⟩ := hlast
      rfl

/-- A delete is on the row that it deletes. -/
theorem Deletes.isOn (h : r.Deletes em row) : r.IsOn em row := by
  cases h with
  | entity htext hlength =>
    have hdelete : r.query = s!"DELETE FROM {em.tableName} WHERE {Template.keyCondition em};" :=
      (Prod.mk.inj (List.mem_singleton.1 htext)).2
    refine .keyed (.counterWrite ?_) (List.nil_append _).symm hlength
    rw [hdelete]
    exact .delete
  | counter htext hvalues =>
    exact .counter (List.mem_map.2 ⟨_, htext, rfl⟩) (hvalues.trans (List.nil_append _).symm)

end Request

/-! ### Binding -/

namespace Registry.Sound

variable {r : Registry} {types : List (String × EntityMeta)} (hr : r.Sound types)
  {em : EntityMeta} {key encoded : List Value} {level : Level} {request : Request}
include hr

/-- The statements of the shared counter table are those of their actions. -/
theorem mem_sharedCounters_of_sharedCounter {action : CounterAction} {p : Prepared}
    (h : r.sharedCounter em action = .ok p) : (action, p.query) ∈ Template.sharedCounters := by
  obtain ⟨_, -, h⟩ := except_bind_eq_ok h
  exact hr.sharedCounter (mem_of_lookup (Registry.orMissing_eq_ok h))

/-- The delete of a counter is on its row. -/
theorem deletes_of_bindShared {pm : PropertyMeta} (hencoded : encodedKey em key = .ok encoded)
    (h : r.bindShared .delete em pm key level = .ok request) :
    request.Deletes em (.counter em.className (keyText encoded) pm.name) := by
  obtain ⟨p, hp, h⟩ := except_bind_eq_ok h
  rw [sharedCounterKey_eq_ok hencoded] at h
  rw [← Except.ok.inj h]
  exact .counter (hr.mem_sharedCounters_of_sharedCounter hp) rfl

variable (hsole : SoleClass types em)
include hsole

/-- An insert is on the row of the key of the entity. -/
theorem isOn_of_bindInsert {T : EntityType E} {entity : E} {options : Options}
    (hencoded : encodedKey em (T.key entity) = .ok encoded)
    (h : r.bindInsert T em entity options level = .ok request) :
    request.IsOn em (.entity em.tableName encoded) := by
  obtain ⟨statements, hstatements, h⟩ := except_bind_eq_ok h
  obtain ⟨p, hp, h⟩ := except_bind_eq_ok h
  obtain ⟨key, hkey, h⟩ := except_bind_eq_ok h
  obtain rfl := Except.ok.inj (hencoded.symm.trans hkey)
  obtain ⟨attributes, -, h⟩ := except_bind_eq_ok h
  have hrequest := Except.ok.inj h
  obtain ⟨name, em', hmem, hclass, hcarry⟩ := hr.exists_carry hstatements
  obtain rfl := hsole _ hmem hclass
  rw [← hrequest]
  exact .insert (hcarry.insert (orMissing_eq_ok hp)) (List.append_assoc encoded attributes _)
    (length_of_encodedKey hencoded)

/-- The delete of a row of a counter table is on this row. -/
theorem deletes_of_bindClustered
    (h : r.bindClustered .delete Template.deleteAll em key level = .ok request) :
    ∃ encoded, encodedKey em key = .ok encoded ∧
      request.Deletes em (.entity em.tableName encoded) := by
  obtain ⟨p, hp, h⟩ := except_bind_eq_ok h
  obtain ⟨encoded, hencoded, rfl⟩ := bindKey_eq_ok h
  obtain ⟨statements, hstatements, hp⟩ := except_bind_eq_ok hp
  obtain ⟨name, em', hmem, hclass, hcarry⟩ := hr.exists_carry hstatements
  obtain rfl := hsole _ hmem hclass
  have htext := hcarry.clusteredCounter (mem_of_lookup (orMissing_eq_ok hp))
  exact ⟨encoded, hencoded, .entity (Template.mem_deletes_of_deleteAll htext)
    (length_of_encodedKey hencoded)⟩

omit hsole in
/-- A delta is on the row that its counter is kept in. -/
theorem isOn_of_bindDelta {c : Call E} (hsole : SoleClass types c.entityMeta) {pm : PropertyMeta}
    {delta : Int} (hencoded : encodedKey c.entityMeta key = .ok encoded)
    (h : c.bindDelta r pm key delta = .ok request) :
    request.IsOn c.entityMeta (c.entityMeta.counterRow encoded pm) := by
  obtain ⟨front, encoded', hkey, hvalues⟩ := Request.onCounter_of_bindDelta h
  obtain rfl := Except.ok.inj (hencoded.symm.trans hkey)
  unfold counterTarget at hvalues
  unfold EntityMeta.counterRow
  split
  · next hclustered =>
    rw [if_pos hclustered] at hvalues
    exact .keyed (.counterWrite ((hr.counterText_of_bindDelta hclustered h).own hsole)) hvalues
      (length_of_encodedKey hencoded)
  · next hplain =>
    rw [if_neg hplain] at hvalues
    unfold Call.bindDelta at h
    dsimp only at h
    rw [if_neg hplain] at h
    obtain ⟨⟨action, magnitude⟩, -, h⟩ := except_bind_eq_ok h
    obtain ⟨p, hp, h⟩ := except_bind_eq_ok h
    obtain ⟨_, -, h⟩ := except_bind_eq_ok h
    refine .counter ?_ hvalues
    rw [← Except.ok.inj h]
    exact List.mem_map.2 ⟨_, hr.mem_sharedCounters_of_sharedCounter hp, rfl⟩

end Registry.Sound

/-- The delete of a row is one delete, on this row. -/
theorem Registry.ServesRows.deletes_of_bindRemoval {r : Registry} {em : EntityMeta}
    (hserves : r.ServesRows em) {key : List Value} {options : Options} {level : Level}
    {requests : List Request} (h : r.bindRemoval em key options level = .ok requests) :
    ∃ encoded request, encodedKey em key = .ok encoded ∧ requests = [request] ∧
      request.Deletes em (.entity em.tableName encoded) := by
  obtain ⟨p, htext, hbind⟩ := hserves.removal
  rw [hbind] at h
  cases hencoded : encodedKey em key with
  | error e =>
    rw [hencoded] at h
    cases h
  | ok encoded =>
    rw [hencoded] at h
    exact ⟨encoded, _, rfl, (Except.ok.inj h).symm, .entity htext (length_of_encodedKey hencoded)⟩

/-- An update says what its template says, if no other class has the name of its class. -/
theorem Op.query_of_bindUpdate [Session σ] [LawfulSession σ] {types : List (String × EntityMeta)}
    {T : EntityType E} {em : EntityMeta} {entity : E} {properties : List PropertyMeta}
    {options : Options} {level : Level} {s t : Site σ E} {request : Request}
    (hs : s.registry.Sound types) (hsole : SoleClass types em)
    (h : bindUpdate T em entity properties options level s = (.ok request, t)) :
    request.query = Template.update em (sortedByName properties) := by
  unfold bindUpdate at h
  rw [get_bind_apply] at h
  obtain ⟨_, u, hstatements, h⟩ := bind_eq_ok h
  obtain ⟨p, v, hp, h⟩ := bind_eq_ok h
  obtain ⟨values, w, -, h⟩ := bind_eq_ok h
  obtain ⟨hrequest, -⟩ := Prod.mk.inj h
  obtain ⟨-, rfl⟩ := lift_eq_ok hstatements
  rw [← Except.ok.inj hrequest]
  exact query_of_preparedUpdate (properties_ofProperties_sortedByName _ _) hsole hs hp

/-- An update is on the row of the key of the entity. -/
theorem Op.isOn_of_bindUpdate [Session σ] [LawfulSession σ] {types : List (String × EntityMeta)}
    {T : EntityType E} {em : EntityMeta} {entity : E} {properties : List PropertyMeta}
    {options : Options} {level : Level} {s t : Site σ E} {request : Request} {encoded : List Value}
    (hs : s.registry.Sound types) (hsole : SoleClass types em)
    (hencoded : Registry.encodedKey em (T.key entity) = .ok encoded)
    (h : bindUpdate T em entity properties options level s = (.ok request, t)) :
    request.IsOn em (.entity em.tableName encoded) := by
  obtain ⟨front, encoded', hkey, hvalues⟩ := Request.onRow_of_bindUpdate h
  obtain rfl := Except.ok.inj (hencoded.symm.trans hkey)
  refine .keyed ?_ hvalues (Registry.length_of_encodedKey hencoded)
  rw [Op.query_of_bindUpdate hs hsole h]
  exact .update _

end WideColumn
