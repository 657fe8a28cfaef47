import Mathlib.Data.List.Nodup
import WideColumn.Proofs.Operation.Run
import WideColumn.Proofs.Reachable

/-!
# Checked metadata

What the checks of a declaration guarantee (`EntityMeta.Rules`), whatever is declared: the names of
the properties are distinct, exactly one property is the key, every property is well declared, and
so is the table of a class of counters.
-/

namespace WideColumn

/-- Properties with distinct names. -/
def DistinctNames (properties : List PropertyMeta) : Prop :=
  (properties.map fun pm => pm.name).Nodup

/-- The rules that checked metadata keeps. -/
structure EntityMeta.Rules (em : EntityMeta) : Prop where
  names : DistinctNames em.properties
  id : em.properties.filter PropertyMeta.isId = [em.id]
  property : ∀ pm ∈ em.properties, pm.fault? = none
  counterTable : em.isClusteredCounter = true →
    EntityDraft.counterTableFault? em.id em.properties = none

namespace EntityDraft

/-- Checked properties have distinct names, none of them among the names seen before. -/
theorem names_of_buildProperties {entityClass : String} {drafts : List PropertyDraft}
    {seen : List String} {properties : List PropertyMeta}
    (h : buildProperties entityClass seen drafts = .ok properties) :
    DistinctNames properties ∧ ∀ pm ∈ properties, pm.name ∉ seen := by
  induction drafts generalizing seen properties with
  | nil =>
    rw [← Except.ok.inj h]
    exact ⟨List.nodup_nil, by simp⟩
  | cons draft rest ih =>
    unfold buildProperties at h
    split at h
    · cases h
    · next hfresh =>
      split at h
      · cases h
      · cases hchecked : buildProperties entityClass (draft.name :: seen) rest with
        | error fault =>
          rw [hchecked] at h
          cases h
        | ok checked =>
          rw [hchecked] at h
          obtain ⟨hnames, hnotin⟩ := ih hchecked
          rw [← Except.ok.inj h]
          refine ⟨List.nodup_cons.2 ⟨?_, hnames⟩, ?_⟩
          · intro hmem
            obtain ⟨pm, hpm, hname⟩ := List.mem_map.1 hmem
            exact hnotin pm hpm (by simp [hname])
          · intro pm hpm
            rcases List.mem_cons.1 hpm with rfl | hpm
            · simpa using hfresh
            · exact fun hseen => hnotin pm hpm (List.mem_cons_of_mem _ hseen)

/-- Every checked property is well declared. -/
theorem fault?_of_buildProperties {entityClass : String} {drafts : List PropertyDraft}
    {seen : List String} {properties : List PropertyMeta}
    (h : buildProperties entityClass seen drafts = .ok properties) :
    ∀ pm ∈ properties, pm.fault? = none := by
  induction drafts generalizing seen properties with
  | nil =>
    rw [← Except.ok.inj h]
    exact List.forall_mem_nil _
  | cons draft rest ih =>
    unfold buildProperties at h
    split at h
    · cases h
    · split at h
      · cases h
      · next hfault =>
        obtain ⟨checked, hchecked, h⟩ := Op.except_bind_eq_ok h
        rw [← Except.ok.inj h]
        exact List.forall_mem_cons.2 ⟨hfault, ih hchecked⟩

theorem filter_isId_of_theId {properties : List PropertyMeta} {id : PropertyMeta}
    (h : theId properties = .ok id) : properties.filter PropertyMeta.isId = [id] := by
  unfold theId at h
  split at h
  · next hid => rw [hid, Except.ok.inj h]
  · cases h
  · cases h

theorem rules_of_check {draft : EntityDraft} {em : EntityMeta} (h : draft.check = .ok em) :
    em.Rules := by
  unfold check at h
  dsimp only at h
  by_cases hblank : Text.isBlank draft.tableName = true
  · rw [if_pos hblank] at h
    cases h
  · rw [if_neg hblank] at h
    obtain ⟨properties, hproperties, h⟩ := Op.except_bind_eq_ok h
    obtain ⟨id, hid, h⟩ := Op.except_bind_eq_ok h
    have hnames := (names_of_buildProperties hproperties).1
    have hproperty := fault?_of_buildProperties hproperties
    have hsole := filter_isId_of_theId hid
    by_cases hcounter : draft.isClusteredCounter = true
    · rw [if_pos hcounter] at h
      cases hfault : counterTableFault? id properties with
      | some fault =>
        rw [hfault] at h
        cases h
      | none =>
        rw [hfault] at h
        rw [← Except.ok.inj h]
        exact ⟨hnames, hsole, hproperty, fun _ => hfault⟩
    · rw [if_neg hcounter] at h
      rw [← Except.ok.inj h]
      exact ⟨hnames, hsole, hproperty, fun h => absurd h hcounter⟩

theorem rules_of_build {draft : EntityDraft} {em : EntityMeta} (h : draft.build = .ok em) :
    em.Rules := by
  unfold build at h
  cases hcheck : draft.check with
  | error fault =>
    rw [hcheck] at h
    cases h
  | ok checked =>
    rw [hcheck] at h
    rw [← Except.ok.inj h]
    exact rules_of_check hcheck

end EntityDraft

theorem EntityMeta.Built.rules {em : EntityMeta} (h : em.Built) : em.Rules := by
  obtain ⟨draft, checked, read, write, hbuild, rfl⟩ := h
  have hrules := EntityDraft.rules_of_build hbuild
  exact ⟨hrules.names, hrules.id, hrules.property, hrules.counterTable⟩

/-- The counters of checked metadata have distinct names. -/
theorem EntityMeta.Built.distinctNames_counters {em : EntityMeta} (h : em.Built) :
    DistinctNames em.counters :=
  h.rules.names.sublist (List.filter_sublist.map _)

/-- The plain properties of checked metadata have distinct names. -/
theorem EntityMeta.Built.eq_of_name {em : EntityMeta} (h : em.Built) {pm other : PropertyMeta}
    (hpm : pm ∈ em.plain) (hother : other ∈ em.plain) (hname : pm.name = other.name) :
    pm = other :=
  List.inj_on_of_nodup_map h.rules.names (List.mem_filter.1 hpm).1 (List.mem_filter.1 hother).1
    hname

/-- No property is a key and a counter at once. -/
theorem PropertyMeta.isId_of_isCounter {pm : PropertyMeta} (h : pm.isCounter = true) :
    pm.isId = false := by
  unfold PropertyMeta.isCounter at h
  unfold PropertyMeta.isId
  cases hkind : pm.kind <;> rw [hkind] at h <;> first | rfl | cases h

/-- What is read on demand, and the counters, are properties besides the key. -/
theorem EntityMeta.besides_id {em : EntityMeta} {pm : PropertyMeta}
    (hpm : pm ∈ em.onDemand ++ em.counters) : pm ∈ em.properties ∧ pm.isId = false := by
  rcases List.mem_append.1 hpm with hlazy | hcounter
  · obtain ⟨hmem, hplain⟩ := List.mem_filter.1 (List.mem_filter.1 hlazy).1
    exact ⟨hmem, by simpa using (Bool.and_eq_true_iff.1 hplain).1⟩
  · obtain ⟨hmem, htrue⟩ := List.mem_filter.1 hcounter
    exact ⟨hmem, PropertyMeta.isId_of_isCounter htrue⟩

/-- No other property has the name of the key. -/
theorem EntityMeta.Built.name_ne_id {em : EntityMeta} (h : em.Built) {pm : PropertyMeta}
    (hmem : pm ∈ em.properties) (hother : pm.isId = false) : pm.name ≠ em.id.name := by
  intro hname
  have hid : em.id ∈ em.properties.filter PropertyMeta.isId := by
    rw [h.rules.id]
    exact List.mem_singleton_self _
  obtain ⟨hidmem, htrue⟩ := List.mem_filter.1 hid
  obtain rfl := List.inj_on_of_nodup_map h.rules.names hmem hidmem hname
  rw [hother] at htrue
  cases htrue

end WideColumn
