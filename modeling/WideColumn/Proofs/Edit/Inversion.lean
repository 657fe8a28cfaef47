import WideColumn.Proofs.Operation.Run

/-!
# Calls of proxies that succeed

What is known of a proxy, its cell and the entities afterwards when a call that changes an attribute,
or takes a container or a counter out of the entity, succeeds.
-/

namespace WideColumn

open Op

variable {E : Type} {p : Proxy} {w w' : Workspace E} {property : String}

theorem EntityMeta.name_of_property {em : EntityMeta} {name : String} {pm : PropertyMeta}
    (h : em.property name = .ok pm) : pm.name = name := by
  unfold EntityMeta.property EntityMeta.find? at h
  split at h
  · next found hfound =>
    rw [← Except.ok.inj h]
    simpa using List.find?_some hfound
  · cases h

namespace Proxy

theorem cell_eq_ok {cell : Cell E} (h : p.cell w = .ok cell) : w.cell? p.handle = some cell := by
  unfold Proxy.cell at h
  split at h
  · next found hfound => rw [hfound, Except.ok.inj h]
  · cases h

/-- A property that may be changed is mapped, has a setter, and is neither a key nor a counter. -/
theorem writable_eq_ok {access : Access} {pm : PropertyMeta}
    (h : p.writable property access = .ok pm) :
    p.entityMeta.property property = .ok pm ∧ pm.hasSetter = true ∧
      pm.isId = false ∧ pm.isCounter = false := by
  obtain ⟨found, hfound, h⟩ := except_bind_eq_ok h
  dsimp only at h
  split at h
  · cases h
  · next hid =>
    split at h
    · cases h
    · next hcounter =>
      split at h
      · cases h
      · next hsetter =>
        split at h
        · cases h
        · obtain rfl := Except.ok.inj h
          exact ⟨hfound, by simpa using hsetter, by simpa using hid, by simpa using hcounter⟩

theorem set_eq_ok {α : Type} {change : E → α × E} {answer : α}
    (h : p.set w property change = .ok (answer, w')) :
    ∃ pm cell, p.writable property .any = .ok pm ∧ w.cell? p.handle = some cell ∧
      w' = w.modify p.handle fun c => touch pm { c with entity := (change cell.entity).2 } := by
  obtain ⟨pm, hpm, h⟩ := except_bind_eq_ok h
  obtain ⟨cell, hcell, h⟩ := except_bind_eq_ok h
  obtain ⟨-, hw⟩ := Prod.mk.inj (Except.ok.inj h)
  exact ⟨pm, cell, hpm, cell_eq_ok hcell, hw.symm⟩

theorem setValue_eq_ok {T : EntityType E} {v : Value} (h : p.setValue T w property v = .ok w') :
    ∃ pm cell entity, p.writable property .any = .ok pm ∧ w.cell? p.handle = some cell ∧
      T.write cell.entity pm.name v = .ok entity ∧
      w' = w.modify p.handle fun c => touch pm { c with entity } := by
  obtain ⟨pm, hpm, h⟩ := except_bind_eq_ok h
  obtain ⟨cell, hcell, h⟩ := except_bind_eq_ok h
  obtain ⟨entity, hwrite, h⟩ := except_bind_eq_ok h
  exact ⟨pm, cell, entity, hpm, cell_eq_ok hcell, hwrite, (Except.ok.inj h).symm⟩

/-- A container that was opened is that of the entity, with the record of its cell. -/
theorem openView_eq_ok {C : Type} {access : Access} {accessor : Accessor E C} {vacant : C}
    {v : View C} (h : p.openView w property access accessor vacant = .ok (v, w')) :
    ∃ pm cell, p.writable property access = .ok pm ∧ w.cell? p.handle = some cell ∧
      v = { container := accessor.get cell.entity, property := pm, dirty := cell.dirty } ∧
      w' = w.modify p.handle fun c =>
        { c with entity := accessor.set c.entity vacant, loaded := addName pm.name c.loaded } := by
  obtain ⟨pm, hpm, h⟩ := except_bind_eq_ok h
  obtain ⟨cell, hcell, h⟩ := except_bind_eq_ok h
  obtain ⟨hv, hw⟩ := Prod.mk.inj (Except.ok.inj h)
  exact ⟨pm, cell, hpm, cell_eq_ok hcell, hv.symm, hw.symm⟩

/-- A counter that was opened is that of the entity. -/
theorem openCounter_eq_ok {T : EntityType E} {counter : Counter}
    (h : p.openCounter T w property = .ok (counter, w')) :
    ∃ pm cell, p.entityMeta.property property = .ok pm ∧ pm.isCounter = true ∧
      w.cell? p.handle = some cell ∧ T.counter? cell.entity property = some counter ∧
      w' = w.modifyEntity p.handle fun e => T.setCounter e property .empty := by
  obtain ⟨pm, hpm, h⟩ := except_bind_eq_ok h
  dsimp only at h
  split at h
  · cases h
  · next hcounter =>
    obtain ⟨cell, hcell, h⟩ := except_bind_eq_ok h
    split at h
    · cases h
    · next found hfound =>
      obtain ⟨rfl, hw⟩ := Prod.mk.inj (Except.ok.inj h)
      exact ⟨pm, cell, hpm, by simpa using hcounter, cell_eq_ok hcell, hfound, hw.symm⟩

end Proxy

end WideColumn
