import WideColumn.Proofs.Edit.Inversion
import WideColumn.Proofs.Operation.Frame
import WideColumn.Proofs.Reachable

/-!
# What the records of changes name

An edit through a proxy marks a property that the proxy may write, in the record of its own entity,
and leaves all other records alone. So what holds of every property that may be written holds of
everything that is recorded (`Proxy.Edits.records`).
-/

namespace WideColumn

open Op

variable {E : Type} {P : Handle → PropertyMeta → Prop} {w w' : Workspace E}

/-! ### Records -/

/-- Whatever the records of changes name satisfies `P`, entity by entity. -/
def Workspace.Records (P : Handle → PropertyMeta → Prop) (w : Workspace E) : Prop :=
  ∀ h c, w.cell? h = some c → ∀ pm ∈ c.dirty.properties, P h pm

theorem Workspace.Records.modify (hw : w.Records P) {h : Handle} {f : Cell E → Cell E}
    (hf : ∀ c, w.cell? h = some c → ∀ pm ∈ (f c).dirty.properties, P h pm) :
    (w.modify h f).Records P := fun _ _ hc => Workspace.forall_cell?_modify hw hf hc

theorem Workspace.Records.modifyEntity (hw : w.Records P) (h : Handle) (f : E → E) :
    (w.modifyEntity h f).Records P := hw.modify fun old hold => hw _ old hold

/-- Operations on entities keep records or give them up. -/
theorem Workspace.Records.of_sameStore {σ : Type} {s t : Site σ E} (h : SameStore s t)
    (hs : s.workspace.Records P) : t.workspace.Records P := by
  intro handle c hc pm hpm
  rcases h.dirty hc with hempty | ⟨old, hold, heq⟩
  · rw [hempty] at hpm
    cases hpm
  · rw [heq] at hpm
    exact hs handle old hold pm hpm

theorem DirtySet.forall_mark {dirty : DirtySet} {pm : PropertyMeta} {P : PropertyMeta → Prop}
    (hdirty : ∀ x ∈ dirty.properties, P x) (hpm : P pm) : ∀ x ∈ (dirty.mark pm).properties, P x := by
  intro x hx
  rcases DirtySet.mem_of_mem_place hx with rfl | hx
  · exact hpm
  · exact hdirty x hx

/-! ### Edits through one proxy -/

/-- What a program does to an entity through one proxy. -/
inductive Proxy.Edits (p : Proxy) : Workspace E → Workspace E → Prop
  | set {α : Type} {w w' : Workspace E} {property : String} {change : E → α × E} {answer : α} :
      p.set w property change = .ok (answer, w') → p.Edits w w'
  | setValue {T : EntityType E} {w w' : Workspace E} {property : String} {v : Value} :
      p.setValue T w property v = .ok w' → p.Edits w w'
  | view {C : Type} {w w' : Workspace E} {property : String} {access : Access}
      {accessor : Accessor E C} {vacant : C} {v v' : View C} :
      p.openView w property access accessor vacant = .ok (v, w') → v.Edits v' →
      p.Edits w (p.closeView w' accessor v')
  | counter {T : EntityType E} {w w' : Workspace E} {property : String}
      {counter counter' : Counter} :
      p.openCounter T w property = .ok (counter, w') →
      p.Edits w (p.closeCounter T w' property counter')

theorem Proxy.Edits.proxyEdit {p : Proxy} (h : p.Edits w w') : ProxyEdit w w' := by
  cases h with
  | set hset => exact .set hset
  | setValue hset => exact .setValue hset
  | view hopen hedits => exact .view hopen hedits
  | counter hopen => exact .counter hopen

theorem ProxyEdit.exists_edits (h : ProxyEdit w w') : ∃ p : Proxy, p.Edits w w' := by
  cases h with
  | set hset => exact ⟨_, .set hset⟩
  | setValue hset => exact ⟨_, .setValue hset⟩
  | view hopen hedits => exact ⟨_, .view hopen hedits⟩
  | counter hopen => exact ⟨_, .counter hopen⟩

/-- An edit records only properties that the proxy may write. -/
theorem Proxy.Edits.records {p : Proxy} (h : p.Edits w w')
    (hwritable : ∀ property access pm, p.writable property access = .ok pm → P p.handle pm)
    (hw : w.Records P) : w'.Records P := by
  cases h with
  | set hset =>
    obtain ⟨pm, cell, hpm, -, rfl⟩ := Proxy.set_eq_ok hset
    exact hw.modify fun old hold => DirtySet.forall_mark (hw _ old hold) (hwritable _ _ _ hpm)
  | setValue hset =>
    obtain ⟨pm, cell, entity, hpm, -, -, rfl⟩ := Proxy.setValue_eq_ok hset
    exact hw.modify fun old hold => DirtySet.forall_mark (hw _ old hold) (hwritable _ _ _ hpm)
  | @view _ _ _ _ _ accessor vacant _ _ hopen hedits =>
    obtain ⟨pm, cell, hpm, hcell, rfl, rfl⟩ := Proxy.openView_eq_ok hopen
    have hopened : (w.modify p.handle fun c => { c with
        entity := accessor.set c.entity vacant, loaded := addName pm.name c.loaded }).Records P :=
      hw.modify fun old hold => hw _ old hold
    refine hopened.modify fun _ _ => ?_
    rcases hedits.dirty with heq | heq
    · rw [heq]
      exact hw _ cell hcell
    · rw [heq]
      exact DirtySet.forall_mark (hw _ cell hcell) (hwritable _ _ _ hpm)
  | counter hopen =>
    obtain ⟨pm, cell, -, -, -, -, rfl⟩ := Proxy.openCounter_eq_ok hopen
    exact (hw.modifyEntity _ _).modifyEntity _ _

end WideColumn
