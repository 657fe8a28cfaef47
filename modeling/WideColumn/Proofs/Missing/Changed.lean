import WideColumn.Proofs.Edit.Inversion
import WideColumn.Proofs.Window.Pending

/-!
# Changed attributes are loaded

In every reachable state, what is recorded as changed of an entity counts as loaded. A change
through a proxy makes its attribute count; as long as the record of changes is kept no attribute
stops counting, and what reads an entity again gives up both. In the midst of a call anything may
count as loaded of the entities that the call put into the workspace, but nothing is recorded as
changed of them (`Workspace.Accounted`). Main statement: `Reachable.dirtyLoaded`.
-/

namespace WideColumn

open Op

variable {σ E : Type}

/-! ### Records of changes -/

/-- Every changed attribute counts as loaded. -/
def Workspace.DirtyLoaded (w : Workspace E) : Prop :=
  ∀ h cell, w.cell? h = some cell → cell.dirty.names ⊆ cell.loaded

/-- The same in the midst of a call that began with `n` cells: of the cells that it added nothing is
recorded as changed. -/
structure Workspace.Accounted (n : Nat) (w : Workspace E) : Prop where
  size : n ≤ w.cells.size
  changed {h : Handle} {cell : Cell E} : w.cell? h = some cell →
    cell.dirty = .empty ∨ h.index < n ∧ cell.dirty.names ⊆ cell.loaded

namespace Workspace

variable {n : Nat} {w : Workspace E} {handle : Handle} {f : Cell E → Cell E}

theorem DirtyLoaded.accounted (hw : w.DirtyLoaded) : w.Accounted w.cells.size where
  size := Nat.le_refl _
  changed hcell := .inr ⟨lt_of_cell? hcell, hw _ _ hcell⟩

theorem Accounted.dirtyLoaded (hw : w.Accounted n) : w.DirtyLoaded := by
  intro h cell hcell
  rcases hw.changed hcell with hempty | ⟨-, hloaded⟩
  · rw [hempty]
    exact List.nil_subset _
  · exact hloaded

/-- A change of the cell of one proxy. -/
theorem DirtyLoaded.modify (hw : w.DirtyLoaded)
    (hf : ∀ c, w.cell? handle = some c → c.dirty.names ⊆ c.loaded →
      (f c).dirty.names ⊆ (f c).loaded) : (w.modify handle f).DirtyLoaded :=
  fun _ _ hcell => forall_cell?_modify hw (fun c hc => hf c hc (hw _ c hc)) hcell

/-- A step of a call gives up the record of changes of a cell, or keeps it and with it what counts
as loaded, unless the cell is new. -/
theorem Accounted.modify (hw : w.Accounted n)
    (hf : ∀ c, (f c).dirty = .empty ∨
      (f c).dirty = c.dirty ∧ (n ≤ handle.index ∨ c.loaded ⊆ (f c).loaded)) :
    (w.modify handle f).Accounted n where
  size := by
    rw [size_modify]
    exact hw.size
  changed hcell := by
    refine forall_cell?_modify (fun _ _ => hw.changed) (fun c hc => ?_) hcell
    rcases hf c with hempty | ⟨hkept, hloaded⟩
    · exact .inl hempty
    · rw [hkept]
      refine (hw.changed hc).imp id fun ⟨hlt, hsubset⟩ => ⟨hlt, ?_⟩
      rcases hloaded with hnew | hloaded
      · exact absurd hlt (Nat.not_lt_of_le hnew)
      · exact List.Subset.trans hsubset hloaded

theorem Accounted.add (hw : w.Accounted n) (entity : E) : (w.add entity).2.Accounted n where
  size := by
    rw [size_add]
    exact Nat.le_succ_of_le hw.size
  changed {h cell} hcell := by
    by_cases hlt : h.index < w.cells.size
    · rw [cell?_add_of_lt _ _ _ hlt] at hcell
      exact hw.changed hcell
    · simp only [Workspace.add, cell?, Array.getElem?_push] at hcell
      split at hcell
      · rw [← Option.some.inj hcell]
        exact .inl rfl
      · exact absurd (Array.getElem?_eq_some_iff.1 hcell).1 hlt

end Workspace

/-! ### Steps of a call -/

/-- In the midst of a call that began with `n` cells. -/
def KeepsAccounted (n : Nat) (s t : Site σ E) : Prop :=
  s.workspace.Accounted n → t.workspace.Accounted n

/-- From one call to the next. -/
def KeepsDirtyLoaded (s t : Site σ E) : Prop := s.workspace.DirtyLoaded → t.workspace.DirtyLoaded

theorem comparesCells_keepsAccounted (n : Nat) :
    ComparesCells (KeepsAccounted (σ := σ) (E := E) n) where
  toComposes := composes_of_invariant fun s : Site σ E => s.workspace.Accounted n
  of_workspace h hs := h ▸ hs
  of_entity h hs := h ▸ hs.modify fun _ => .inr ⟨rfl, .inr (List.Subset.refl _)⟩

variable [Session σ]

theorem upholds_keepsAccounted (n : Nat) :
    Upholds (fun s : Site σ E => n ≤ s.workspace.cells.size) (fun h => n ≤ h.index)
      (KeepsAccounted n) (fun _ _ => True) fun _ => True where
  toComposes := (comparesCells_keepsAccounted n).toComposes
  assuming himp hs := himp hs.size hs
  push _ := (comparesCells_keepsAccounted n).handOver .logged _
  pushCounter _ := (comparesCells_keepsAccounted n).handOver .counter _
  execute _ := (comparesCells_keepsAccounted n).executeRequest _
  trigger := (comparesCells_keepsAccounted n).trigger
  addEntity entity s hs := by
    rw [addEntity_apply]
    exact hs.add entity
  fresh entity hsize := hsize
  modifyCell h f hdirty _ hloaded s hs := by
    rw [modifyCell_apply]
    refine hs.modify fun c => ?_
    rcases hdirty c with hkept | hempty
    · exact (hloaded c).imp id fun hsubset => ⟨hkept, .inr hsubset⟩
    · exact .inl hempty
  record f hnew hdirty s hs := by
    rw [modifyCell_apply]
    exact hs.modify fun c => .inr ⟨hdirty c, .inl hnew⟩

/-- An update gives up the record of what it wrote, and keeps the rest. -/
theorem keepsAccounted_updateIn (n : Nat) (T : EntityType E) (p : Proxy) (options : Options) :
    Keeps (KeepsAccounted (σ := σ) n) (Manager.updateIn T p options) := by
  intro s
  have hR := upholds_keepsAccounted (σ := σ) (E := E) n
  refine Manager.call_bind_at hR.toComposes fun c _ => ?_
  rw [Call.update_eq_updateParts]
  refine hR.bind (c.upholds_updateParts hR c.writesOn_true (fun _ _ _ _ _ _ _ _ => trivial)
    fun _ _ => (comparesCells_keepsAccounted n).bindUpdate _ _ _ _ _ _) (fun _ t ht => ?_) s
  exact ht.modify fun _ => .inr ⟨rfl, .inr (List.Subset.refl _)⟩

/-! ### Moves -/

namespace KeepsDirtyLoaded

omit [Session σ] in
theorem comparesCells : ComparesCells (KeepsDirtyLoaded (σ := σ) (E := E)) where
  toComposes := composes_of_invariant fun s : Site σ E => s.workspace.DirtyLoaded
  of_workspace h hs := h ▸ hs
  of_entity h hs := h ▸ hs.modify fun _ _ hc => hc

omit [Session σ] in
/-- What keeps the account of the old and new cells keeps changed attributes loaded. -/
theorem of_accounted {s t : Site σ E} (h : ∀ n, KeepsAccounted n s t) : KeepsDirtyLoaded s t :=
  fun hs => (h _ hs.accounted).dirtyLoaded

theorem runsAtOnce {α : Type} {op : Op σ E α} (h : RunsAtOnce op) : Keeps KeepsDirtyLoaded op :=
  fun s => of_accounted fun n => (upholds_keepsAccounted n).runsAtOnce h s

theorem updateIn (T : EntityType E) (p : Proxy) (options : Options) :
    Keeps (KeepsDirtyLoaded (σ := σ)) (Manager.updateIn T p options) :=
  fun s => of_accounted fun n => keepsAccounted_updateIn n T p options s

theorem runsInWindow {α : Type} {op : Op σ E α} (h : RunsInWindow op) :
    Keeps KeepsDirtyLoaded op := by
  cases h with
  | persist T entity options => exact runsAtOnce (.persist T entity options)
  | update T p options => exact updateIn T p options
  | remove T entity options => exact runsAtOnce (.remove T entity options)
  | removeById T key options => exact runsAtOnce (.removeById T key options)
  | find T key options => exact runsAtOnce (.find T key options)
  | getProxy T key options => exact runsAtOnce (.getProxy T key options)
  | refresh T p options => exact runsAtOnce (.refresh T p options)

end KeepsDirtyLoaded

theorem ManagerCall.keepsDirtyLoaded_run (call : ManagerCall E) :
    Keeps (KeepsDirtyLoaded (σ := σ)) call.run := by
  intro s
  cases hregister : call.isRegister with
  | true =>
    cases call with
    | register T =>
      show KeepsDirtyLoaded s ((do let _ ← Manager.register T : Op σ E Unit) s).2
      rw [discard_apply]
      exact KeepsDirtyLoaded.comparesCells.of_workspace (Manager.same_register T s).1
    | _ => cases hregister
  | false =>
    exact call.keeps_run_of KeepsDirtyLoaded.comparesCells.toComposes
      (fun hop s => KeepsDirtyLoaded.runsAtOnce hop (Manager.atOnce s)) hregister
      fun T p options _ => KeepsDirtyLoaded.updateIn T p options (Manager.atOnce s)

theorem WindowCall.keepsDirtyLoaded_run (call : WindowCall E) (b : Batching σ E) :
    KeepsDirtyLoaded b.site (call.run b).2.site := by
  have hR := KeepsDirtyLoaded.comparesCells (σ := σ) (E := E)
  cases hresets : call.resets with
  | true =>
    rcases call.eq_endBatch_or with rfl | hend
    · exact hR.sendAll b.site.outbox
        { b.site with outbox := b.site.outbox.reset b.defaultLevel }
    · obtain ⟨level, hsite⟩ := call.run_of_resets hresets hend b
      rw [hsite]
      exact hR.of_workspace rfl
  | false =>
    rcases call.site_of_not_resets hresets b with hsite | ⟨α, op, hop, hsite⟩ <;> rw [hsite]
    · exact hR.refl _
    · exact KeepsDirtyLoaded.runsInWindow hop b.site

omit [Session σ] in
/-- What is written through a proxy counts as loaded, and so does a container that was opened. -/
theorem ProxyEdit.dirtyLoaded {w w' : Workspace E} (hedit : ProxyEdit w w')
    (hw : w.DirtyLoaded) : w'.DirtyLoaded := by
  have touched (p : Proxy) (pm : PropertyMeta) (change : Cell E → E) : (w.modify p.handle fun c =>
      Proxy.touch pm { c with entity := change c }).DirtyLoaded := by
    refine hw.modify fun c _ hc name hname => mem_addName.2 ?_
    exact ((DirtySet.mem_names_mark _ _ _).1 hname).imp id fun hmem => hc hmem
  cases hedit with
  | set hset =>
    obtain ⟨pm, cell, -, -, rfl⟩ := Proxy.set_eq_ok hset
    exact touched _ pm _
  | setValue hset =>
    obtain ⟨pm, cell, entity, -, -, -, rfl⟩ := Proxy.setValue_eq_ok hset
    exact touched _ pm _
  | view hopen hedits =>
    obtain ⟨pm, cell, -, hcell, rfl, rfl⟩ := Proxy.openView_eq_ok hopen
    have hloaded : pm.name :: cell.dirty.names ⊆ addName pm.name cell.loaded := fun name hname =>
      mem_addName.2 ((List.mem_cons.1 hname).imp id fun hmem => hw _ cell hcell hmem)
    refine Workspace.DirtyLoaded.modify (hw.modify fun c _ hc name hname =>
      mem_addName.2 (.inr (hc hname))) fun c hc _ => ?_
    rw [Workspace.cell?_modify_self hcell] at hc
    obtain rfl := Option.some.inj hc
    refine List.Subset.trans (fun name hname => ?_) hloaded
    rcases hedits.dirty with hdirty | hdirty <;> rw [hdirty] at hname
    · exact List.mem_cons_of_mem _ hname
    · exact List.mem_cons.2 ((DirtySet.mem_names_mark _ _ _).1 hname)
  | counter hopen =>
    obtain ⟨pm, cell, -, -, -, -, rfl⟩ := Proxy.openCounter_eq_ok hopen
    refine Workspace.DirtyLoaded.modify (Workspace.DirtyLoaded.modify hw ?_) ?_
    · exact fun _ _ hc => hc
    · exact fun _ _ hc => hc

/-- In every reachable state the changed attributes count as loaded. -/
theorem Reachable.dirtyLoaded {b : Batching σ E} (hb : Reachable b) :
    b.site.workspace.DirtyLoaded := by
  refine hb.of_moves (P := fun b => b.site.workspace.DirtyLoaded)
    (fun session config h cell hcell => ?_) fun b c _ hmove ih => ?_
  · cases (Array.getElem?_eq_some_iff.1 hcell).1
  · cases hmove with
    | restart => exact ih
    | manager call => exact call.keepsDirtyLoaded_run b.site ih
    | window call => exact call.keepsDirtyLoaded_run b ih
    | complete T p =>
      exact (ManagerCall.complete T p).keepsDirtyLoaded_run b.site ih
    | edit hedit => exact hedit.dirtyLoaded ih

end WideColumn
