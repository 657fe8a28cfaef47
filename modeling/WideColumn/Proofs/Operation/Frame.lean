import WideColumn.Proofs.Operation.Calls

/-!
# What operations leave alone

The operations on entities never touch the registered types or the configuration, and only the
binding of an update touches the registry. The record of changes of a cell is kept or given up; it
grows through proxies alone. Preparing touches nothing but the session, the trace and the registry.
-/

namespace WideColumn.Op

variable {σ E : Type}

/-- The same types, statements and records of changes, except for records that were given up. -/
structure SameStore (s t : Site σ E) : Prop where
  types : t.types = s.types
  config : t.config = s.config
  registry : t.registry = s.registry
  dirty {h : Handle} {c' : Cell E} : t.workspace.cell? h = some c' →
    c'.dirty = .empty ∨ ∃ c, s.workspace.cell? h = some c ∧ c'.dirty = c.dirty

namespace SameStore

theorem refl (s : Site σ E) : SameStore s s where
  types := rfl
  config := rfl
  registry := rfl
  dirty hc := .inr ⟨_, hc, rfl⟩

theorem trans {s t u : Site σ E} (hst : SameStore s t) (htu : SameStore t u) : SameStore s u where
  types := htu.types.trans hst.types
  config := htu.config.trans hst.config
  registry := htu.registry.trans hst.registry
  dirty hc := by
    rcases htu.dirty hc with hempty | ⟨c, hc, heq⟩
    · exact .inl hempty
    · rw [heq]
      exact hst.dirty hc

/-- A site that differs in its session, its trace or its outbox only. -/
theorem of_eq {s t : Site σ E} (htypes : t.types = s.types) (hconfig : t.config = s.config)
    (hregistry : t.registry = s.registry) (hworkspace : t.workspace = s.workspace) :
    SameStore s t where
  types := htypes
  config := hconfig
  registry := hregistry
  dirty hc := by
    rw [hworkspace] at hc
    exact .inr ⟨_, hc, rfl⟩

/-- A change of one cell that keeps its record or gives it up. -/
theorem of_modify {s : Site σ E} {h : Handle} {f : Cell E → Cell E}
    (hf : ∀ c, (f c).dirty = c.dirty ∨ (f c).dirty = .empty) (trace : List Act) :
    SameStore s { s with trace, workspace := s.workspace.modify h f } where
  types := rfl
  config := rfl
  registry := rfl
  dirty {other c'} hc := by
    rw [Workspace.cell?_modify] at hc
    split at hc
    · obtain ⟨c, hold, rfl⟩ := Option.map_eq_some_iff.1 hc
      rcases hf c with heq | hempty
      · exact .inr ⟨c, hold, heq⟩
      · exact .inl hempty
    · exact .inr ⟨c', hc, rfl⟩

end SameStore

theorem composes_sameStore : Composes (SameStore (σ := σ) (E := E)) where
  refl := SameStore.refl
  trans := SameStore.trans

theorem sameStore_addEntity (entity : E) : Keeps (SameStore (σ := σ)) (addEntity entity) := by
  intro s
  rw [addEntity_apply]
  refine ⟨rfl, rfl, rfl, fun {h c'} hc => ?_⟩
  by_cases hlt : h.index < s.workspace.cells.size
  · rw [Workspace.cell?_add_of_lt _ _ _ hlt] at hc
    exact .inr ⟨c', hc, rfl⟩
  · -- The only cell beyond the old ones is the new one.
    have hlast : h.index = s.workspace.cells.size := by
      have hsize := Workspace.lt_of_cell? hc
      simp only [Workspace.add, Array.size_push] at hsize
      omega
    simp only [Workspace.cell?, Workspace.add, hlast, Array.getElem?_push_size,
      Option.some.injEq] at hc
    rw [← hc]
    exact .inl rfl

theorem sameStore_fire (T : EntityType E) (h : Handle) (event : Event) :
    Keeps (SameStore (σ := σ)) (fire T h event) := by
  intro s
  cases hc : s.workspace.cell? h with
  | none =>
    rw [fire_of_no_cell T event hc]
    exact .refl s
  | some c =>
    rw [fire_apply T event hc]
    show SameStore s (afterFire T h event c s)
    apply SameStore.of_modify
    intro _
    exact .inl rfl

variable [Session σ]

theorem sameStore_executeRequest (r : Request) :
    Keeps (SameStore (σ := σ) (E := E)) (executeRequest r) := by
  intro s
  rw [executeRequest_apply]
  exact .of_eq rfl rfl rfl rfl

theorem sameStore_handOver (kind : BatchKind) (r : Request) :
    Keeps (SameStore (σ := σ) (E := E)) (handOver kind r) := by
  intro s
  rcases handOver_cases kind r s with ⟨-, hrun⟩ | ⟨-, hrun⟩ <;> rw [hrun]
  · exact .of_eq rfl rfl rfl rfl
  · exact .of_eq rfl rfl rfl rfl

omit [Session σ] in
theorem sameStore_trigger (T : EntityType E) (h : Handle) (event : Event) :
    Keeps (SameStore (σ := σ)) (trigger T h event) := by
  intro s
  rcases trigger_cases T h event s with ⟨-, hrun⟩ | hrun | ⟨-, hrun⟩ <;> rw [hrun]
  · exact .refl s
  · exact sameStore_fire T h event s
  · exact .of_eq rfl rfl rfl rfl

/-- Whatever is written, the steps of the operations on entities keep the store. -/
theorem admits_sameStore : Admits (SameStore (σ := σ) (E := E)) fun _ _ => True where
  toComposes := composes_sameStore
  push _ := sameStore_handOver .logged _
  pushCounter _ := sameStore_handOver .counter _
  trigger := sameStore_trigger
  addEntity := sameStore_addEntity
  modifyCell _ _ hf := fun s => by
    rw [modifyCell_apply]
    exact .of_modify hf _

/-- The session after it was asked to prepare texts. -/
def preparing (session : σ) (texts : List String) : σ :=
  texts.foldl (fun session text => (Session.prepare session text).2) session

/-- Nothing but preparing was done: the session was asked, and updates were kept. -/
structure Prepares (s t : Site σ E) : Prop where
  asked : ∃ texts : List String, t.trace = s.trace ++ texts.map .prepared ∧
    t.session = preparing s.session texts
  workspace : t.workspace = s.workspace
  outbox : t.outbox = s.outbox
  types : t.types = s.types
  config : t.config = s.config
  entities : t.registry.entities = s.registry.entities
  sharedCounters : t.registry.sharedCounters = s.registry.sharedCounters

theorem composes_prepares : Composes (Prepares (σ := σ) (E := E)) where
  refl s := ⟨⟨[], by simp, rfl⟩, rfl, rfl, rfl, rfl, rfl, rfl⟩
  trans hst htu := by
    obtain ⟨texts, ht, hsession⟩ := hst.asked
    obtain ⟨more, hu, hsession'⟩ := htu.asked
    refine {
      asked := ⟨texts ++ more, ?_, ?_⟩
      workspace := htu.workspace.trans hst.workspace
      outbox := htu.outbox.trans hst.outbox
      types := htu.types.trans hst.types
      config := htu.config.trans hst.config
      entities := htu.entities.trans hst.entities
      sharedCounters := htu.sharedCounters.trans hst.sharedCounters }
    · rw [hu, ht, List.map_append, List.append_assoc]
    · unfold preparing at hsession hsession' ⊢
      rw [hsession', hsession, List.foldl_append]

theorem prepares_prepare (text : String) : Keeps (Prepares (σ := σ) (E := E)) (prepare text) := by
  intro s
  rw [prepare_apply]
  exact ⟨⟨[text], rfl, rfl⟩, rfl, rfl, rfl, rfl, rfl, rfl⟩

theorem prepares_modifyUpdates (f : StatementCache → StatementCache) :
    Keeps (Prepares (σ := σ) (E := E))
      (modifyRegistry fun r => { r with updates := f r.updates }) :=
  fun _ => ⟨⟨[], by simp, rfl⟩, rfl, rfl, rfl, rfl, rfl, rfl⟩

theorem prepares_preparedUpdate (em : EntityMeta) (properties : List PropertyMeta) :
    Keeps (Prepares (σ := σ) (E := E)) (preparedUpdate em properties) := by
  have hcomp := composes_prepares (σ := σ) (E := E)
  apply keeps_get_bind
  intro s
  refine hcomp.bind (prepares_modifyUpdates fun _ => _) fun _ => ?_
  split
  · exact hcomp.pure _
  · exact hcomp.bind (prepares_prepare _) fun _ =>
      hcomp.bind (prepares_modifyUpdates fun updates => updates.insert _ _) fun _ => hcomp.pure _

theorem prepares_bindUpdate (T : EntityType E) (em : EntityMeta) (entity : E)
    (properties : List PropertyMeta) (options : Options) (level : Level) :
    Keeps (Prepares (σ := σ)) (bindUpdate T em entity properties options level) := by
  have hcomp := composes_prepares (σ := σ) (E := E)
  apply keeps_get_bind
  intro s
  apply hcomp.lift_bind
  intro _ _
  exact hcomp.bind (prepares_preparedUpdate _ _) fun _ => hcomp.lift_bind fun _ _ => hcomp.pure _

end WideColumn.Op
