import WideColumn.Proofs.Edit.Records
import WideColumn.Proofs.Operation.Traversal
import WideColumn.Proofs.Registry.Sound

/-!
# Soundness of reachable states

In every reachable state the registry is sound for the registered types, every registered type has
checked metadata and statements of its class, and no key or counter is recorded as changed. Main
statement: `Reachable.sound`.
-/

namespace WideColumn

open Op

variable {σ E : Type}

/-- What holds of the site of every reachable state. -/
structure Site.Sound (s : Site σ E) : Prop where
  registry : s.registry.Sound s.types
  built {name : String} {em : EntityMeta} : (name, em) ∈ s.types → em.Built
  known {name : String} {em : EntityMeta} :
    (name, em) ∈ s.types → s.registry.isRegistered em.className = true
  dirty {h : Handle} {c : Cell E} : s.workspace.cell? h = some c →
    ∀ pm ∈ c.dirty.properties, pm.isId = false ∧ pm.isCounter = false

namespace Site.Sound

/-- Soundness does not depend on the session, the trace and the outbox. -/
theorem congr {s t : Site σ E} (hs : s.Sound) (hregistry : t.registry = s.registry)
    (htypes : t.types = s.types) (hworkspace : t.workspace = s.workspace) : t.Sound where
  registry := by
    rw [hregistry, htypes]
    exact hs.registry
  built hmem := by
    rw [htypes] at hmem
    exact hs.built hmem
  known hmem := by
    rw [htypes] at hmem
    rw [hregistry]
    exact hs.known hmem
  dirty hc := by
    rw [hworkspace] at hc
    exact hs.dirty hc

theorem of_sameStore {s t : Site σ E} (h : SameStore s t) (hs : s.Sound) : t.Sound where
  registry := by
    rw [h.registry, h.types]
    exact hs.registry
  built hmem := by
    rw [h.types] at hmem
    exact hs.built hmem
  known hmem := by
    rw [h.types] at hmem
    rw [h.registry]
    exact hs.known hmem
  dirty hc pm hpm := by
    rcases h.dirty hc with hempty | ⟨c, hold, heq⟩
    · rw [hempty] at hpm
      cases hpm
    · rw [heq] at hpm
      exact hs.dirty hold pm hpm

theorem ofConfig (session : σ) (config : Config) :
    (Site.ofConfig session config : Site σ E).Sound where
  registry := .ofCapacity _
  built h := by cases h
  known h := by cases h
  dirty h := by simp [Site.ofConfig, Workspace.empty, Workspace.cell?] at h

end Site.Sound

/-! ### Operations on entities -/

/-- A sound site that knows a type stays one. -/
def KeepsKnown (entry : String × EntityMeta) (s t : Site σ E) : Prop :=
  entry ∈ s.types ∧ s.Sound → entry ∈ t.types ∧ t.Sound

/-- A sound site stays one. -/
def StaysSound (s t : Site σ E) : Prop := s.Sound → t.Sound

theorem composes_keepsKnown (entry : String × EntityMeta) :
    Composes (KeepsKnown (σ := σ) (E := E) entry) :=
  composes_of_invariant fun s : Site σ E => entry ∈ s.types ∧ s.Sound

theorem composes_staysSound : Composes (StaysSound (σ := σ) (E := E)) :=
  composes_of_invariant fun s : Site σ E => s.Sound

variable [Session σ]

theorem admits_keepsKnown (entry : String × EntityMeta) :
    Admits (KeepsKnown (σ := σ) (E := E) entry) fun _ _ => True :=
  admits_sameStore.mono (composes_keepsKnown entry) fun _ _ h ⟨hmem, hs⟩ =>
    ⟨h.types ▸ hmem, hs.of_sameStore h⟩

theorem keepsKnown_bindUpdate [LawfulSession σ] (c : Call E) (name : String) (entity : E)
    (properties : List PropertyMeta) :
    Keeps (KeepsKnown (σ := σ) (name, c.entityMeta)) (bindUpdate c.type c.entityMeta entity
      properties c.options (Levels.write c.options c.entityMeta)) := by
  intro s ⟨hmem, hs⟩
  have hprepares := prepares_bindUpdate c.type c.entityMeta entity properties c.options
    (Levels.write c.options c.entityMeta) s
  have hregistry := keepsSound_bindUpdate hmem c.type entity properties c.options
    (Levels.write c.options c.entityMeta) s hs.registry
  refine ⟨hprepares.types ▸ hmem, ?_, ?_, ?_, ?_⟩
  · rw [hprepares.types]
    exact hregistry
  · rw [hprepares.types]
    exact hs.built
  · intro name' em hmem'
    rw [hprepares.types] at hmem'
    rw [Registry.isRegistered_congr hprepares.entities]
    exact hs.known hmem'
  · rw [hprepares.workspace]
    exact hs.dirty

theorem sound_updateIn [LawfulSession σ] (T : EntityType E) (options : Options) (p : Proxy) :
    Keeps (StaysSound (σ := σ)) (Manager.updateIn T p options) := by
  intro s
  apply Manager.call_bind_at composes_staysSound
  intro c hc hs
  have hkeeps := c.keeps_update (admits_keepsKnown (T.typeName, c.entityMeta)) c.writes_true
    (keepsKnown_bindUpdate (σ := σ) c T.typeName) p
  exact (hkeeps s ⟨mem_of_lookup hc.lookup_eq, hs⟩).2

omit [Session σ] in
theorem sound_immediately {α : Type} {op : Op σ E α} (h : Keeps StaysSound op) :
    Keeps StaysSound (Manager.immediately op) := by
  intro s hs
  have hrun := h { s with outbox := .ofMode .immediate s.config.writeLevel }
    (hs.congr rfl rfl rfl)
  exact hrun.congr rfl rfl rfl

theorem frames_staysSound [LawfulSession σ] : Frames (StaysSound (σ := σ) (E := E)) where
  toComposes := composes_staysSound
  outside _ _ _ _ hs := hs.congr rfl rfl rfl
  addEntity entity s hs := hs.of_sameStore (sameStore_addEntity entity s)
  modifyCell h f hf s hs := hs.of_sameStore (admits_sameStore.modifyCell h f hf s)
  updateIn T p options := sound_updateIn T options p

/-! ### Registering -/

omit [Session σ] in
theorem built_resolve {em : EntityMeta} (h : em.Built) (config : Config) :
    (config.resolve em).Built := by
  obtain ⟨draft, checked, read, write, hbuild, rfl⟩ := h
  exact ⟨draft, checked, _, _, hbuild, rfl⟩

theorem sound_register [LawfulSession σ] {T : EntityType E} (hT : T.Built) :
    Keeps (StaysSound (σ := σ)) (Manager.register T) := by
  intro s hs
  unfold Manager.register
  rw [get_bind_apply]
  cases s.types.lookup T.typeName with
  | some em => exact hs
  | none =>
    dsimp only
    rw [get_bind_apply]
    cases hem : T.entityMeta with
    | error e => exact hs
    | ok checked =>
      rw [lift_bind_of_ok rfl]
      have hsound := registerStatements_sound T.typeName (s.config.resolve checked) hs.registry
      have hsame := sameEntities_registerStatements (s.config.resolve checked) s
      have hkept := isRegistered_registerStatements (s.config.resolve checked) s
      rcases hrun : Op.registerStatements (s.config.resolve checked) s with ⟨e | _, t⟩
      · rw [hrun] at hsound hsame hkept
        rw [bind_of_error hrun]
        refine ⟨?_, ?_, ?_, ?_⟩
        · rw [hsame.types]
          exact hsound.2 e rfl
        · rw [hsame.types]
          exact hs.built
        · intro name em hmem
          rw [hsame.types] at hmem
          exact hkept.1 _ (hs.known hmem)
        · rw [hsame.workspace]
          exact hs.dirty
      · rw [hrun] at hsound hsame hkept
        rw [bind_of_ok hrun, bind_of_ok (modify_apply _ _)]
        refine ⟨?_, ?_, ?_, ?_⟩
        · show t.registry.Sound ((T.typeName, s.config.resolve checked) :: t.types)
          rw [hsame.types]
          exact hsound.1 rfl
        · intro name em hmem
          rcases List.mem_cons.1 hmem with heq | hmem
          · obtain ⟨-, rfl⟩ := Prod.mk.inj heq
            exact built_resolve (hT checked hem) s.config
          · rw [hsame.types] at hmem
            exact hs.built hmem
        · intro name em hmem
          rcases List.mem_cons.1 hmem with heq | hmem
          · obtain ⟨-, rfl⟩ := Prod.mk.inj heq
            exact hkept.2 rfl
          · rw [hsame.types] at hmem
            exact hkept.1 _ (hs.known hmem)
        · intro h c hc
          rw [hsame.workspace] at hc
          exact hs.dirty hc

/-! ### Proxies -/

/-- The records of the cells name neither keys nor counters. -/
def Workspace.Clean (w : Workspace E) : Prop :=
  ∀ h c, w.cell? h = some c → ∀ pm ∈ c.dirty.properties, pm.isId = false ∧ pm.isCounter = false

/-- Changing entities through proxies keeps keys and counters out of the records. -/
theorem ProxyEdit.clean {w w' : Workspace E} (h : ProxyEdit w w') (hw : w.Clean) : w'.Clean := by
  obtain ⟨p, hedits⟩ := h.exists_edits
  have hkept : w'.Records fun _ pm => pm.isId = false ∧ pm.isCounter = false :=
    hedits.records (fun _ _ _ hpm => (Proxy.writable_eq_ok hpm).2.2) hw
  exact hkept

omit [Session σ] in
/-- Changing entities through proxies keeps a site sound. -/
theorem Site.Sound.edit {s : Site σ E} (hs : s.Sound) {w : Workspace E}
    (hedit : ProxyEdit s.workspace w) : Site.Sound { s with workspace := w } where
  registry := hs.registry
  built := hs.built
  known := hs.known
  dirty {h c} hc := hedit.clean (fun _ _ hcell => hs.dirty hcell) h c hc

/-- The site of every reachable state is sound. -/
theorem Reachable.sound [LawfulSession σ] {b : Batching σ E} (h : Reachable b) :
    b.site.Sound := by
  refine h.of_moves (P := fun b => b.site.Sound) (fun session config => ?_) fun b c _ hmove hb => ?_
  · exact (Site.Sound.ofConfig session config).congr rfl rfl rfl
  · rcases hmove.keeps_or_register frames_staysSound (fun _ _ hedit hs => hs.edit hedit) with
      hkeeps | ⟨T, hT, rfl⟩
    · exact hkeeps hb
    · exact sound_register hT _ hb

end WideColumn
