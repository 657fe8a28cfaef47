import WideColumn.Proofs.Operation.Emits
import WideColumn.Proofs.Window.Pending

/-!
# Levels of what is sent

The level that each statement of a call on entities carries: a regular write that of a write of the
class, the write of a counter that of a write of the counter, the read of a row that of a read of
the class, and the read of a property that of a read of the property. Main statement:
`EntityCall.emits_levels`.
-/

namespace WideColumn

open Op

variable {σ E : Type}

/-! ### Requests -/

namespace Registry

/-- The request writes a counter of the class. -/
def WritesCounter (r : Registry) (em : EntityMeta) (pm : PropertyMeta) (request : Request) : Prop :=
  ∃ key, (∃ delta, r.bindClusteredDelta em pm key delta request.level = .ok request) ∨
    (∃ delta, r.bindSharedDelta em pm key delta request.level = .ok request) ∨
    r.bindShared .delete em pm key request.level = .ok request

/-- The request deletes a row of a counter table. -/
def DeletesRow (r : Registry) (em : EntityMeta) (request : Request) : Prop :=
  ∃ key, r.bindClustered .delete Template.deleteAll em key request.level = .ok request

/-- The request reads a property of the class. -/
def ReadsProperty (r : Registry) (em : EntityMeta) (pm : PropertyMeta) (request : Request) : Prop :=
  ∃ key, r.bindSelectField em pm key request.level = .ok request ∨
    r.bindClustered .select pm.name em key request.level = .ok request ∨
    r.bindShared .select em pm key request.level = .ok request

/-- A write of the class at the level that the options give: a counter at its own level, everything
else at that of the class. -/
def WritesAt (r : Registry) (em : EntityMeta) (options : Options) : BatchKind → Request → Prop
  | .logged, request => request.level = Levels.write options em
  | .counter, request =>
    (∃ pm ∈ em.counters, r.WritesCounter em pm request ∧
      request.level = Levels.writeProperty options pm em) ∨
    r.DeletesRow em request ∧ request.level = Levels.write options em

/-- A read of a property of the class at the level that the options give. -/
def ReadsAt (r : Registry) (em : EntityMeta) (options : Options) (request : Request) : Prop :=
  ∃ pm, (pm ∈ em.onDemand ∨ pm ∈ em.counters) ∧ r.ReadsProperty em pm request ∧
    request.level = Levels.readProperty options pm em

theorem level_of_bindSelectField {r : Registry} {em : EntityMeta} {pm : PropertyMeta}
    {key : List Value} {level : Level} {request : Request}
    (h : r.bindSelectField em pm key level = .ok request) : request.level = level := by
  obtain ⟨statements, -, h⟩ := except_bind_eq_ok h
  split at h
  · obtain ⟨_, -, rfl⟩ := bindKey_eq_ok h
    rfl
  · obtain ⟨_, -, h⟩ := except_bind_eq_ok h
    cases h

end Registry

theorem Call.level_of_readRequest {c : Call E} {r : Registry} {key : List Value}
    {request : Request} (h : c.readRequest r key = .ok request) :
    request.level = Levels.read c.options c.entityMeta := by
  unfold Call.readRequest at h
  split at h
  · exact Registry.level_of_bindClustered h
  · obtain ⟨_, -, h⟩ := except_bind_eq_ok h
    obtain ⟨_, -, h⟩ := except_bind_eq_ok h
    obtain ⟨_, -, rfl⟩ := Registry.bindKey_eq_ok h
    rfl

/-! ### Acts -/

/-- What the act hands over satisfies `W`, and what it executes satisfies this or `Q`. It sends no
group. -/
def Act.Carries (W : BatchKind → Request → Prop) (Q : Request → Prop) : Act → Prop
  | .pushed kind r => W kind r
  | .logged (.sent r) => Q r ∨ ∃ kind, W kind r
  | .executed statement => ∃ r, (Q r ∨ ∃ kind, W kind r) ∧ statement = r.statement
  | .prepared _ | .intercepted .. => True
  | .sentBatch .. | .logged _ => False

section

variable {W : BatchKind → Request → Prop} {Q : Request → Prop}

theorem allowsQuiet_carries : AllowsQuiet (Act.Carries W Q) := ⟨fun _ => trivial, fun _ _ => trivial⟩

theorem allowsRead_carries {r : Request} (h : Q r) : AllowsRead (Act.Carries W Q) r where
  logged := .inl h
  executed := ⟨r, .inl h, rfl⟩

theorem allowsWrite_carries {kind : BatchKind} {r : Request} (h : W kind r) :
    AllowsWrite (Act.Carries W Q) kind r where
  pushed := h
  logged := .inr ⟨kind, h⟩
  executed := ⟨r, .inr ⟨kind, h⟩, rfl⟩

end

/-! ### Calls -/

/-- The same prepared statements, except for the cached updates. -/
structure SameTables (start s : Site σ E) : Prop where
  entities : s.registry.entities = start.registry.entities
  sharedCounters : s.registry.sharedCounters = start.registry.sharedCounters

theorem SameTables.of_sameStore {start s t : Site σ E} (h : SameStore s t)
    (hs : SameTables start s) : SameTables start t where
  entities := by rw [h.registry, hs.entities]
  sharedCounters := by rw [h.registry, hs.sharedCounters]

theorem SameTables.registry_eq {start s : Site σ E} (h : SameTables start s) :
    s.registry = { start.registry with updates := s.registry.updates } := by
  have hentities := h.entities
  have hshared := h.sharedCounters
  rcases hregistry : s.registry with ⟨entities, shared, updates⟩
  rw [hregistry] at hentities hshared
  obtain rfl : entities = start.registry.entities := hentities
  obtain rfl : shared = start.registry.sharedCounters := hshared
  rfl

namespace Call

variable (c : Call E) (start : Site σ E) {W : BatchKind → Request → Prop} {Q : Request → Prop}

theorem writesOn_carries
    (hW : ∀ kind r, start.registry.WritesAt c.entityMeta c.options kind r → W kind r) :
    c.WritesOn (SameTables start) (AllowsWrite (Act.Carries W Q)) where
  insert _ _ h := allowsWrite_carries (hW .logged _ (Registry.level_of_bindInsert h))
  delta {s pm key delta request} hs hpm h := by
    rw [hs.registry_eq] at h
    unfold bindDelta at h
    dsimp only at h
    split at h
    · have hlevel := Registry.level_of_bindClusteredDelta h
      rw [← hlevel] at h
      exact allowsWrite_carries (hW .counter _ (.inl ⟨pm, hpm, ⟨key, .inl ⟨delta, h⟩⟩, hlevel⟩))
    · have hlevel := Registry.level_of_bindSharedDelta h
      rw [← hlevel] at h
      exact allowsWrite_carries
        (hW .counter _ (.inl ⟨pm, hpm, ⟨key, .inr (.inl ⟨delta, h⟩)⟩, hlevel⟩))
  removal _ _ h request hmem :=
    allowsWrite_carries (hW .logged _ (Registry.level_of_bindRemoval h request hmem))
  removeRow {s key request} hs _ h := by
    rw [hs.registry_eq] at h
    have hlevel := Registry.level_of_bindClustered h
    rw [← hlevel] at h
    exact allowsWrite_carries (hW .counter _ (.inr ⟨⟨key, h⟩, hlevel⟩))
  removeCounter {s pm key request} hs _ hpm h := by
    rw [hs.registry_eq] at h
    have hlevel := Registry.level_of_bindShared h
    rw [← hlevel] at h
    exact allowsWrite_carries (hW .counter _ (.inl ⟨pm, hpm, ⟨key, .inr (.inr h)⟩, hlevel⟩))

theorem rowsOn_carries (hQ : ∀ r, r.level = Levels.read c.options c.entityMeta → Q r) :
    c.RowsOn (SameTables start) (AllowsRead (Act.Carries W Q)) :=
  fun _ _ _ _ h => allowsRead_carries (hQ _ (level_of_readRequest h))

theorem fieldsOn_carries (hQ : ∀ r, start.registry.ReadsAt c.entityMeta c.options r → Q r) :
    c.FieldsOn (SameTables start) (AllowsRead (Act.Carries W Q)) where
  field {s pm key request} hs hpm h := by
    rw [hs.registry_eq] at h
    have hlevel := Registry.level_of_bindSelectField h
    rw [← hlevel] at h
    exact allowsRead_carries (hQ _ ⟨pm, .inl hpm, ⟨key, .inl h⟩, hlevel⟩)
  counter {s pm key request} hs hpm h := by
    rw [hs.registry_eq] at h
    unfold readCounterRequest at h
    dsimp only at h
    split at h
    · have hlevel := Registry.level_of_bindClustered h
      rw [← hlevel] at h
      exact allowsRead_carries (hQ _ ⟨pm, .inr hpm, ⟨key, .inr (.inl h)⟩, hlevel⟩)
    · have hlevel := Registry.level_of_bindShared h
      rw [← hlevel] at h
      exact allowsRead_carries (hQ _ ⟨pm, .inr hpm, ⟨key, .inr (.inr h)⟩, hlevel⟩)

variable [Session σ]

theorem updatesOn_carries (p : Proxy)
    (hW : ∀ kind r, start.registry.WritesAt c.entityMeta c.options kind r → W kind r) :
    c.UpdatesOn (SameTables start) p (AllowsWrite (Act.Carries W Q)) :=
  fun _ _ _ _ _ _ _ h => allowsWrite_carries (hW .logged _ (Op.level_of_bindUpdate h))

/-- Binding an update prepares statements, and keeps them in the cache only. -/
theorem emits_bindUpdate_carries (entity : E) (properties : List PropertyMeta) :
    Keeps (Emits (SameTables start) (Act.Carries W Q)) (bindUpdate c.type c.entityMeta entity
      properties c.options (Levels.write c.options c.entityMeta)) := by
  intro s hs
  have h := prepares_bindUpdate c.type c.entityMeta entity properties c.options
    (Levels.write c.options c.entityMeta) s
  obtain ⟨texts, htrace, -⟩ := h.asked
  refine ⟨⟨h.entities.trans hs.entities, h.sharedCounters.trans hs.sharedCounters⟩, _, htrace,
    fun act hact => ?_⟩
  obtain ⟨text, -, rfl⟩ := List.mem_map.1 hact
  trivial

end Call

/-- The options of a call with the level of the window, if one is open. -/
def Outbox.effective (o : Outbox E) (options : Options) : Options :=
  match o.batchLevel with
  | none => options
  | some level => options.withLevel level

theorem Manager.IsCall.options_eq {T : EntityType E} {options : Options} {s : Site σ E}
    {c : Call E} (h : IsCall T options s c) : c.options = s.outbox.effective options := by
  have hwindow := h.applyWindow_eq
  unfold Levels.applyWindow at hwindow
  unfold Outbox.effective
  cases hlevel : s.outbox.batchLevel with
  | none =>
    rw [hlevel] at hwindow
    exact (Except.ok.inj hwindow).symm
  | some level =>
    rw [hlevel] at hwindow
    dsimp only at hwindow
    split at hwindow
    · cases hwindow
    · exact (Except.ok.inj hwindow).symm

namespace EntityCall

/-- The level that the writes of a call carry. -/
def WritesAt (s : Site σ E) (em : EntityMeta) : EntityCall E → BatchKind → Request → Prop
  | write _ options => s.registry.WritesAt em (s.outbox.effective options)
  | _ => fun _ _ => False

/-- The level that the reads of a call carry. What is missing on a proxy is read with the options
recorded on it. -/
def ReadsAt (s : Site σ E) (em : EntityMeta) : EntityCall E → Request → Prop
  | find _ options | refresh _ options => fun r =>
    r.level = Levels.read (s.outbox.effective options) em
  | complete p => fun r => ∃ cell, s.workspace.cell? p.handle = some cell ∧
    s.registry.ReadsAt em cell.options r
  | _ => fun _ => False

variable [Session σ]

/-- Whatever a call on entities of a class hands over or executes carries the level for it. -/
theorem emits_levels (call : EntityCall E) {T : EntityType E} {em : EntityMeta} (start : Site σ E)
    (hem : start.types.lookup T.typeName = some em) :
    Emits (SameTables start) (Act.Carries (call.WritesAt start em) (call.ReadsAt start em))
      start (call.runIn T start).2 := by
  have hI : ∀ s t : Site σ E, SameStore s t → SameTables start s → SameTables start t :=
    fun _ _ h hs => hs.of_sameStore h
  refine upholds_runIn (upholds_emits hI allowsQuiet_carries) (emits_immediately hI) ?_
  have meta_eq {options : Options} {s : Site σ E} {c : Call E} (hs : s.types = start.types)
      (hc : Manager.IsCall T options s c) : em = c.entityMeta :=
    Option.some.inj (hem.symm.trans (hs ▸ hc.lookup_eq))
  have writes {w : Write E} {options : Options} {c : Call E}
      (hc : Manager.IsCall T options start c) (kind : BatchKind) (r : Request)
      (hr : start.registry.WritesAt c.entityMeta c.options kind r) :
      (write w options).WritesAt start c.entityMeta kind r := by
    rw [hc.options_eq] at hr
    exact hr
  have reads {options : Options} {c : Call E} (hc : Manager.IsCall T options start c) (r : Request)
      (hr : r.level = Levels.read c.options c.entityMeta) :
      r.level = Levels.read (start.outbox.effective options) c.entityMeta := by
    rw [hr, hc.options_eq]
  cases call with
  | write w options =>
    cases w with
    | update p =>
      intro c hc
      obtain rfl := meta_eq rfl hc
      exact ⟨trivial, c.writesOn_carries start (writes hc), c.updatesOn_carries start p (writes hc),
        c.emits_bindUpdate_carries start⟩
    | _ =>
      intro c hc
      obtain rfl := meta_eq rfl hc
      exact c.writesOn_carries start (writes hc)
  | find key options =>
    intro c hc
    obtain rfl := meta_eq rfl hc
    exact c.rowsOn_carries start (reads hc)
  | getProxy key options => trivial
  | refresh p options =>
    intro c hc
    obtain rfl := meta_eq rfl hc
    exact c.rowsOn_carries start (reads hc)
  | complete p =>
    intro c cell hcell hc
    obtain rfl := meta_eq (s := Manager.atOnce start) rfl hc
    refine c.fieldsOn_carries start fun r hr => ⟨cell, hcell, ?_⟩
    rw [hc.options_eq] at hr
    exact hr

end EntityCall

end WideColumn
