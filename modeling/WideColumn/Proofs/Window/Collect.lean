import WideColumn.Proofs.Registry.Reachable

/-!
# What a window collects

Inside a window the operations on entities send nothing but reads. What they write is appended to
the outbox, in the order in which it is handed over and at the level of the window (`Collects`).
-/

namespace WideColumn

open Op

/-- The statement is a read. -/
def Statement.IsRead (s : Statement) : Prop := ∃ rest, s.query = "SELECT " ++ rest

/-- The writes of one kind that were handed to the outbox, oldest first. -/
def pushedIn (kind : BatchKind) (acts : List Act) : List Request :=
  acts.filterMap fun
    | .pushed k r => if k = kind then some r else none
    | _ => none

/-- A group of statements as it was sent. -/
structure Group where
  kind : BatchKind
  statements : List Statement
  level : Level

/-- The groups that were sent, oldest first. -/
def groupsIn (acts : List Act) : List Group :=
  acts.filterMap fun
    | .sentBatch kind statements level => some ⟨kind, statements, level⟩
    | _ => none

/-- The statements that were executed on their own, oldest first. -/
def executedIn (acts : List Act) : List Statement :=
  acts.filterMap fun
    | .executed statement => some statement
    | _ => none

theorem mem_pushedIn {kind : BatchKind} {acts : List Act} {r : Request} :
    r ∈ pushedIn kind acts ↔ .pushed kind r ∈ acts := by
  unfold pushedIn
  rw [List.mem_filterMap]
  constructor
  · rintro ⟨act, hact, heq⟩
    cases act with
    | pushed k request =>
      dsimp only at heq
      split at heq
      · next hk =>
        rw [← hk, ← Option.some.inj heq]
        exact hact
      · cases heq
    | _ => cases heq
  · exact fun h => ⟨_, h, by simp⟩

@[simp] theorem pushedIn_append (kind : BatchKind) (acts more : List Act) :
    pushedIn kind (acts ++ more) = pushedIn kind acts ++ pushedIn kind more :=
  List.filterMap_append

@[simp] theorem groupsIn_append (acts more : List Act) :
    groupsIn (acts ++ more) = groupsIn acts ++ groupsIn more := List.filterMap_append

@[simp] theorem executedIn_append (acts more : List Act) :
    executedIn (acts ++ more) = executedIn acts ++ executedIn more := List.filterMap_append

/-- Nothing was written: no group was sent, and what was executed are reads. -/
structure ReadsOnly (acts : List Act) : Prop where
  groups : groupsIn acts = []
  executed : ∀ statement ∈ executedIn acts, statement.IsRead

theorem ReadsOnly.append {acts more : List Act} (h : ReadsOnly acts) (hmore : ReadsOnly more) :
    ReadsOnly (acts ++ more) where
  groups := by rw [groupsIn_append, h.groups, hmore.groups, List.append_nil]
  executed statement hmem := by
    rw [executedIn_append] at hmem
    rcases List.mem_append.1 hmem with hmem | hmem
    · exact h.executed statement hmem
    · exact hmore.executed statement hmem

/-! ### Reads -/

/-- The statements that read whole rows are reads. -/
def Registry.Selects (r : Registry) : Prop :=
  ∀ className statements, (className, statements) ∈ r.entities →
    (∀ p, statements.selectEntity = some p → ∃ rest, p.query = "SELECT " ++ rest) ∧
    ∀ name p, ((.select, name), p) ∈ statements.clusteredCounters →
      ∃ rest, p.query = "SELECT " ++ rest

theorem Template.selectEntity_eq (em : EntityMeta) :
    ∃ rest, Template.selectEntity em = "SELECT " ++ rest := by
  apply Exists.intro
  simp only [Template.selectEntity, toString, String.append_assoc]
  rfl

/-- Every statement that selects from a counter table is a read. -/
theorem Template.clusteredCounters_select {em : EntityMeta} {name text : String}
    (h : ((.select, name), text) ∈ Template.clusteredCounters em) :
    ∃ rest, text = "SELECT " ++ rest := by
  simp only [Template.clusteredCounters, Template.clusteredCounter, List.mem_append,
    List.mem_flatMap, List.mem_cons, List.not_mem_nil, or_false, Prod.mk.injEq,
    reduceCtorEq, false_and, true_and, false_or] at h
  rcases h with ⟨pm, -, -, rfl⟩ | ⟨-, rfl⟩
  · apply Exists.intro
    simp only [toString, String.append_assoc]
    rfl
  · have hstart : "SELECT * FROM " = "SELECT " ++ "* FROM " := by decide
    apply Exists.intro
    rw [hstart]
    simp only [toString, String.append_assoc]
    rfl

/-- A sound registry reads rows with reads. -/
theorem Registry.Sound.selects {r : Registry} {types : List (String × EntityMeta)}
    (h : r.Sound types) : r.Selects := by
  intro className statements hmem
  obtain ⟨_, em, -, -, hcarry⟩ := h.entity hmem
  constructor
  · intro p hp
    rw [hcarry.selectEntity hp]
    exact Template.selectEntity_eq em
  · intro name p hp
    exact Template.clusteredCounters_select (hcarry.clusteredCounter hp)

theorem Registry.mem_entities_of_statements {r : Registry} {em : EntityMeta}
    {statements : EntityStatements} (h : r.statements em = .ok statements) :
    (em.className, statements) ∈ r.entities := by
  unfold Registry.statements at h
  split at h
  · next found hfound =>
    obtain rfl := Except.ok.inj h
    exact mem_of_lookup hfound
  · cases h

theorem Registry.orMissing_eq_ok {em : EntityMeta} {what : String} {found : Option Prepared}
    {p : Prepared} (h : Registry.orMissing em what found = .ok p) : found = some p := by
  cases found with
  | none => cases h
  | some p' => rw [Except.ok.inj h]

theorem Registry.bindKey_eq_ok {em : EntityMeta} {p : Prepared} {key : List Value}
    {level : Level} {request : Request} (h : Registry.bindKey em p key level = .ok request) :
    ∃ encoded, Registry.encodedKey em key = .ok encoded ∧ request = .bound p encoded level := by
  obtain ⟨encoded, hencoded, h⟩ := except_bind_eq_ok h
  exact ⟨encoded, hencoded, (Except.ok.inj h).symm⟩

/-- The request that reads the row of a key is a read. -/
theorem Registry.Selects.isRead {r : Registry} (hr : r.Selects) {E : Type} {c : Call E}
    {key : List Value} {request : Request} (h : c.readRequest r key = .ok request) :
    request.statement.IsRead := by
  unfold Call.readRequest at h
  split at h
  · obtain ⟨p, hp, h⟩ := except_bind_eq_ok h
    obtain ⟨encoded, -, rfl⟩ := Registry.bindKey_eq_ok h
    obtain ⟨statements, hstatements, hp⟩ := except_bind_eq_ok hp
    apply (hr _ _ (Registry.mem_entities_of_statements hstatements)).2 Template.selectAll
    exact mem_of_lookup (Registry.orMissing_eq_ok hp)
  · obtain ⟨statements, hstatements, h⟩ := except_bind_eq_ok h
    obtain ⟨p, hp, h⟩ := except_bind_eq_ok h
    obtain ⟨encoded, -, rfl⟩ := Registry.bindKey_eq_ok h
    apply (hr _ _ (Registry.mem_entities_of_statements hstatements)).1
    exact Registry.orMissing_eq_ok hp

/-! ### Levels -/

namespace Registry

variable {E : Type} {r : Registry} {T : EntityType E} {em : EntityMeta} {level : Level}

theorem level_of_bindInsert {entity : E} {options : Options} {request : Request}
    (h : r.bindInsert T em entity options level = .ok request) : request.level = level := by
  obtain ⟨_, -, h⟩ := except_bind_eq_ok h
  obtain ⟨_, -, h⟩ := except_bind_eq_ok h
  obtain ⟨_, -, h⟩ := except_bind_eq_ok h
  obtain ⟨_, -, h⟩ := except_bind_eq_ok h
  rw [← Except.ok.inj h]
  rfl

theorem level_of_bindRemoval {key : List Value} {options : Options} {requests : List Request}
    (h : r.bindRemoval em key options level = .ok requests) :
    ∀ request ∈ requests, request.level = level := by
  obtain ⟨_, -, h⟩ := except_bind_eq_ok h
  obtain ⟨_, -, h⟩ := except_bind_eq_ok h
  rw [← Except.ok.inj h]
  intro request hmem
  obtain ⟨_, -, rfl⟩ := List.mem_map.1 hmem
  rfl

theorem level_of_bindClustered {action : CounterAction} {name : String} {key : List Value}
    {request : Request} (h : r.bindClustered action name em key level = .ok request) :
    request.level = level := by
  obtain ⟨_, -, h⟩ := except_bind_eq_ok h
  obtain ⟨_, -, rfl⟩ := bindKey_eq_ok h
  rfl

theorem level_of_bindShared {action : CounterAction} {pm : PropertyMeta} {key : List Value}
    {request : Request} (h : r.bindShared action em pm key level = .ok request) :
    request.level = level := by
  obtain ⟨_, -, h⟩ := except_bind_eq_ok h
  obtain ⟨_, -, h⟩ := except_bind_eq_ok h
  rw [← Except.ok.inj h]
  rfl

theorem level_of_bindSharedDelta {pm : PropertyMeta} {key : List Value} {delta : Int}
    {request : Request} (h : r.bindSharedDelta em pm key delta level = .ok request) :
    request.level = level := by
  obtain ⟨_, -, h⟩ := except_bind_eq_ok h
  obtain ⟨_, -, h⟩ := except_bind_eq_ok h
  obtain ⟨_, -, h⟩ := except_bind_eq_ok h
  rw [← Except.ok.inj h]
  rfl

theorem level_of_bindClusteredDelta {pm : PropertyMeta} {key : List Value} {delta : Int}
    {request : Request} (h : r.bindClusteredDelta em pm key delta level = .ok request) :
    request.level = level := by
  obtain ⟨_, -, h⟩ := except_bind_eq_ok h
  obtain ⟨_, -, h⟩ := except_bind_eq_ok h
  obtain ⟨_, -, h⟩ := except_bind_eq_ok h
  rw [← Except.ok.inj h]
  rfl

end Registry

theorem Op.level_of_bindUpdate {σ E : Type} [Session σ] {T : EntityType E} {em : EntityMeta}
    {entity : E} {properties : List PropertyMeta} {options : Options} {level : Level}
    {s t : Site σ E} {request : Request}
    (h : bindUpdate T em entity properties options level s = (.ok request, t)) :
    request.level = level := by
  unfold bindUpdate at h
  rw [get_bind_apply] at h
  obtain ⟨_, _, -, h⟩ := bind_eq_ok h
  obtain ⟨_, _, -, h⟩ := bind_eq_ok h
  obtain ⟨_, _, -, h⟩ := bind_eq_ok h
  obtain ⟨h, -⟩ := Prod.mk.inj h
  rw [← Except.ok.inj h]
  rfl

/-- A call with a level writes everything at that level. -/
theorem Call.writes_at_level {σ E : Type} [Session σ] (c : Call E) {level : Level}
    (h : c.options.level = some level) : c.Writes σ fun _ request => request.level = level := by
  have hwrite : Levels.write c.options c.entityMeta = level := by simp [Levels.write, h]
  have hproperty (pm : PropertyMeta) :
      Levels.writeProperty c.options pm c.entityMeta = level := by
    simp [Levels.writeProperty, h]
  constructor
  case insert =>
    intro _ _ _ hbind
    rw [Registry.level_of_bindInsert hbind, hwrite]
  case update =>
    intro _ _ _ _ _ hbind
    rw [Op.level_of_bindUpdate hbind, hwrite]
  case delta =>
    intro _ pm _ _ _ hbind
    unfold bindDelta at hbind
    dsimp only at hbind
    split at hbind
    · rw [Registry.level_of_bindClusteredDelta hbind, hproperty]
    · rw [Registry.level_of_bindSharedDelta hbind, hproperty]
  case removal =>
    intro _ _ _ hbind request hmem
    rw [Registry.level_of_bindRemoval hbind request hmem, hwrite]
  case removeRow =>
    intro _ _ _ hbind
    rw [Registry.level_of_bindClustered hbind, hwrite]
  case removeCounter =>
    intro _ pm _ _ hbind
    rw [Registry.level_of_bindShared hbind, hproperty]

/-! ### Collecting -/

variable {σ E : Type}

/-- A run that did `acts` inside a window: what was handed over was appended to the outbox, at the
level of the window, and nothing was written. -/
structure CollectsActs (s t : Site σ E) (acts : List Act) : Prop where
  trace : t.trace = s.trace ++ acts
  mode : t.outbox.mode = s.outbox.mode
  level : t.outbox.level = s.outbox.level
  regular : t.outbox.regular = s.outbox.regular ++ pushedIn .logged acts
  counter : t.outbox.counter = s.outbox.counter ++ pushedIn .counter acts
  entities : t.registry.entities = s.registry.entities
  readsOnly : ReadsOnly acts
  pushed : ∀ kind, ∀ r ∈ pushedIn kind acts, r.level = s.outbox.level

/-- Acts that only look. -/
def Quiet (acts : List Act) : Prop :=
  (∀ kind, pushedIn kind acts = []) ∧ groupsIn acts = [] ∧ executedIn acts = []

theorem Quiet.readsOnly {acts : List Act} (h : Quiet acts) : ReadsOnly acts where
  groups := h.2.1
  executed := by
    rw [h.2.2]
    simp

theorem quiet_nil : Quiet [] := ⟨fun _ => rfl, rfl, rfl⟩

theorem quiet_map_prepared (texts : List String) : Quiet (texts.map .prepared) := by
  induction texts with
  | nil => exact quiet_nil
  | cons text texts ih => exact ⟨ih.1, ih.2.1, ih.2.2⟩

theorem quiet_map_intercepted (h : Handle) (notices : List Notice) :
    Quiet (notices.map (.intercepted h)) := by
  induction notices with
  | nil => exact quiet_nil
  | cons notice notices ih => exact ⟨ih.1, ih.2.1, ih.2.2⟩

theorem Quiet.append {acts more : List Act} (h : Quiet acts) (hmore : Quiet more) :
    Quiet (acts ++ more) := by
  refine ⟨fun kind => ?_, ?_, ?_⟩
  · rw [pushedIn_append, h.1, hmore.1, List.append_nil]
  · rw [groupsIn_append, h.2.1, hmore.2.1, List.append_nil]
  · rw [executedIn_append, h.2.2, hmore.2.2, List.append_nil]

namespace CollectsActs

/-- A run that only looked, and left the statements of the outbox alone. -/
theorem of_quiet {s t : Site σ E} {acts : List Act} (hquiet : Quiet acts)
    (htrace : t.trace = s.trace ++ acts) (houtbox : ∃ events, t.outbox = { s.outbox with events })
    (hentities : t.registry.entities = s.registry.entities) : CollectsActs s t acts := by
  obtain ⟨events, heq⟩ := houtbox
  exact {
    trace := htrace
    mode := by rw [heq]
    level := by rw [heq]
    regular := by rw [heq, hquiet.1, List.append_nil]
    counter := by rw [heq, hquiet.1, List.append_nil]
    entities := hentities
    readsOnly := hquiet.readsOnly
    pushed := fun kind r hr => by
      rw [hquiet.1] at hr
      cases hr }

theorem trans {s t u : Site σ E} {acts more : List Act} (hst : CollectsActs s t acts)
    (htu : CollectsActs t u more) : CollectsActs s u (acts ++ more) where
  trace := by rw [htu.trace, hst.trace, List.append_assoc]
  mode := htu.mode.trans hst.mode
  level := htu.level.trans hst.level
  regular := by rw [htu.regular, hst.regular, pushedIn_append, List.append_assoc]
  counter := by rw [htu.counter, hst.counter, pushedIn_append, List.append_assoc]
  entities := htu.entities.trans hst.entities
  readsOnly := hst.readsOnly.append htu.readsOnly
  pushed kind r hr := by
    rw [pushedIn_append] at hr
    rcases List.mem_append.1 hr with hr | hr
    · exact hst.pushed kind r hr
    · rw [htu.pushed kind r hr, hst.level]

end CollectsActs

/-- A run inside a window of the given level, over a registry that reads with reads. -/
def Collects (level : Level) (s t : Site σ E) : Prop :=
  s.outbox.mode = .batching → s.outbox.level = level → s.registry.Selects →
    ∃ acts, CollectsActs s t acts

theorem composes_collects (level : Level) : Composes (Collects (σ := σ) (E := E) level) where
  refl s := fun _ _ _ => ⟨[], .of_quiet quiet_nil (by simp) ⟨_, rfl⟩ rfl⟩
  trans {s t u} hst htu := by
    intro hmode hlevel hselects
    obtain ⟨acts, hacts⟩ := hst hmode hlevel hselects
    have hselects' : Registry.Selects t.registry := by
      unfold Registry.Selects
      rw [hacts.entities]
      exact hselects
    obtain ⟨more, hmore⟩ :=
      htu (hacts.mode.trans hmode) (hacts.level.trans hlevel) hselects'
    exact ⟨acts ++ more, hacts.trans hmore⟩

theorem collects_fire (level : Level) (T : EntityType E) (h : Handle) (event : Event) :
    Keeps (Collects (σ := σ) level) (fire T h event) := by
  intro s _ _ _
  cases hc : s.workspace.cell? h with
  | none =>
    rw [fire_of_no_cell T event hc]
    exact ⟨[], .of_quiet quiet_nil (by simp) ⟨_, rfl⟩ rfl⟩
  | some c =>
    rw [fire_apply T event hc]
    exact ⟨_, .of_quiet (quiet_map_intercepted h _) rfl ⟨_, rfl⟩ rfl⟩

variable [Session σ]

/-- What is handed over at the level of the window is collected. -/
theorem collects_handOver {level : Level} (kind : BatchKind) {r : Request} (hr : r.level = level) :
    Keeps (Collects (σ := σ) (E := E) level) (handOver kind r) := by
  intro s hmode hlevel _
  have hpushed : ∀ k, ∀ request ∈ pushedIn k [.pushed kind r],
      request.level = s.outbox.level := by
    intro k request hmem
    obtain ⟨-, rfl⟩ := Act.pushed.inj (List.mem_singleton.1 (mem_pushedIn.1 hmem))
    rw [hr, hlevel]
  rw [handOver_batching kind r hmode]
  refine ⟨[.pushed kind r], ?_⟩
  cases kind with
  | logged => exact ⟨rfl, rfl, rfl, rfl, (List.append_nil _).symm, rfl, ⟨rfl, nofun⟩, hpushed⟩
  | counter => exact ⟨rfl, rfl, rfl, (List.append_nil _).symm, rfl, rfl, ⟨rfl, nofun⟩, hpushed⟩

/-- Inside a window nothing but reads is sent, and what is written at its level is collected. -/
theorem admits_collects (level : Level) :
    Admits (Collects (σ := σ) (E := E) level) fun _ request => request.level = level where
  toComposes := composes_collects level
  push := collects_handOver .logged
  pushCounter := collects_handOver .counter
  trigger T h event := by
    intro s
    rcases trigger_cases T h event s with ⟨-, hrun⟩ | hrun | ⟨-, hrun⟩ <;> rw [hrun]
    · exact (composes_collects level).refl s
    · exact collects_fire level T h event s
    · intro _ _ _
      exact ⟨[], .of_quiet quiet_nil (by simp [Site.afterDefer]) ⟨_, rfl⟩ rfl⟩
  addEntity entity := by
    intro s _ _ _
    rw [addEntity_apply]
    exact ⟨[], .of_quiet quiet_nil (by simp) ⟨_, rfl⟩ rfl⟩
  modifyCell h f _ := by
    intro s _ _ _
    rw [modifyCell_apply]
    exact ⟨[], .of_quiet quiet_nil (by simp) ⟨_, rfl⟩ rfl⟩

theorem collects_bindUpdate (level : Level) (T : EntityType E) (em : EntityMeta) (entity : E)
    (properties : List PropertyMeta) (options : Options) (l : Level) :
    Keeps (Collects (σ := σ) level) (bindUpdate T em entity properties options l) := by
  intro s _ _ _
  have h := prepares_bindUpdate T em entity properties options l s
  obtain ⟨texts, htrace, -⟩ := h.asked
  exact ⟨_, .of_quiet (quiet_map_prepared texts) htrace ⟨_, h.outbox⟩ h.entities⟩

theorem collects_readRequest (level : Level) (c : Call E) (key : List Value) (s : Site σ E)
    (r : Request) (hr : c.readRequest s.registry key = .ok r) :
    Collects level s (executeRequest r s).2 := by
  intro _ _ hselects
  rw [executeRequest_apply]
  refine ⟨[.logged (.sent r), .executed r.statement], rfl, rfl, rfl, ?_, ?_, rfl, ⟨rfl, ?_⟩, ?_⟩
  · simp [pushedIn]
  · simp [pushedIn]
  · intro statement hmem
    obtain rfl : statement = r.statement := by simpa [executedIn] using hmem
    exact hselects.isRead hr
  · intro kind request hmem
    simp [pushedIn] at hmem

/-! ### Operations of the manager inside a window -/

section

variable (T : EntityType E) (options : Options) {s : Site σ E}
  (hmode : s.outbox.mode = .batching) (hselects : s.registry.Selects)
include hmode hselects

omit [Session σ] hselects in
private theorem level_of_isCall {c : Call E} (hc : Manager.IsCall T options s c) :
    c.options.level = some s.outbox.level := by
  rw [(hc.options_batching hmode).2]
  rfl

theorem collects_persistIn (entity : Tracked E) :
    ∃ acts, CollectsActs s (Manager.persistIn T entity options s).2 acts := by
  refine Manager.persistIn_at (composes_collects s.outbox.level) (fun c e _ hc => ?_)
    hmode rfl hselects
  exact c.keeps_persist (admits_collects _)
    (c.writes_at_level (level_of_isCall T options hmode hc)) e s

theorem collects_updateIn (p : Proxy) :
    ∃ acts, CollectsActs s (Manager.updateIn T p options s).2 acts := by
  refine Manager.call_bind_at (composes_collects s.outbox.level) (fun c hc => ?_)
    hmode rfl hselects
  exact c.keeps_update (admits_collects _)
    (c.writes_at_level (level_of_isCall T options hmode hc))
    (fun _ _ => collects_bindUpdate _ _ _ _ _ _ _) p s

theorem collects_removeIn (entity : Tracked E) :
    ∃ acts, CollectsActs s (Manager.removeIn T entity options s).2 acts := by
  refine Manager.removeIn_at (composes_collects s.outbox.level) (fun c e hc => ?_)
    hmode rfl hselects
  exact c.keeps_remove (admits_collects _)
    (c.writes_at_level (level_of_isCall T options hmode hc)) e s

theorem collects_removeByIdIn (key : List Value) :
    ∃ acts, CollectsActs s (Manager.removeByIdIn T key options s).2 acts := by
  refine Manager.call_bind_at (composes_collects s.outbox.level) (fun c hc => ?_)
    hmode rfl hselects
  exact c.keeps_removeByKey (admits_collects _)
    (c.writes_at_level (level_of_isCall T options hmode hc)) key s

theorem collects_findIn (key : List Value) :
    ∃ acts, CollectsActs s (Manager.findIn T key options s).2 acts := by
  refine Manager.call_bind_at (composes_collects s.outbox.level) (fun c _ => ?_)
    hmode rfl hselects
  exact c.keeps_find (admits_collects _) key (collects_readRequest _ c key) s

theorem collects_getProxyIn (key : List Value) :
    ∃ acts, CollectsActs s (Manager.getProxyIn T key options s).2 acts := by
  refine Manager.call_bind_at (composes_collects s.outbox.level) (fun c _ => ?_)
    hmode rfl hselects
  exact c.keeps_proxyOfKey (admits_collects _) key s

theorem collects_refreshIn (p : Proxy) :
    ∃ acts, CollectsActs s (Manager.refreshIn T p options s).2 acts := by
  refine Manager.call_bind_at (composes_collects s.outbox.level) (fun c _ => ?_)
    hmode rfl hselects
  exact c.keeps_refresh (admits_collects _) p
    (c.keeps_load (admits_collects _) p.key (collects_readRequest _ c p.key)) s

end

end WideColumn
