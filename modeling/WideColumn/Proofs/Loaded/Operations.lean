import WideColumn.Proofs.Event.Loading
import WideColumn.Proofs.Loaded.Answers
import WideColumn.Proofs.Rejection.Operations

/-!
# What operations make of the loaded attributes

Which attributes of an entity count as loaded is changed by few steps, each of which follows the
answer to a read. Everything else keeps them (`KeepsLoaded`).
-/

namespace WideColumn

open Op

variable {σ E α : Type} [Session σ] {types : List (String × EntityMeta)}

/-! ### Steps that load nothing -/

/-- The entities in play stay, and what counts as loaded of them. The registry stays sound, and the
trace accounts for what was asked of the session. -/
structure KeepsLoaded (types : List (String × EntityMeta)) (s t : Site σ E) : Prop where
  faithful : Faithful s t
  types_eq : t.types = s.types
  sound : s.registry.Sound types → t.registry.Sound types
  loaded {h : Handle} {c : Cell E} : s.workspace.cell? h = some c →
    ∃ c', t.workspace.cell? h = some c' ∧ c'.loaded = c.loaded

namespace KeepsLoaded

theorem of_workspace {s t : Site σ E} (hfaithful : Faithful s t) (htypes : t.types = s.types)
    (hregistry : t.registry = s.registry) (hworkspace : t.workspace = s.workspace) :
    KeepsLoaded types s t :=
  ⟨hfaithful, htypes, fun hs => hregistry ▸ hs, fun hc => ⟨_, hworkspace ▸ hc, rfl⟩⟩

theorem refl (s : Site σ E) : KeepsLoaded types s s :=
  .of_workspace (composes_faithful.refl s) rfl rfl rfl

theorem trans {s t u : Site σ E} (hst : KeepsLoaded types s t) (htu : KeepsLoaded types t u) :
    KeepsLoaded types s u where
  faithful := composes_faithful.trans hst.faithful htu.faithful
  types_eq := htu.types_eq.trans hst.types_eq
  sound hs := htu.sound (hst.sound hs)
  loaded hc := by
    obtain ⟨c', hc', hloaded⟩ := hst.loaded hc
    obtain ⟨c'', hc'', hloaded'⟩ := htu.loaded hc'
    exact ⟨c'', hc'', hloaded'.trans hloaded⟩

/-- The outbox does not matter. -/
theorem outbox {s t : Site σ E} {before : Outbox E}
    (h : KeepsLoaded types { s with outbox := before } t) (after : Outbox E) :
    KeepsLoaded types s { t with outbox := after } :=
  ⟨h.faithful, h.types_eq, h.sound, h.loaded⟩

end KeepsLoaded

theorem composes_keepsLoaded : Composes (KeepsLoaded (σ := σ) (E := E) types) :=
  ⟨KeepsLoaded.refl, KeepsLoaded.trans⟩

/-- A change of one cell that keeps what counts as loaded. -/
theorem keepsLoaded_modifyCell {h : Handle} {f : Cell E → Cell E}
    (hf : ∀ c, (f c).loaded = c.loaded) : Keeps (KeepsLoaded (σ := σ) types) (modifyCell h f) := by
  intro s
  rw [modifyCell_apply]
  refine ⟨⟨[], by simp, rfl⟩, rfl, id, fun {other c} hc => ?_⟩
  by_cases hother : h = other
  · subst hother
    exact ⟨f c, Workspace.cell?_modify_self hc f, hf c⟩
  · refine ⟨c, ?_, rfl⟩
    rw [Workspace.cell?_modify, if_neg hother]
    exact hc

/-- A change of a cell that was not there before. -/
theorem KeepsLoaded.modify_new {s t : Site σ E} (hst : KeepsLoaded types s t) {h : Handle}
    (hnew : s.workspace.cell? h = none) (f : Cell E → Cell E) :
    KeepsLoaded types s (modifyCell h f t).2 := by
  rw [modifyCell_apply]
  refine ⟨hst.faithful, hst.types_eq, hst.sound, fun {other c} hc => ?_⟩
  obtain ⟨c', hc', hloaded⟩ := hst.loaded hc
  have hother : ¬ h = other := by
    rintro rfl
    rw [hnew] at hc
    cases hc
  refine ⟨c', ?_, hloaded⟩
  rw [Workspace.cell?_modify, if_neg hother]
  exact hc'

omit [Session σ] in
theorem Workspace.cell?_fresh (w : Workspace E) : w.cell? w.fresh = none := by
  simp [Workspace.cell?, Workspace.fresh]

theorem keepsLoaded_addEntity (entity : E) :
    Keeps (KeepsLoaded (σ := σ) types) (addEntity entity) := by
  intro s
  rw [addEntity_apply]
  refine ⟨⟨[], by simp, rfl⟩, rfl, id, fun {h c} hc => ⟨c, ?_, rfl⟩⟩
  rw [Workspace.cell?_add_of_lt _ _ _ (Workspace.lt_of_cell? hc)]
  exact hc

theorem keepsLoaded_fire (T : EntityType E) (h : Handle) (event : Event) :
    Keeps (KeepsLoaded (σ := σ) types) (fire T h event) := by
  intro s
  cases hcell : s.workspace.cell? h with
  | none =>
    rw [fire_of_no_cell T event hcell]
    exact .refl s
  | some cell =>
    have hkeeps : Keeps (KeepsLoaded (σ := σ) types) (modifyCell h fun c =>
        { c with entity := (T.intercept cell.entity event).2.1 }) :=
      keepsLoaded_modifyCell fun _ => rfl
    have hmodify := hkeeps s
    rw [modifyCell_apply] at hmodify
    rw [fire_apply T event hcell]
    exact ⟨⟨_, rfl, (replay_intercepted _ _ _).symm⟩, rfl, id, hmodify.loaded⟩

theorem keepsLoaded_trigger (T : EntityType E) (h : Handle) (event : Event) :
    Keeps (KeepsLoaded (σ := σ) types) (trigger T h event) := by
  intro s
  rcases trigger_cases T h event s with ⟨-, hrun⟩ | hrun | ⟨-, hrun⟩ <;> rw [hrun]
  · exact .refl s
  · exact keepsLoaded_fire T h event s
  · exact .of_workspace (composes_faithful.refl s) rfl rfl rfl

theorem keepsLoaded_executeRequest (r : Request) :
    Keeps (KeepsLoaded (σ := σ) (E := E) types) (executeRequest r) := by
  intro s
  rw [executeRequest_apply]
  exact .of_workspace ⟨[.logged (.sent r), .executed r.statement], rfl, rfl⟩ rfl rfl rfl

theorem keepsLoaded_handOver (kind : BatchKind) (r : Request) :
    Keeps (KeepsLoaded (σ := σ) (E := E) types) (handOver kind r) := by
  intro s
  have hfaithful := faithful_handOver (E := E) kind r s
  rcases handOver_cases kind r s with ⟨-, hrun⟩ | ⟨-, hrun⟩ <;> rw [hrun] at hfaithful ⊢
  · exact .of_workspace hfaithful rfl rfl rfl
  · exact .of_workspace hfaithful rfl rfl rfl

theorem keepsLoaded_bindUpdate [LawfulSession σ] {name : String} {em : EntityMeta}
    (hmem : (name, em) ∈ types) (T : EntityType E) (entity : E) (properties : List PropertyMeta)
    (options : Options) (level : Level) : Keeps (KeepsLoaded (σ := σ) types)
      (Op.bindUpdate T em entity properties options level) := by
  intro s
  have hprepares := prepares_bindUpdate T em entity properties options level s
  obtain ⟨texts, htrace, hsession⟩ := hprepares.asked
  refine ⟨⟨_, htrace, ?_⟩, hprepares.types,
    keepsSound_bindUpdate hmem T entity properties options level s, fun hc => ?_⟩
  · rw [hsession, replay_prepared]
  · rw [hprepares.workspace]
    exact ⟨_, hc, rfl⟩

namespace Call

variable {c : Call E}

/-- An update loads nothing. -/
theorem keepsLoaded_update [LawfulSession σ] {name : String}
    (hmem : (name, c.entityMeta) ∈ types) (p : Proxy) :
    Keeps (KeepsLoaded (σ := σ) types) (c.update p) := by
  have hR : Composes (KeepsLoaded (σ := σ) (E := E) types) := composes_keepsLoaded
  have hdirty : Keeps (KeepsLoaded (σ := σ) types) (c.writeDirty p) := by
    refine hR.cell_bind fun cell => ?_
    dsimp only
    split
    · exact hR.bind (keepsLoaded_bindUpdate hmem _ _ _ _ _) fun _ =>
        hR.bind (keepsLoaded_handOver .logged _) fun _ => keepsLoaded_modifyCell fun _ => rfl
    · exact hR.pure _
  have hcounters (h : Handle) (key : List Value) :
      Keeps (KeepsLoaded (σ := σ) types) (c.writeCounters h key) := by
    refine hR.cell_bind fun _ => hR.bind (keepsLoaded_modifyCell fun _ => rfl) fun _ =>
      hR.forM fun _ _ => hR.forM fun _ _ => keeps_get_bind fun _ => hR.lift_bind fun _ _ => ?_
    exact hR.bind (keepsLoaded_handOver .counter _) fun _ => hR.pure _
  exact hR.bind (keepsLoaded_trigger _ _ _) fun _ => hR.bind hdirty fun _ =>
    hR.bind (hcounters _ _) fun _ => hR.bind (keepsLoaded_trigger _ _ _) fun _ =>
      keepsLoaded_modifyCell fun _ => rfl

theorem keepsLoaded_received (rows : List Row) :
    Keeps (KeepsLoaded (σ := σ) types) (c.received rows) := by
  have hR : Composes (KeepsLoaded (σ := σ) (E := E) types) := composes_keepsLoaded
  unfold received
  split
  · exact hR.pure _
  · exact hR.lift_bind fun _ _ => hR.bind (keepsLoaded_addEntity _) fun _ =>
      hR.bind (keepsLoaded_trigger _ _ _) fun _ => hR.pure _

/-- A load leaves the other entities alone. -/
theorem keepsLoaded_load (key : List Value) :
    Keeps (KeepsLoaded (σ := σ) types) (c.load key) := by
  have hR : Composes (KeepsLoaded (σ := σ) (E := E) types) := composes_keepsLoaded
  intro s
  rw [load_apply]
  exact hR.lift_bind (fun request _ => hR.bind (keepsLoaded_executeRequest request)
    keepsLoaded_received) s

/-! ### Reads of rows -/

/-- The row of a key was read on the way to a site. -/
def ReadsRow (types : List (String × EntityMeta)) (c : Call E) (key : List Value)
    (s t : Site σ E) : Prop :=
  ∃ a ∈ answersTo s t, a.rows ≠ [] ∧
    a.statement.Asks types c.type c.entityMeta (c.entityMeta.rowRead key)

/-- What is done after a row was read. -/
theorem ReadsRow.trans {key : List Value} {s t u : Site σ E} (h : c.ReadsRow types key s t)
    (hst : Faithful s t) (htu : Faithful t u) : c.ReadsRow types key s u := by
  obtain ⟨a, ha, hreads⟩ := h
  exact ⟨a, by simp [hst.answersTo_trans htu, ha], hreads⟩

/-- Every attribute that a row fills in was read with it. -/
theorem ReadsRow.reads {key : List Value} {s t : Site σ E} (h : c.ReadsRow types key s t) :
    ∀ name ∈ c.entityMeta.eagerlyLoaded, ∃ a ∈ answersTo s t,
      a.Reads types c.type c.entityMeta key name := by
  obtain ⟨a, ha, hrows, hasks⟩ := h
  exact fun name hname => ⟨a, ha, .row hname hrows hasks⟩

/-- A load that finds something read the row of the key. -/
theorem readsRow_load {key : List Value} {h : Handle} {s t : Site σ E}
    (hs : s.registry.Sound types) (hrun : c.load key s = (.ok (some h), t)) :
    c.ReadsRow types key s t := by
  rw [load_apply] at hrun
  obtain ⟨request, s₁, hrequest, hread⟩ := bind_eq_ok hrun
  obtain ⟨hrequest, rfl⟩ := lift_eq_ok hrequest
  obtain ⟨rows, s₂, hexecute, hreceived⟩ := bind_eq_ok hread
  have hfirst : KeepsLoaded types s₁ _ := keepsLoaded_executeRequest request s₁
  have hrest : KeepsLoaded types s₂ _ := c.keepsLoaded_received rows s₂
  rw [hexecute] at hfirst
  rw [hreceived] at hrest
  have hreads : c.ReadsRow types key s₁ s₂ := by
    refine ⟨⟨request.statement, rows⟩, ?_, ?_, asks_of_readRequest hs hrequest⟩
    · rw [answersTo_executeRequest hexecute]
      exact List.mem_singleton_self _
    · rintro rfl
      cases hreceived
  exact hreads.trans hfirst.faithful hrest.faithful

/-- A proxy that is found has the attributes that the row fills in. -/
theorem find_eq_ok {key : List Value} {p : Proxy} {s t : Site σ E} (hs : s.registry.Sound types)
    (hrun : c.find key s = (.ok (some p), t)) :
    p.entityMeta = c.entityMeta ∧ p.key = key ∧ KeepsLoaded types s t ∧
      c.ReadsRow types key s t ∧ ∃ cell, t.workspace.cell? p.handle = some cell ∧
        cell.loaded = c.entityMeta.eagerlyLoaded := by
  obtain ⟨found, s₁, hload, hfound⟩ := bind_eq_ok hrun
  cases found with
  | none => cases hfound
  | some h =>
    have hkeeps : KeepsLoaded types s _ := c.keepsLoaded_load key s
    rw [hload] at hkeeps
    obtain ⟨hfresh, _, _, _, hloads⟩ := loads_load hload
    obtain ⟨cell, hcell, -⟩ := Option.map_eq_some_iff.1 hloads.handed
    obtain ⟨p', s₂, hmanage, hlast⟩ := bind_eq_ok hfound
    obtain ⟨hp, rfl⟩ := Prod.mk.inj hlast
    obtain rfl := Option.some.inj (Except.ok.inj hp)
    obtain ⟨hp', rfl⟩ := Prod.mk.inj hmanage
    rw [← Except.ok.inj hp']
    have hnew : s.workspace.cell? h = none := by
      rw [hfresh]
      exact s.workspace.cell?_fresh
    exact ⟨rfl, rfl, hkeeps.modify_new hnew _, (readsRow_load hs hload).trans hkeeps.faithful
      (composes_faithful.refl _), _, Workspace.cell?_modify_self hcell _, rfl⟩

/-- A proxy of a key has its key only. -/
theorem proxyOfKey_eq_ok (types : List (String × EntityMeta)) {key : List Value} {p : Proxy}
    {s t : Site σ E} (hrun : c.proxyOfKey key s = (.ok p, t)) :
    p.entityMeta = c.entityMeta ∧ p.key = key ∧ KeepsLoaded types s t ∧
      ∃ cell, t.workspace.cell? p.handle = some cell ∧ cell.loaded = [c.entityMeta.id.name] := by
  obtain ⟨_, s₁, hencode, hentity⟩ := bind_eq_ok hrun
  obtain ⟨-, rfl⟩ := lift_eq_ok hencode
  obtain ⟨entity, s₂, hofKey, hadd⟩ := bind_eq_ok hentity
  obtain ⟨-, rfl⟩ := lift_eq_ok hofKey
  rw [bind_of_ok (addEntity_apply _ _)] at hadd
  obtain ⟨hp, rfl⟩ := Prod.mk.inj hadd
  rw [← Except.ok.inj hp]
  have hkeeps : KeepsLoaded types s₂ _ := keepsLoaded_addEntity entity s₂
  rw [addEntity_apply] at hkeeps
  exact ⟨rfl, rfl, hkeeps.modify_new s₂.workspace.cell?_fresh _, _,
    Workspace.cell?_modify_self (Workspace.cell?_add_self _ entity) _, rfl⟩

/-- A proxy that is read again has the attributes that the row fills in; if there is no row, or an
error, it keeps what it has. -/
theorem refresh_cases {p : Proxy} {s : Site σ E} {cell : Cell E} (hs : s.registry.Sound types)
    (hcell : s.workspace.cell? p.handle = some cell) :
    ((c.refresh p s).1 = .ok .refreshed ∧ c.ReadsRow types p.key s (c.refresh p s).2 ∧
        (c.refresh p s).2.types = s.types ∧
        ((c.refresh p s).2.registry.Sound types) ∧
        ∃ cell', (c.refresh p s).2.workspace.cell? p.handle = some cell' ∧
          cell'.loaded = c.entityMeta.eagerlyLoaded) ∨
      (c.refresh p s).1 ≠ .ok .refreshed ∧ KeepsLoaded types s (c.refresh p s).2 := by
  have hkeeps : KeepsLoaded types s _ := c.keepsLoaded_load p.key s
  unfold refresh
  rcases hload : c.load p.key s with ⟨e | _ | h, t⟩ <;> rw [hload] at hkeeps
  · rw [bind_of_error hload]
    exact .inr ⟨nofun, hkeeps⟩
  · rw [bind_of_ok hload]
    exact .inr ⟨nofun, hkeeps⟩
  · rw [bind_of_ok hload]
    obtain ⟨-, _, _, _, hloads⟩ := loads_load hload
    obtain ⟨found, hfound, -⟩ := Option.map_eq_some_iff.1 hloads.handed
    obtain ⟨cell', hcell', -⟩ := hkeeps.loaded hcell
    have hread : Op.cell h t = (.ok found, t) := by rw [cell_apply, hfound]
    dsimp only
    rw [bind_of_ok hread]
    exact .inl ⟨rfl, (readsRow_load hs hload).trans hkeeps.faithful (composes_faithful.refl _),
      hkeeps.types_eq, hkeeps.sound hs, _, Workspace.cell?_modify_self hcell' _, rfl⟩

end Call

/-! ### Reads on demand -/

/-- What counts as loaded of the entity of a proxy only grows, by what is fetched. -/
structure Fills (types : List (String × EntityMeta)) (c : Call E) (p : Proxy) (s t : Site σ E) :
    Prop where
  faithful : Faithful s t
  types_eq : t.types = s.types
  sound : s.registry.Sound types → t.registry.Sound types
  grows {cell : Cell E} : s.workspace.cell? p.handle = some cell →
    ∃ cell', t.workspace.cell? p.handle = some cell' ∧ ∀ name ∈ cell.loaded, name ∈ cell'.loaded
  fetched {cell cell' : Cell E} : s.registry.Sound types →
    s.workspace.cell? p.handle = some cell → t.workspace.cell? p.handle = some cell' →
    ∀ name ∈ cell'.loaded, name ∈ cell.loaded ∨
      ∃ a ∈ answersTo s t, a.Fetches types c.type c.entityMeta p.key name

namespace Fills

variable {c : Call E} {p : Proxy} {s t u : Site σ E}

theorem of_keeps (h : KeepsLoaded types s t) : Fills types c p s t where
  faithful := h.faithful
  types_eq := h.types_eq
  sound := h.sound
  grows hcell := by
    obtain ⟨cell', hcell', hloaded⟩ := h.loaded hcell
    exact ⟨cell', hcell', fun name hname => hloaded ▸ hname⟩
  fetched _ hcell hcell' name hname := by
    obtain ⟨found, hfound, hloaded⟩ := h.loaded hcell
    obtain rfl := Option.some.inj (hcell'.symm.trans hfound)
    exact .inl (hloaded ▸ hname)

theorem trans (hst : Fills types c p s t) (htu : Fills types c p t u) : Fills types c p s u where
  faithful := composes_faithful.trans hst.faithful htu.faithful
  types_eq := htu.types_eq.trans hst.types_eq
  sound hs := htu.sound (hst.sound hs)
  grows hcell := by
    obtain ⟨cell', hcell', hkept⟩ := hst.grows hcell
    obtain ⟨cell'', hcell'', hkept'⟩ := htu.grows hcell'
    exact ⟨cell'', hcell'', fun name hname => hkept' name (hkept name hname)⟩
  fetched hs hcell hcell'' name hname := by
    have hanswers := hst.faithful.answersTo_trans htu.faithful
    obtain ⟨cell', hcell', -⟩ := hst.grows hcell
    rcases htu.fetched (hst.sound hs) hcell' hcell'' name hname with hname | ⟨a, ha, hfetches⟩
    · rcases hst.fetched hs hcell hcell' name hname with hname | ⟨a, ha, hfetches⟩
      · exact .inl hname
      · exact .inr ⟨a, by simp [hanswers, ha], hfetches⟩
    · exact .inr ⟨a, by simp [hanswers, ha], hfetches⟩

/-- The outbox does not matter. -/
theorem outbox {before : Outbox E} (h : Fills types c p { s with outbox := before } t)
    (after : Outbox E) : Fills types c p s { t with outbox := after } :=
  ⟨h.faithful, h.types_eq, h.sound, h.grows, h.fetched⟩

/-- A name is recorded after its attribute was fetched. -/
theorem mark {name : String} (h : KeepsLoaded types s t)
    (hfetched : s.registry.Sound types →
      ∃ a ∈ answersTo s t, a.Fetches types c.type c.entityMeta p.key name) :
    Fills types c p s (Call.markLoaded p name t).2 := by
  unfold Call.markLoaded
  rw [modifyCell_apply]
  refine ⟨h.faithful, h.types_eq, h.sound, fun hcell => ?_, fun hs hcell hcell'' other hother => ?_⟩
  · obtain ⟨cell', hcell', hloaded⟩ := h.loaded hcell
    refine ⟨_, Workspace.cell?_modify_self hcell' _, fun other hother => ?_⟩
    exact mem_addName.2 (.inr (hloaded ▸ hother))
  · obtain ⟨cell', hcell', hloaded⟩ := h.loaded hcell
    rw [Workspace.cell?_modify_self hcell'] at hcell''
    obtain rfl := Option.some.inj hcell''
    rcases mem_addName.1 hother with rfl | hother
    · exact .inr (hfetched hs)
    · exact .inl (hloaded ▸ hother)

end Fills

/-- The attribute of a name counts as loaded. -/
def Proxy.HasLoaded (p : Proxy) (s : Site σ E) (name : String) : Prop :=
  s.workspace.isLoaded p.handle name = true

omit [Session σ] in
theorem Proxy.hasLoaded_iff {p : Proxy} {s : Site σ E} {name : String} :
    p.HasLoaded s name ↔ ∃ cell, s.workspace.cell? p.handle = some cell ∧ name ∈ cell.loaded := by
  simp [HasLoaded, Workspace.isLoaded, Option.any_eq_true]

/-- How a run ends that should fetch the given properties: they count as loaded, or it failed at one
that does not, after it was through with those before. -/
structure Completes (types : List (String × EntityMeta)) (c : Call E) (p : Proxy)
    (properties : List PropertyMeta) (s : Site σ E) (run : Except Stop Unit × Site σ E) : Prop where
  fills : Fills types c p s run.2
  all : run.1 = .ok () → ∀ pm ∈ properties, p.HasLoaded run.2 pm.name
  failed {e : Stop} : run.1 = .error e → ∃ before pm after, properties = before ++ pm :: after ∧
    (∀ other ∈ before, p.HasLoaded run.2 other.name) ∧ ¬ p.HasLoaded run.2 pm.name

section

variable {c : Call E} {p : Proxy} {pm : PropertyMeta} {s t : Site σ E}

theorem Fills.hasLoaded (h : Fills types c p s t) {name : String} (hname : p.HasLoaded s name) :
    p.HasLoaded t name := by
  obtain ⟨cell, hcell, hmem⟩ := Proxy.hasLoaded_iff.1 hname
  obtain ⟨cell', hcell', hkept⟩ := h.grows hcell
  exact Proxy.hasLoaded_iff.2 ⟨cell', hcell', hkept name hmem⟩

namespace Completes

theorem of_ok {properties : List PropertyMeta} (hfills : Fills types c p s t)
    (hall : ∀ pm ∈ properties, p.HasLoaded t pm.name) :
    Completes types c p properties s (.ok (), t) :=
  ⟨hfills, fun _ => hall, fun h => by cases h⟩

theorem of_error {e : Stop} (hfills : Fills types c p s t) (hpm : ¬ p.HasLoaded t pm.name) :
    Completes types c p [pm] s (.error e, t) where
  fills := hfills
  all h := by cases h
  failed _ := ⟨[], pm, [], rfl, fun _ hother => absurd hother List.not_mem_nil, hpm⟩

/-- The outbox does not matter. -/
theorem outbox {properties : List PropertyMeta} {before : Outbox E} {answer : Except Stop Unit}
    (h : Completes types c p properties { s with outbox := before } (answer, t))
    (after : Outbox E) : Completes types c p properties s (answer, { t with outbox := after }) :=
  ⟨h.fills.outbox after, h.all, h.failed⟩

/-- First some properties, then some more. -/
theorem bind {front back : List PropertyMeta} {x y : Op σ E Unit}
    (hx : Completes types c p front s (x s))
    (hy : ∀ t, x s = (.ok (), t) → Completes types c p back t (y t)) :
    Completes types c p (front ++ back) s ((x >>= fun _ => y) s) := by
  rcases hrun : x s with ⟨e | _, t⟩
  · rw [hrun] at hx
    rw [bind_of_error hrun]
    refine ⟨hx.fills, fun h => (by cases h), fun _ => ?_⟩
    obtain ⟨before, pm, after, rfl, hbefore, hpm⟩ := hx.failed rfl
    exact ⟨before, pm, after ++ back, by simp, hbefore, hpm⟩
  · rw [hrun] at hx
    rw [bind_of_ok hrun]
    have hrest := hy t hrun
    have hfront {pm : PropertyMeta} (hpm : pm ∈ front) : p.HasLoaded (y t).2 pm.name :=
      hrest.fills.hasLoaded (hx.all rfl pm hpm)
    refine ⟨hx.fills.trans hrest.fills, fun hok pm hpm => ?_, fun he => ?_⟩
    · rcases List.mem_append.1 hpm with hpm | hpm
      · exact hfront hpm
      · exact hrest.all hok pm hpm
    · obtain ⟨before, pm, after, rfl, hbefore, hpm⟩ := hrest.failed he
      refine ⟨front ++ before, pm, after, by simp, fun other hother => ?_, hpm⟩
      rcases List.mem_append.1 hother with hother | hother
      · exact hfront hother
      · exact hbefore other hother

end Completes

namespace Call

/-- Read what is asked for, and hand on the rows. -/
def ask (r : Except Error Request) (take : List Row → Op σ E Unit) : Op σ E Unit := do
  let request ← r
  let rows ← Op.executeRequest request
  take rows

/-- Read what is asked for, and record that a property was read. -/
def fetch (p : Proxy) (pm : PropertyMeta) (r : Except Error Request)
    (take : List Row → Op σ E Unit) : Op σ E Unit := do
  ask r take
  markLoaded p pm.name

variable {r : Except Error Request} {take : List Row → Op σ E Unit}
  (htake : ∀ rows, Keeps (KeepsLoaded (σ := σ) types) (take rows))
include htake

theorem keepsLoaded_ask : Keeps (KeepsLoaded (σ := σ) types) (ask r take) := by
  have hR : Composes (KeepsLoaded (σ := σ) (E := E) types) := composes_keepsLoaded
  exact hR.lift_bind fun _ _ => hR.bind (keepsLoaded_executeRequest _) htake

/-- What is asked for is answered. -/
theorem answersTo_ask (hrun : ask r take s = (.ok (), t)) :
    ∃ request rows, r = .ok request ∧ ⟨request.statement, rows⟩ ∈ answersTo s t := by
  obtain ⟨request, s₁, hlift, hread⟩ := bind_eq_ok hrun
  obtain ⟨hrequest, rfl⟩ := lift_eq_ok hlift
  obtain ⟨rows, s₂, hexecute, hrest⟩ := bind_eq_ok hread
  have hfirst : KeepsLoaded types s₁ _ := keepsLoaded_executeRequest request s₁
  have hlast := htake rows s₂
  rw [hexecute] at hfirst
  rw [hrest] at hlast
  refine ⟨request, rows, hrequest, ?_⟩
  rw [hfirst.faithful.answersTo_trans hlast.faithful, answersTo_executeRequest hexecute]
  exact List.mem_cons_self

/-- A property that is not loaded is loaded afterwards if the read succeeds, else it is not. -/
theorem completes_fetch (hunloaded : ¬ p.HasLoaded s pm.name)
    (hfetches : s.registry.Sound types → ∀ request rows, r = .ok request →
      (Answer.mk request.statement rows).Fetches types c.type c.entityMeta p.key pm.name)
    {cell : Cell E} (hcell : s.workspace.cell? p.handle = some cell) :
    Completes types c p [pm] s (fetch p pm r take s) := by
  have hkeeps := keepsLoaded_ask (r := r) htake s
  obtain ⟨cell', hcell', hloaded⟩ := hkeeps.loaded hcell
  unfold fetch
  rcases hrun : ask r take s with ⟨e | _, t⟩
  · rw [hrun] at hkeeps hcell'
    rw [bind_of_error hrun]
    refine .of_error (.of_keeps hkeeps) fun h => hunloaded ?_
    obtain ⟨found, hfound, hmem⟩ := Proxy.hasLoaded_iff.1 h
    obtain rfl := Option.some.inj (hcell'.symm.trans hfound)
    exact Proxy.hasLoaded_iff.2 ⟨cell, hcell, hloaded ▸ hmem⟩
  · rw [hrun] at hkeeps hcell'
    rw [bind_of_ok hrun]
    refine .of_ok (.mark hkeeps fun hs => ?_) fun other hother => ?_
    · obtain ⟨request, rows, hrequest, ha⟩ := answersTo_ask htake hrun
      exact ⟨_, ha, hfetches hs request rows hrequest⟩
    · obtain rfl := List.mem_singleton.1 hother
      exact Proxy.hasLoaded_iff.2
        ⟨_, Workspace.cell?_modify_self hcell' _, mem_addName.2 (.inl rfl)⟩

end Call

end

namespace Call

variable {c : Call E} {p : Proxy} {pm : PropertyMeta}

/-- What reading a property makes of the rows it receives. -/
def takeValue (c : Call E) (p : Proxy) (pm : PropertyMeta) (rows : List Row) : Op σ E Unit := do
  let value ← pm.decode ((firstValue rows pm.name).getD .null)
  let cell ← Op.cell p.handle
  let entity ← c.type.write cell.entity pm.name value
  Op.modifyCell p.handle fun cell => { cell with entity }

/-- What reading a counter makes of the rows it receives. -/
def takeCounter (c : Call E) (p : Proxy) (pm : PropertyMeta) (rows : List Row) : Op σ E Unit := do
  let column := if c.entityMeta.isClusteredCounter then pm.name else Template.counterValue
  let value := (firstValue rows column >>= Value.int?).map Int64.toInt
  Op.modifyCell p.handle fun cell =>
    { cell with entity := setCounterLoaded c.type pm.name value cell.entity }

theorem readProperty_apply (s : Site σ E) : c.readProperty p pm s =
    fetch p pm (s.registry.bindSelectField c.entityMeta pm p.key
      (Levels.readProperty c.options pm c.entityMeta)) (c.takeValue p pm) s := by
  unfold readProperty fetch ask takeValue
  rw [get_bind_apply]
  simp only [bind_assoc]

theorem readCounter_eq_fetch (s : Site σ E) : c.readCounter p pm s =
    fetch p pm (c.readCounterRequest s.registry pm p.key) (c.takeCounter p pm) s := by
  rw [readCounter_apply]
  unfold fetch ask receivedCounter takeCounter
  simp only [bind_assoc]

theorem keepsLoaded_takeValue (rows : List Row) :
    Keeps (KeepsLoaded (σ := σ) types) (c.takeValue p pm rows) := by
  have hR : Composes (KeepsLoaded (σ := σ) (E := E) types) := composes_keepsLoaded
  exact hR.lift_bind fun _ _ => hR.cell_bind fun _ => hR.lift_bind fun _ _ =>
    keepsLoaded_modifyCell fun _ => rfl

theorem keepsLoaded_takeCounter (rows : List Row) :
    Keeps (KeepsLoaded (σ := σ) types) (c.takeCounter p pm rows) :=
  keepsLoaded_modifyCell fun _ => rfl

/-- A step for what is not loaded is a step for one property after the other. -/
theorem completes_forUnloaded {properties : List PropertyMeta} {step : PropertyMeta → Op σ E Unit}
    (hstep : ∀ pm ∈ properties, ∀ (s : Site σ E) cell, s.workspace.cell? p.handle = some cell →
      ¬ p.HasLoaded s pm.name → Completes types c p [pm] s (step pm s)) (s : Site σ E) :
    Completes types c p properties s (forUnloaded p properties step s) := by
  unfold forUnloaded
  induction properties generalizing s with
  | nil => exact .of_ok (.of_keeps (.refl s)) fun _ hpm => absurd hpm List.not_mem_nil
  | cons pm rest ih =>
    rw [forM_cons]
    rw [← List.singleton_append]
    refine .bind ?_ fun t _ =>
      ih (fun other hother => hstep other (List.mem_cons_of_mem _ hother)) t
    cases hcell : s.workspace.cell? p.handle with
    | none =>
      rw [bind_of_error (by rw [cell_apply, hcell])]
      refine .of_error (.of_keeps (.refl s)) fun h => ?_
      obtain ⟨found, hfound, -⟩ := Proxy.hasLoaded_iff.1 h
      rw [hcell] at hfound
      cases hfound
    | some cell =>
      rw [bind_of_ok (by rw [cell_apply, hcell])]
      by_cases hloaded : pm.name ∈ cell.loaded
      · simp only [hloaded, List.contains_eq_mem]
        refine .of_ok (.of_keeps (.refl s)) fun other hother => ?_
        obtain rfl := List.mem_singleton.1 hother
        exact Proxy.hasLoaded_iff.2 ⟨cell, hcell, hloaded⟩
      · simp only [hloaded, List.contains_eq_mem]
        refine hstep pm List.mem_cons_self s cell hcell fun h => hloaded ?_
        obtain ⟨found, hfound, hmem⟩ := Proxy.hasLoaded_iff.1 h
        obtain rfl := Option.some.inj (hcell.symm.trans hfound)
        exact hmem

/-- What is missing on a proxy is fetched, properties first, then counters. -/
theorem completes_complete (s : Site σ E) :
    Completes types c p (c.entityMeta.onDemand ++ c.entityMeta.counters) s (c.complete p s) := by
  refine Completes.bind (completes_forUnloaded (fun pm hpm s cell hcell hunloaded => ?_) s)
    fun t _ => completes_forUnloaded (fun pm hpm s cell hcell hunloaded => ?_) t
  · rw [readProperty_apply]
    exact completes_fetch keepsLoaded_takeValue hunloaded
      (fun hs request rows hrequest => Answer.fetches_of_bindSelectField hs hpm hrequest rows) hcell
  · rw [readCounter_eq_fetch]
    exact completes_fetch keepsLoaded_takeCounter hunloaded
      (fun hs request rows hrequest => Answer.fetches_of_readCounterRequest hs hpm hrequest rows)
      hcell

end Call

/-! ### Queries -/

/-- A proxy of metadata has the attributes that a row fills in. -/
structure Proxy.OfRow (p : Proxy) (em : EntityMeta) (row : Row) (s : Site σ E) : Prop where
  entityMeta_eq : p.entityMeta = em
  cell : ∃ cell, s.workspace.cell? p.handle = some cell ∧
    cell.loaded = Manager.loadedFromRow em row

theorem Proxy.OfRow.of_keeps {p : Proxy} {em : EntityMeta} {row : Row} {s t : Site σ E}
    (h : p.OfRow em row s) (hkeeps : KeepsLoaded types s t) : p.OfRow em row t := by
  obtain ⟨cell, hcell, hloaded⟩ := h.cell
  obtain ⟨cell', hcell', hloaded'⟩ := hkeeps.loaded hcell
  exact ⟨h.entityMeta_eq, cell', hcell', hloaded'.trans hloaded⟩

namespace Manager

variable (types) {T : EntityType E} {em : EntityMeta} {s t : Site σ E}

theorem proxyOfRow_eq_ok {row : Row} {p : Proxy} (hrun : proxyOfRow T em row s = (.ok p, t)) :
    p.OfRow em row t ∧ KeepsLoaded types s t := by
  have hR : Composes (KeepsLoaded (σ := σ) (E := E) types) := composes_keepsLoaded
  obtain ⟨entity, s₁, hofRow, hadd⟩ := bind_eq_ok hrun
  obtain ⟨-, rfl⟩ := lift_eq_ok hofRow
  have hadds : KeepsLoaded types s₁ _ := keepsLoaded_addEntity entity s₁
  obtain ⟨h, s₂, hadded, htriggers⟩ := bind_eq_ok hadd
  rw [hadded] at hadds
  have htrigger : KeepsLoaded types s₂ _ := keepsLoaded_trigger T h .postLoad s₂
  obtain ⟨_, s₃, htriggered, hrest⟩ := bind_eq_ok htriggers
  rw [htriggered] at htrigger
  obtain ⟨cell, s₄, hcell, hlast⟩ := bind_eq_ok hrest
  obtain ⟨hfound, rfl⟩ := cell_eq_ok hcell
  obtain ⟨hp, rfl⟩ := Prod.mk.inj hlast
  rw [← Except.ok.inj hp]
  rw [addEntity_apply] at hadded
  obtain ⟨hh, -⟩ := Prod.mk.inj hadded
  obtain rfl := Except.ok.inj hh
  exact ⟨⟨rfl, _, Workspace.cell?_modify_self hfound _, rfl⟩,
    (hR.trans hadds htrigger).modify_new s₁.workspace.cell?_fresh _⟩

/-- Each row gives the proxy at its place. -/
theorem proxiesOfRows_eq_ok {rows : List Row} {proxies : List Proxy}
    (hrun : rows.mapM (proxyOfRow T em) s = (.ok proxies, t)) :
    KeepsLoaded types s t ∧ ∀ (i : Nat) p, proxies[i]? = some p →
      ∃ row, rows[i]? = some row ∧ p.OfRow em row t := by
  induction rows generalizing s proxies with
  | nil =>
    rw [List.mapM_nil] at hrun
    obtain ⟨hproxies, rfl⟩ := Prod.mk.inj hrun
    rw [← Except.ok.inj hproxies]
    exact ⟨.refl s, fun i p hp => by cases hp⟩
  | cons row rest ih =>
    rw [List.mapM_cons] at hrun
    obtain ⟨first, s₁, hfirst, hothers⟩ := bind_eq_ok hrun
    obtain ⟨others, s₂, hrest, hlast⟩ := bind_eq_ok hothers
    obtain ⟨hproxies, rfl⟩ := Prod.mk.inj hlast
    rw [← Except.ok.inj hproxies]
    obtain ⟨hofRow, hkeeps⟩ := proxyOfRow_eq_ok types hfirst
    obtain ⟨hkept, hat⟩ := ih hrest
    refine ⟨hkeeps.trans hkept, fun i p hp => ?_⟩
    cases i with
    | zero =>
      obtain rfl := Option.some.inj hp
      exact ⟨row, rfl, hofRow.of_keeps hkept⟩
    | succ i => exact hat i p hp

/-- The proxies that a query hands out are those of the rows that were answered. -/
theorem loadProxies_eq_ok {request : Request} {proxies : List Proxy}
    (hrun : loadProxies T em request s = (.ok proxies, t)) :
    KeepsLoaded types s t ∧ ∀ (i : Nat) p, proxies[i]? = some p →
      ∃ row, ((answersTo s t).flatMap Answer.rows)[i]? = some row ∧ p.OfRow em row t := by
  unfold loadProxies at hrun
  rw [immediately_apply] at hrun
  obtain ⟨hproxies, rfl⟩ := Prod.mk.inj hrun
  obtain ⟨rows, s₁, hexecute, hrows⟩ := bind_eq_ok (Prod.ext hproxies rfl)
  have hfirst : KeepsLoaded types (atOnce s) _ := keepsLoaded_executeRequest request (atOnce s)
  rw [hexecute] at hfirst
  obtain ⟨hkept, hat⟩ := proxiesOfRows_eq_ok types hrows
  have hanswers := hfirst.faithful.answersTo_trans hkept.faithful
  rw [answersTo_executeRequest hexecute] at hanswers
  refine ⟨(hfirst.trans hkept).outbox s.outbox, fun i p hp => ?_⟩
  obtain ⟨row, hrow, hofRow⟩ := hat i p hp
  refine ⟨row, ?_, hofRow.entityMeta_eq, hofRow.cell⟩
  -- the outbox that is put back has no part in the answers
  refine (congrArg (fun answers => (answers.flatMap Answer.rows)[i]?) hanswers).trans ?_
  rw [List.singleton_append, List.flatMap_cons,
    List.getElem?_append_left (List.getElem?_eq_some_iff.1 hrow).1, hrow]

end Manager

end WideColumn
