import WideColumn.Proofs.Event.Calls

/-!
# Events and reads

A read runs the interceptors that follow it at once, whatever the outbox, and hands out the entity
that came through them (`Loads`). So does reading a proxy again, which takes the entity over.
-/

namespace WideColumn

open Op

variable {σ E : Type} [Session σ]

/-- The entity of a handle is that of the first row that a read received, after all interceptors
that follow a read ran on it and none failed. -/
structure Loaded (T : EntityType E) (s t : Site σ E) (h : Handle) (request : Request) (row : Row)
    (entity : E) : Prop where
  received : ∃ rest, (Session.execute s.session request.statement).1 = .ok (row :: rest)
  read : T.ofRow row = .ok entity
  trace : t.trace = s.trace ++ ([.logged (.sent request), .executed request.statement] ++
    (T.intercept entity .postLoad).1.map (.intercepted s.workspace.fresh))
  ran : (T.intercept entity .postLoad).1.map Notice.interceptor = T.watchers .postLoad
  passed : (T.intercept entity .postLoad).2.2 = none
  handed : t.workspace.entity? h = some (T.intercept entity .postLoad).2.1

/-- A run read the entity of a handle. -/
def Loads (T : EntityType E) (s t : Site σ E) (h : Handle) : Prop :=
  ∃ request row entity, Loaded T s t h request row entity

/-- After a read the interceptors ran on the entity at once, and none failed. -/
theorem trigger_postLoad_eq_ok {T : EntityType E} {h : Handle} {s t : Site σ E} {c : Cell E}
    (hc : s.workspace.cell? h = some c) (hrun : trigger T h .postLoad s = (.ok (), t)) :
    (T.intercept c.entity .postLoad).2.2 = none ∧
      t.trace = s.trace ++ (T.intercept c.entity .postLoad).1.map (.intercepted h) ∧
      t.workspace.entity? h = some (T.intercept c.entity .postLoad).2.1 := by
  obtain ⟨hanswer, hsteps⟩ := trigger_now (T := T) hc (.inl rfl)
  rw [hrun] at hanswer hsteps
  refine ⟨?_, hsteps.trace, ?_⟩
  · unfold interceptAnswer at hanswer
    split at hanswer
    · cases hanswer
    · assumption
  · unfold Workspace.entity?
    rw [hsteps.cell]
    rfl

/-- What is done with a loaded entity, if it only puts it somewhere. -/
theorem Loads.congr {T : EntityType E} {s t u : Site σ E} {h target : Handle}
    (hloads : Loads T s t h) (htrace : u.trace = t.trace)
    (hentity : u.workspace.entity? target = t.workspace.entity? h) : Loads T s u target := by
  obtain ⟨request, row, entity, hloaded⟩ := hloads
  exact ⟨request, row, entity, { hloaded with
    trace := htrace.trans hloaded.trace
    handed := hentity.trans hloaded.handed }⟩

omit [Session σ] in
/-- A change of a cell that keeps its entity. -/
theorem Workspace.entity?_modify_of_entity {f : Cell E → Cell E} (hf : ∀ c, (f c).entity = c.entity)
    (w : Workspace E) (h other : Handle) : (w.modify h f).entity? other = w.entity? other := by
  rw [entity?_modify (g := id) hf, Option.map_id_fun, id, ite_self]

namespace Call

variable {c : Call E} {s t : Site σ E}

/-- What was loaded is under a new handle. -/
theorem loads_load {key : List Value} {h : Handle} (hrun : c.load key s = (.ok (some h), t)) :
    h = s.workspace.fresh ∧ Loads c.type s t h := by
  rw [load_apply] at hrun
  obtain ⟨request, s₁, hrequest, hread⟩ := bind_eq_ok hrun
  obtain ⟨-, rfl⟩ := lift_eq_ok hrequest
  obtain ⟨rows, s₂, hexecute, hreceived⟩ := bind_eq_ok hread
  rw [executeRequest_apply] at hexecute
  obtain ⟨hrows, rfl⟩ := Prod.mk.inj hexecute
  cases rows with
  | nil => cases hreceived
  | cons row rest =>
    obtain ⟨entity, s₃, hofRow, hadd⟩ := bind_eq_ok hreceived
    obtain ⟨hentity, rfl⟩ := lift_eq_ok hofRow
    rw [bind_of_ok (addEntity_apply _ _)] at hadd
    obtain ⟨_, s₄, htrigger, hlast⟩ := bind_eq_ok hadd
    obtain ⟨hpassed, htrace, hhanded⟩ :=
      trigger_postLoad_eq_ok (Workspace.cell?_add_self _ entity) htrigger
    obtain ⟨hh, rfl⟩ := Prod.mk.inj hlast
    rw [← Option.some.inj (Except.ok.inj hh)]
    refine ⟨rfl, request, row, entity, ?_⟩
    exact {
      received := ⟨rest, hrows⟩
      read := hentity
      trace := htrace.trans (List.append_assoc ..)
      ran := (c.type.notices_intercept entity .postLoad).2.2 hpassed
      passed := hpassed
      handed := hhanded }

/-- Finding hands out what was loaded. -/
theorem loads_find {key : List Value} {p : Proxy} (hrun : c.find key s = (.ok (some p), t)) :
    p.handle = s.workspace.fresh ∧ Loads c.type s t p.handle := by
  obtain ⟨found, s₁, hload, hfound⟩ := bind_eq_ok hrun
  cases found with
  | none => cases hfound
  | some h =>
    obtain ⟨hh, hloads⟩ := loads_load hload
    obtain ⟨p', s₂, hmanage, hlast⟩ := bind_eq_ok hfound
    obtain ⟨hp, rfl⟩ := Prod.mk.inj hlast
    obtain rfl := Option.some.inj (Except.ok.inj hp)
    obtain ⟨hp', rfl⟩ := Prod.mk.inj hmanage
    rw [← Except.ok.inj hp']
    refine ⟨hh, hloads.congr rfl ?_⟩
    refine Workspace.entity?_modify_of_entity ?_ s₁.workspace h h
    intro _
    rfl

/-- A proxy that is read again takes over what was loaded. -/
theorem loads_refresh {p : Proxy} (hp : s.workspace.Has p.handle)
    (hrun : c.refresh p s = (.ok .refreshed, t)) : Loads c.type s t p.handle := by
  obtain ⟨found, s₁, hload, hfound⟩ := bind_eq_ok hrun
  cases found with
  | none => cases hfound
  | some h =>
    obtain ⟨-, hloads⟩ := loads_load hload
    obtain ⟨cell, s₂, hcell, hlast⟩ := bind_eq_ok hfound
    obtain ⟨hcell', rfl⟩ := cell_eq_ok hcell
    obtain ⟨-, rfl⟩ := Prod.mk.inj hlast
    refine hloads.congr rfl ?_
    -- the entity was loaded under a fresh handle, so the cell of the proxy is still there to take it
    have hsize := (upholds_waits.load c p.key s).size
    rw [hload] at hsize
    have hp' : (s₂.workspace.entity? p.handle).isSome = true :=
      Workspace.has_iff.1 (Nat.lt_of_lt_of_le hp hsize)
    show (s₂.workspace.modify p.handle _).entity? p.handle = _
    unfold Workspace.entity? at hp' ⊢
    obtain ⟨old, hold⟩ := Option.isSome_iff_exists.1 (Option.isSome_map ▸ hp')
    rw [Workspace.cell?_modify_self hold, hcell']
    rfl

end Call

/-! ### Calls of a manager -/

variable {s : Site σ E}

/-- A find that hands out a proxy read its entity. -/
def FindLoads (T : EntityType E) (s : Site σ E)
    (run : Except Stop (Option Proxy) × Site σ E) : Prop :=
  ∀ p, run.1 = .ok (some p) → Loads T s run.2 p.handle

/-- A refresh that succeeds on an entity in play read it. -/
def RefreshLoads (T : EntityType E) (p : Proxy) (s : Site σ E)
    (run : Except Stop Refresh × Site σ E) : Prop :=
  s.workspace.Has p.handle → run.1 = .ok .refreshed → Loads T s run.2 p.handle

namespace Manager

variable (T : EntityType E) (options : Options) (s : Site σ E)

theorem findLoads_findIn (key : List Value) : FindLoads T s (findIn T key options s) := by
  intro p hp
  rcases call_bind_cases T options (fun c => c.find key) s with ⟨e, hrun⟩ | ⟨c, hc, hrun⟩
  · have hrun : findIn T key options s = _ := hrun
    rw [hrun] at hp
    cases hp
  · have hrun : findIn T key options s = _ := hrun
    rw [hrun] at hp ⊢
    rw [← hc.type_eq]
    exact (Call.loads_find (Prod.ext hp rfl)).2

theorem refreshLoads_refreshIn (p : Proxy) : RefreshLoads T p s (refreshIn T p options s) := by
  intro hhas hp
  rcases call_bind_cases T options (fun c => c.refresh p) s with ⟨e, hrun⟩ | ⟨c, hc, hrun⟩
  · have hrun : refreshIn T p options s = _ := hrun
    rw [hrun] at hp
    cases hp
  · have hrun : refreshIn T p options s = _ := hrun
    rw [hrun] at hp ⊢
    rw [← hc.type_eq]
    exact Call.loads_refresh hhas (Prod.ext hp rfl)

variable {T s} in
/-- Running at once changes nothing about a read. -/
theorem loads_of_atOnce {t : Site σ E} {h : Handle} (hloads : Loads T (atOnce s) t h)
    (outbox : Outbox E) : Loads T s { t with outbox } h := by
  obtain ⟨request, row, entity, hloaded⟩ := hloads
  exact ⟨request, row, entity, hloaded.received, hloaded.read, hloaded.trace, hloaded.ran,
    hloaded.passed, hloaded.handed⟩

theorem findLoads_find (key : List Value) : FindLoads T s (find T key options s) := by
  intro p hp
  exact loads_of_atOnce (findLoads_findIn T options (atOnce s) key p hp) s.outbox

theorem refreshLoads_refresh (p : Proxy) : RefreshLoads T p s (refresh T p options s) := by
  intro hhas hp
  exact loads_of_atOnce (refreshLoads_refreshIn T options (atOnce s) p hhas hp) s.outbox

end Manager

/-- A call that reads an entity inside a window hands it out after the interceptors that follow a
read ran. -/
def WindowCall.Reads (b : Batching σ E) : WindowCall E → Prop
  | find T key options =>
    FindLoads T b.site ((Batching.find T key options b).1, (Batching.find T key options b).2.site)
  | refresh T p options =>
    RefreshLoads T p b.site
      ((Batching.refresh T p options b).1, (Batching.refresh T p options b).2.site)
  | _ => True

theorem WindowCall.reads (call : WindowCall E) (b : Batching σ E) : call.Reads b := by
  cases call with
  | find T key options =>
    dsimp only [Reads]
    unfold Batching.find
    cases hlevel : options.hasLevel with
    | true =>
      rw [Batching.rejectLevel_bind_of_level hlevel]
      intro p hp
      cases hp
    | false =>
      rw [Batching.rejectLevel_bind_of_no_level hlevel]
      exact Manager.findLoads_findIn T options b.site key
  | refresh T p options =>
    dsimp only [Reads]
    unfold Batching.refresh
    split
    · intro _ hp
      cases hp
    · exact Manager.refreshLoads_refreshIn T options b.site p
  | _ => trivial

end WideColumn
