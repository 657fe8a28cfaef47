import WideColumn.Proofs.Event.Deferred

/-!
# Events and the calls of a window

What a call in a window puts off (`WindowCall.records`), and which interceptors run during it: none
but those that follow a read (`WindowCall.waits`). A read hands out an entity that went through the
interceptors that follow it, whatever the outbox (`Manager.loads_findIn`).
-/

namespace WideColumn

open Op

variable {σ E : Type} [Session σ]

/-! ### Waiting -/

/-- How a site changes before a window ends: it stays inside or outside one, no entity leaves, and
inside no interceptor runs but those that follow a read. -/
structure Waits (s t : Site σ E) : Prop where
  mode : t.outbox.mode = s.outbox.mode
  size : s.workspace.cells.size ≤ t.workspace.cells.size
  acts : s.outbox.mode = .batching →
    ∃ acts, t.trace = s.trace ++ acts ∧ ∀ x ∈ interceptedIn acts, x.2.event = .postLoad

omit [Session σ] in
theorem Waits.of_silent {s t : Site σ E} (acts : List Act)
    (hmode : t.outbox.mode = s.outbox.mode)
    (hsize : s.workspace.cells.size ≤ t.workspace.cells.size)
    (htrace : t.trace = s.trace ++ acts) (hacts : interceptedIn acts = []) : Waits s t := by
  refine ⟨hmode, hsize, fun _ => ⟨acts, htrace, fun x hx => ?_⟩⟩
  rw [hacts] at hx
  cases hx

omit [Session σ] in
theorem composes_waits : Composes (Waits (σ := σ) (E := E)) where
  refl s := .of_silent [] rfl (Nat.le_refl _) (by simp) rfl
  trans hst htu := by
    refine ⟨htu.mode.trans hst.mode, Nat.le_trans hst.size htu.size, fun hmode => ?_⟩
    obtain ⟨acts, ht, hacts⟩ := hst.acts hmode
    obtain ⟨more, hu, hmore⟩ := htu.acts (hst.mode.trans hmode)
    refine ⟨acts ++ more, by rw [hu, ht, List.append_assoc], fun x hx => ?_⟩
    rw [interceptedIn_append] at hx
    rcases List.mem_append.1 hx with hx | hx
    · exact hacts x hx
    · exact hmore x hx

omit [Session σ] in
theorem waits_modifyCell (h : Handle) (f : Cell E → Cell E) :
    Keeps (Waits (σ := σ)) (modifyCell h f) := by
  intro s
  rw [modifyCell_apply]
  exact .of_silent [] rfl (Nat.le_of_eq (Workspace.size_modify _ _ _).symm) (by simp) rfl

omit [Session σ] in
/-- Inside a window an event is put off, unless it follows a read. -/
theorem waits_trigger (T : EntityType E) (h : Handle) (event : Event) :
    Keeps (Waits (σ := σ)) (trigger T h event) := by
  intro s
  have hsize := Nat.le_of_eq (Deferred.size_fire ⟨T, h, event⟩ s.workspace).symm
  have hfire := fire_eq ⟨T, h, event⟩ s
  by_cases hload : event = .postLoad
  · subst hload
    rcases trigger_cases T h .postLoad s with ⟨-, hrun⟩ | hrun | ⟨-, hrun⟩ <;> rw [hrun]
    · exact composes_waits.refl s
    · rw [hfire]
      refine ⟨rfl, hsize, fun _ => ⟨_, rfl, fun x hx => ?_⟩⟩
      rw [interceptedIn_map_intercepted] at hx
      obtain ⟨notice, hnotice, rfl⟩ := List.mem_map.1 hx
      exact (Deferred.notices_fire _ _).1 notice hnotice
    · exact .of_silent [] rfl (Nat.le_refl _) (by simp [Site.afterDefer]) rfl
  · cases hmode : s.outbox.mode with
    | batching =>
      rw [trigger_deferring h hload hmode]
      exact .of_silent [] rfl (Nat.le_refl _) (by simp [Site.deferring]) rfl
    | immediate =>
      -- Outside a window it may run at once, which is not looked at here.
      rcases trigger_cases T h event s with ⟨-, hrun⟩ | hrun | ⟨hbatching, -⟩
      · rw [hrun]
        exact composes_waits.refl s
      · rw [hrun, hfire]
        exact ⟨rfl, hsize, fun hbatching => by rw [hmode] at hbatching; cases hbatching⟩
      · rw [hmode] at hbatching
        cases hbatching

theorem waits_handOver (kind : BatchKind) (r : Request) :
    Keeps (Waits (σ := σ) (E := E)) (handOver kind r) := by
  intro s
  rcases handOver_cases kind r s with ⟨-, hrun⟩ | ⟨-, hrun⟩ <;> rw [hrun]
  · exact .of_silent (sending kind r) rfl (Nat.le_refl _) rfl rfl
  · exact .of_silent [.pushed kind r] (Outbox.mode_keeping _ _ _) (Nat.le_refl _) rfl rfl

theorem admits_waits : Admits (Waits (σ := σ) (E := E)) fun _ _ => True where
  toComposes := composes_waits
  push _ := waits_handOver .logged _
  pushCounter _ := waits_handOver .counter _
  trigger := waits_trigger
  addEntity entity s := by
    rw [addEntity_apply]
    exact .of_silent [] rfl (Nat.le_of_lt (by simp [Workspace.size_add])) (by simp) rfl
  modifyCell h f _ := waits_modifyCell h f

theorem upholds_waits : Upholds (fun _ => True) (fun _ => True) (Waits (σ := σ) (E := E))
    (fun _ _ => True) fun _ => True :=
  { admits_waits.upholds with
    execute := fun {r} _ s => by
      rw [executeRequest_apply]
      exact .of_silent [.logged (.sent r), .executed r.statement] rfl (Nat.le_refl _) rfl rfl }

theorem waits_updateIn (T : EntityType E) (p : Proxy) (options : Options) :
    Keeps (Waits (σ := σ)) (Manager.updateIn T p options) := by
  intro s
  refine Manager.call_bind_at composes_waits fun c _ => ?_
  refine c.upholds_update upholds_waits c.writesOn_true (fun _ _ _ _ _ _ _ _ => trivial)
    (fun entity properties t => ?_) trivial s
  have hprepares := prepares_bindUpdate c.type c.entityMeta entity properties c.options
    (Levels.write c.options c.entityMeta) t
  obtain ⟨texts, htrace, -⟩ := hprepares.asked
  refine .of_silent _ ?_ (Nat.le_of_eq ?_) htrace (interceptedIn_map_prepared texts)
  · rw [hprepares.outbox]
  · rw [hprepares.workspace]

/-- A call that does not end the window keeps its entities, and runs no interceptor but those that
follow a read. -/
theorem WindowCall.waits {call : WindowCall E} (hend : call.isEnd = false) (b : Batching σ E) :
    Waits b.site (call.run b).2.site := by
  cases hresets : call.resets with
  | true =>
    obtain ⟨level, hsite⟩ := call.run_of_resets hresets hend b
    rw [hsite]
    exact .of_silent [] rfl (Nat.le_refl _) (by simp) rfl
  | false =>
    rcases call.site_of_not_resets hresets b with hsite | ⟨α, op, hop, hsite⟩ <;> rw [hsite]
    · exact composes_waits.refl b.site
    · cases hop with
      | persist T entity options => exact upholds_waits.persistIn T options entity b.site
      | update T p options => exact waits_updateIn T p options b.site
      | remove T entity options => exact upholds_waits.removeIn T options entity b.site
      | removeById T key options => exact upholds_waits.removeByIdIn T options key b.site
      | find T key options => exact upholds_waits.findIn T options key b.site
      | getProxy T key options => exact upholds_waits.getProxyIn T options key b.site
      | refresh T p options => exact upholds_waits.refreshIn T options p b.site

theorem WindowCall.intercepted_postLoad {call : WindowCall E} (hend : call.isEnd = false)
    {b : Batching σ E} (hmode : b.site.outbox.mode = .batching) :
    ∀ x ∈ interceptedIn (call.acts b), x.2.event = .postLoad := by
  obtain ⟨acts, htrace, hacts⟩ := (call.waits hend b).acts hmode
  have heq : call.acts b = acts := acts_eq htrace
  rw [heq]
  exact hacts

/-! ### Entities in play -/

omit [Session σ] in
/-- A new entity stays. -/
theorem Waits.has_fresh {s t : Site σ E} {entity : E} (h : Waits (s.adding entity) t) :
    t.workspace.Has s.workspace.fresh := by
  have hsize : (s.adding entity).workspace.cells.size = s.workspace.cells.size + 1 :=
    s.workspace.size_add entity
  have hle := h.size
  rw [hsize] at hle
  exact hle

/-- The entity of an insert is in play afterwards, even if the insert fails. -/
theorem Call.has_persist (c : Call E) (entity : E) (s : Site σ E) :
    (c.persist entity s).2.workspace.Has s.workspace.fresh := by
  have hwaits := composes_waits.bind (waits_trigger c.type (s.workspace.add entity).1 .prePersist)
    (fun _ => c.keeps_persistRest admits_waits (s.workspace.add entity).1) (s.adding entity)
  rw [← c.persist_apply] at hwaits
  exact hwaits.has_fresh

theorem Call.has_remove (c : Call E) (entity : E) (s : Site σ E) :
    (c.remove entity s).2.workspace.Has s.workspace.fresh := by
  have hwaits := composes_waits.bind (waits_trigger c.type (s.workspace.add entity).1 .preRemove)
    (fun _ => c.keeps_removeRest admits_waits (s.workspace.add entity).1) (s.adding entity)
  rw [← c.remove_apply] at hwaits
  exact hwaits.has_fresh

/-! ### Recording -/

section

variable (T : EntityType E) (options : Options) {s : Site σ E}
  (hmode : s.outbox.mode = .batching)
include hmode

theorem Manager.putsOff_persistIn (entity : Tracked E) : ∃ events,
    (Manager.persistIn T entity options s).2.outbox.events = s.outbox.events ++ events ∧
      T.PutsOff s.workspace.fresh .prePersist .postPersist
        (Manager.persistIn T entity options s).1 events ∧
      (∀ p, (Manager.persistIn T entity options s).1 = .ok p → p.handle = s.workspace.fresh) ∧
      ∀ d ∈ events, (Manager.persistIn T entity options s).2.workspace.Has d.handle := by
  rcases Manager.persistIn_cases T entity options s with ⟨e, hrun⟩ | ⟨c, e, -, hc, hrun⟩
  · rw [hrun]
    exact ⟨[], by simp, .inl rfl, (fun p hp => by cases hp), fun d hd => by cases hd⟩
  · rw [hrun]
    have hevents := c.events_persist hmode e
    have hhas := c.has_persist e s
    rw [hc.type_eq] at hevents
    rcases hpersist : c.persist e s with ⟨answer, t⟩
    rw [hpersist] at hevents hhas
    have hputs := T.putsOff_of_isOk s.workspace.fresh .prePersist .postPersist answer
    refine ⟨_, hevents, hputs, fun p hp => ?_, fun d hd => ?_⟩
    · dsimp only at hp
      exact c.handle_of_persist (hp ▸ hpersist)
    · rw [(hputs.mem hd).1]
      exact hhas

theorem Manager.putsOff_updateIn (p : Proxy) : ∃ events,
    (Manager.updateIn T p options s).2.outbox.events = s.outbox.events ++ events ∧
      T.PutsOff p.handle .preUpdate .postUpdate (Manager.updateIn T p options s).1 events := by
  rcases Manager.updateIn_cases T p options s with ⟨e, hrun⟩ | ⟨c, hc, hrun⟩
  · rw [hrun]
    exact ⟨[], by simp, .inl rfl⟩
  · rw [hrun]
    have hevents := c.events_update hmode p
    rw [hc.type_eq] at hevents
    exact ⟨_, hevents, T.putsOff_of_isOk _ _ _ _⟩

theorem Manager.putsOff_removeIn (entity : Tracked E) : ∃ events,
    (Manager.removeIn T entity options s).2.outbox.events = s.outbox.events ++ events ∧
      T.PutsOff s.workspace.fresh .preRemove .postRemove
        (Manager.removeIn T entity options s).1 events ∧
      ∀ d ∈ events, (Manager.removeIn T entity options s).2.workspace.Has d.handle := by
  rcases Manager.removeIn_cases T entity options s with ⟨e, hrun⟩ | ⟨c, e, hc, hrun⟩
  · rw [hrun]
    exact ⟨[], by simp, .inl rfl, fun d hd => by cases hd⟩
  · rw [hrun]
    have hevents := c.events_remove hmode e
    rw [hc.type_eq] at hevents
    have hputs := T.putsOff_of_isOk s.workspace.fresh .preRemove .postRemove (c.remove e s).1
    refine ⟨_, hevents, hputs, fun d hd => ?_⟩
    rw [(hputs.mem hd).1]
    exact c.has_remove e s

end

/-- The events that a call puts off: a write its first and its last one, both on the entity of its
proxy, or the first one at most if it fails; any other call none. -/
def WindowCall.Records (b : Batching σ E) (events : List (Deferred E)) : WindowCall E → Prop
  | persist now T entity options =>
    T.PutsOff b.site.workspace.fresh .prePersist .postPersist
        (Batching.persist now T entity options b).1 events ∧
      ∀ p, (Batching.persist now T entity options b).1 = .ok p →
        p.handle = b.site.workspace.fresh
  | update now T p options =>
    T.PutsOff p.handle .preUpdate .postUpdate (Batching.update now T p options b).1 events
  | remove now T entity options =>
    T.PutsOff b.site.workspace.fresh .preRemove .postRemove
      (Batching.remove now T entity options b).1 events
  | _ => events = []

/-- The proxies that a call updates. -/
def WindowCall.updated : WindowCall E → List Proxy
  | update _ _ p _ => [p]
  | _ => []

/-- What a call that does not reset the window puts off. -/
theorem WindowCall.records {call : WindowCall E} (hresets : call.resets = false)
    {b : Batching σ E} (hmode : b.site.outbox.mode = .batching) : ∃ events,
    (call.run b).2.site.outbox.events = b.site.outbox.events ++ events ∧
      call.Records b events ∧
      ∀ d ∈ events, d.event ≠ .postLoad ∧ ((call.run b).2.site.workspace.Has d.handle ∨
        ∃ p ∈ call.updated, d.handle = p.handle) := by
  have hnone {s : Site σ E} (h : SameEvents b.site s) : ∃ events,
      s.outbox.events = b.site.outbox.events ++ events ∧ events = [] ∧
        ∀ d ∈ events, d.event ≠ .postLoad ∧ (s.workspace.Has d.handle ∨
          ∃ p ∈ ([] : List Proxy), d.handle = p.handle) :=
    ⟨[], by rw [(h hmode).2, List.append_nil], rfl, fun d hd => by cases hd⟩
  have hR := composes_sameEvents (σ := σ) (E := E)
  cases call with
  | startBatch => cases hresets
  | startBatchAt level => cases hresets
  | endBatch => cases hresets
  | cleanBatch => cases hresets
  | persist now T entity options =>
    obtain ⟨options', last, hrun⟩ := Batching.unleveled_bind_apply hresets now
      (fun o => Manager.persistIn T entity o) b
    have hrun : Batching.persist now T entity options b = _ := hrun
    have hsite : ((WindowCall.persist now T entity options).run b).2 =
      (Batching.persist now T entity options b).2 := discard_apply _ b
    dsimp only [Records]
    rw [hsite, hrun]
    obtain ⟨events, hevents, hputs, hhandle, hhas⟩ :=
      Manager.putsOff_persistIn T options' hmode entity
    exact ⟨events, hevents, ⟨hputs, hhandle⟩, fun d hd =>
      ⟨hputs.ne_postLoad (by decide) (by decide) hd, .inl (hhas d hd)⟩⟩
  | update now T p options =>
    obtain ⟨options', last, hrun⟩ := Batching.unleveled_bind_apply hresets now
      (fun o => Manager.updateIn T p o) b
    have hrun : Batching.update now T p options b = _ := hrun
    dsimp only [Records, WindowCall.run]
    rw [hrun]
    obtain ⟨events, hevents, hputs⟩ := Manager.putsOff_updateIn T options' hmode p
    exact ⟨events, hevents, hputs, fun d hd =>
      ⟨hputs.ne_postLoad (by decide) (by decide) hd,
        .inr ⟨p, List.mem_singleton.2 rfl, (hputs.mem hd).1⟩⟩⟩
  | remove now T entity options =>
    obtain ⟨options', last, hrun⟩ := Batching.unleveled_bind_apply hresets now
      (fun o => Manager.removeIn T entity o) b
    have hrun : Batching.remove now T entity options b = _ := hrun
    dsimp only [Records, WindowCall.run]
    rw [hrun]
    obtain ⟨events, hevents, hputs, hhas⟩ := Manager.putsOff_removeIn T options' hmode entity
    exact ⟨events, hevents, hputs, fun d hd =>
      ⟨hputs.ne_postLoad (by decide) (by decide) hd, .inl (hhas d hd)⟩⟩
  | removeById now T key =>
    obtain ⟨options', last, hrun⟩ := Batching.stamped_bind_apply now .none
      (fun o => Manager.removeByIdIn T key o) b
    have hrun : Batching.removeById now T key b = _ := hrun
    dsimp only [Records, WindowCall.run]
    rw [hrun]
    exact hnone (Manager.call_bind_at hR fun c _ =>
      c.upholds_removeByKey writes_sameEvents c.writesOn_true key _)
  | find T key options =>
    have hsite : ((WindowCall.find T key options).run b).2 =
      (Batching.find T key options b).2 := discard_apply _ b
    rw [hsite]
    unfold Batching.find
    rw [Batching.rejectLevel_bind_of_no_level hresets]
    exact hnone (Manager.call_bind_at hR fun c _ => c.sameEvents_find key _)
  | getProxy T key options =>
    have hsite : ((WindowCall.getProxy T key options).run b).2 =
      (Batching.getProxy T key options b).2 := discard_apply _ b
    rw [hsite]
    unfold Batching.getProxy
    rw [Batching.rejectLevel_bind_of_no_level hresets]
    exact hnone (Manager.call_bind_at hR fun c _ => c.sameEvents_proxyOfKey key _)
  | refresh T p options =>
    have hsite : ((WindowCall.refresh T p options).run b).2 =
      (Batching.refresh T p options b).2 := discard_apply _ b
    rw [hsite]
    unfold Batching.refresh
    split
    · exact hnone (hR.refl b.site)
    · exact hnone (Manager.call_bind_at hR fun c _ => c.sameEvents_refresh p _)

end WideColumn
