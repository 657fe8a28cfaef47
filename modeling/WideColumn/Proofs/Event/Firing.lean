import WideColumn.Proofs.Window.Run

/-!
# Running what was put off

The end of a window runs the interceptors of the events that were put off, in the order in which
they were put off, each on its entity as it is at that moment, until one fails. `Firing.of` says so
of the entities alone; `forM_fire` and `Batching.endBatch_fires` say that this is what the end of a
window does, before it sends anything.
-/

namespace WideColumn

open Op

variable {σ E : Type}

/-! ### Handles -/

namespace Workspace

/-- The handle of the next entity. -/
def fresh (w : Workspace E) : Handle := ⟨w.cells.size⟩

/-- There is an entity under the handle. -/
def Has (w : Workspace E) (h : Handle) : Prop := h.index < w.cells.size

theorem has_iff {w : Workspace E} {h : Handle} :
    w.Has h ↔ (w.entity? h).isSome = true := by
  unfold Has entity? cell?
  simp

end Workspace

/-! ### Notices -/

/-- The notices of the interceptors that ran, each with the handle of its entity, oldest first. -/
def interceptedIn (acts : List Act) : List (Handle × Notice) :=
  acts.filterMap fun
    | .intercepted h notice => some (h, notice)
    | _ => none

@[simp] theorem interceptedIn_append (acts more : List Act) :
    interceptedIn (acts ++ more) = interceptedIn acts ++ interceptedIn more :=
  List.filterMap_append

theorem interceptedIn_map_intercepted (h : Handle) (notices : List Notice) :
    interceptedIn (notices.map (.intercepted h)) = notices.map fun notice => (h, notice) := by
  unfold interceptedIn
  rw [List.filterMap_map]
  exact congrFun List.filterMap_eq_map notices

theorem interceptedIn_map_prepared (texts : List String) :
    interceptedIn (texts.map .prepared) = [] := by
  unfold interceptedIn
  rw [List.filterMap_map]
  exact List.filterMap_eq_nil_iff.2 fun _ _ => rfl

/-- What running interceptors tells: each is called for the event, in order, and all of them are if
none fails. -/
theorem EntityType.notices_runInterceptors (T : EntityType E) (actual : String) (event : Event)
    (interceptors : List (Interceptor E)) (entity : E) :
    (∀ notice ∈ (T.runInterceptors actual event interceptors entity).1, notice.event = event) ∧
      (T.runInterceptors actual event interceptors entity).1.map Notice.interceptor <+:
        interceptors.map Interceptor.name ∧
      ((T.runInterceptors actual event interceptors entity).2.2 = none →
        (T.runInterceptors actual event interceptors entity).1.map Notice.interceptor =
          interceptors.map Interceptor.name) := by
  induction interceptors generalizing entity with
  | nil => exact ⟨List.forall_mem_nil _, List.prefix_refl _, fun _ => rfl⟩
  | cons i rest ih =>
    unfold runInterceptors
    split
    · exact ⟨List.forall_mem_nil _, List.nil_prefix, fun hnone => by cases hnone⟩
    · rcases i.run entity event with ⟨after, _ | e⟩
      · obtain ⟨hevent, hbegins, hall⟩ := ih after
        refine ⟨List.forall_mem_cons.2 ⟨rfl, hevent⟩, ?_, fun hnone => ?_⟩
        · exact List.cons_prefix_cons.2 ⟨rfl, hbegins⟩
        · exact congrArg (List.cons i.name) (hall hnone)
      · refine ⟨List.forall_mem_singleton.2 rfl, ?_, fun hnone => by cases hnone⟩
        exact List.cons_prefix_cons.2 ⟨rfl, List.nil_prefix⟩

/-- The names of the interceptors that want to see an event, in declared order. -/
def EntityType.watchers (T : EntityType E) (event : Event) : List String :=
  (T.interceptors.filter fun i => i.accepts event).map Interceptor.name

/-- Interceptors that want to see an event are called in order; all of them, if none fails. -/
theorem EntityType.notices_intercept (T : EntityType E) (entity : E) (event : Event) :
    (∀ notice ∈ (T.intercept entity event).1, notice.event = event) ∧
      (T.intercept entity event).1.map Notice.interceptor <+: T.watchers event ∧
      ((T.intercept entity event).2.2 = none →
        (T.intercept entity event).1.map Notice.interceptor = T.watchers event) :=
  T.notices_runInterceptors T.typeName event (T.interceptors.filter fun i => i.accepts event) entity

/-! ### Firing -/

namespace Deferred

/-- Run the interceptors of an event on its entity: the notices, the entities afterwards, and the
error. -/
def fire (d : Deferred E) (w : Workspace E) : List Notice × Workspace E × Option Stop :=
  match w.cell? d.handle with
  | none => ([], w, some noCell)
  | some c =>
    let (notices, entity, error) := d.type.intercept c.entity d.event
    (notices, w.modifyEntity d.handle fun _ => entity, error.map .failed)

/-- The entity of an event after its interceptors ran. -/
def apply (d : Deferred E) (entity : E) : E := (d.type.intercept entity d.event).2.1

theorem fire_of_cell {d : Deferred E} {w : Workspace E} {c : Cell E}
    (hc : w.cell? d.handle = some c) :
    d.fire w = ((d.type.intercept c.entity d.event).1,
      w.modifyEntity d.handle fun _ => d.apply c.entity,
      (d.type.intercept c.entity d.event).2.2.map .failed) := by
  unfold fire
  rw [hc]
  rfl

theorem fire_of_no_cell {d : Deferred E} {w : Workspace E} (hc : w.cell? d.handle = none) :
    d.fire w = ([], w, some noCell) := by
  unfold fire
  rw [hc]

/-- What an event does to the entity of a handle: its own entity goes through its interceptors. -/
theorem entity?_fire (d : Deferred E) (w : Workspace E) (h : Handle) :
    (d.fire w).2.1.entity? h =
      if d.handle = h then (w.entity? h).map d.apply else w.entity? h := by
  cases hc : w.cell? d.handle with
  | none =>
    rw [fire_of_no_cell hc]
    split
    · next heq => simp [Workspace.entity?, ← heq, hc]
    · rfl
  | some c =>
    rw [fire_of_cell hc, Workspace.entity?_modifyEntity]
    split
    · next heq => simp [Workspace.entity?, ← heq, hc]
    · rfl

/-- The notices of an event are of interceptors that want to see it, in order; all of them, if it
does not fail. -/
theorem notices_fire (d : Deferred E) (w : Workspace E) :
    (∀ notice ∈ (d.fire w).1, notice.event = d.event) ∧
      (d.fire w).1.map Notice.interceptor <+: d.type.watchers d.event ∧
      ((d.fire w).2.2 = none →
        (d.fire w).1.map Notice.interceptor = d.type.watchers d.event) := by
  cases hc : w.cell? d.handle with
  | none =>
    rw [fire_of_no_cell hc]
    exact ⟨List.forall_mem_nil _, List.nil_prefix, fun hnone => by cases hnone⟩
  | some c =>
    rw [fire_of_cell hc]
    obtain ⟨hevent, hbegins, hall⟩ := d.type.notices_intercept c.entity d.event
    exact ⟨hevent, hbegins, fun hnone => hall (Option.map_eq_none_iff.1 hnone)⟩

theorem size_fire (d : Deferred E) (w : Workspace E) :
    (d.fire w).2.1.cells.size = w.cells.size := by
  unfold fire
  split
  · rfl
  · exact w.size_modify _ _

end Deferred

/-- What comes of running events: those that were come to, each with the notices of its
interceptors, the entities afterwards, and the error that ended it. -/
structure Firing (E : Type) where
  fired : List (Deferred E × List Notice)
  workspace : Workspace E
  error : Option Stop

namespace Firing

/-- Run the interceptors of events in order, until one fails. -/
def of : List (Deferred E) → Workspace E → Firing E
  | [], w => ⟨[], w, none⟩
  | d :: rest, w =>
    match d.fire w with
    | (notices, w, some e) => ⟨[(d, notices)], w, some e⟩
    | (notices, w, none) => { of rest w with fired := (d, notices) :: (of rest w).fired }

/-- The events that were come to. -/
def events (f : Firing E) : List (Deferred E) := f.fired.map Prod.fst

/-- The trace of the interceptors that ran. -/
def acts (f : Firing E) : List Act :=
  f.fired.flatMap fun (d, notices) => notices.map (.intercepted d.handle)

/-- The answer: success, unless an event failed. -/
def answer (f : Firing E) : Except Stop PUnit :=
  match f.error with
  | some e => .error e
  | none => .ok ()

theorem of_cons_of_error {d : Deferred E} {rest : List (Deferred E)} {w : Workspace E} {e : Stop}
    (h : (d.fire w).2.2 = some e) :
    of (d :: rest) w = ⟨[(d, (d.fire w).1)], (d.fire w).2.1, some e⟩ := by
  rw [of]
  split
  · next notices w' e' heq =>
    rw [heq] at h ⊢
    rw [Option.some.inj h]
  · next notices w' heq =>
    rw [heq] at h
    cases h

theorem of_cons_of_none {d : Deferred E} {rest : List (Deferred E)} {w : Workspace E}
    (h : (d.fire w).2.2 = none) :
    of (d :: rest) w = { of rest (d.fire w).2.1 with
      fired := (d, (d.fire w).1) :: (of rest (d.fire w).2.1).fired } := by
  rw [of]
  split
  · next notices w' e' heq =>
    rw [heq] at h
    cases h
  · next notices w' heq => rw [heq]

/-- The events that are come to are the first ones; all of them, if none fails. -/
theorem events_of (events : List (Deferred E)) (w : Workspace E) :
    (of events w).events <+: events ∧
      ((of events w).error = none → (of events w).events = events) := by
  induction events generalizing w with
  | nil => exact ⟨List.prefix_refl _, fun _ => rfl⟩
  | cons d rest ih =>
    cases hfire : (d.fire w).2.2 with
    | some e =>
      rw [of_cons_of_error hfire]
      exact ⟨List.cons_prefix_cons.2 ⟨rfl, List.nil_prefix⟩, fun hnone => by cases hnone⟩
    | none =>
      rw [of_cons_of_none hfire]
      obtain ⟨hbegins, hall⟩ := ih (d.fire w).2.1
      exact ⟨List.cons_prefix_cons.2 ⟨rfl, hbegins⟩, fun hnone => congrArg (d :: ·) (hall hnone)⟩

/-- The failure of a run is that of its last event: an interceptor failed, or there is no entity. -/
theorem failure_of {events : List (Deferred E)} {w : Workspace E} {e : Stop}
    (h : (of events w).error = some e) :
    ∃ d, (of events w).events.getLast? = some d ∧
      (w.Has d.handle → ∃ entity error,
        (d.type.intercept entity d.event).2.2 = some error ∧ e = .failed error) := by
  induction events generalizing w with
  | nil => cases h
  | cons d rest ih =>
    cases hfire : (d.fire w).2.2 with
    | some e' =>
      rw [of_cons_of_error hfire] at h ⊢
      obtain rfl := Option.some.inj h
      refine ⟨d, rfl, fun hhas => ?_⟩
      obtain ⟨entity, hentity⟩ := Option.isSome_iff_exists.1 (Workspace.has_iff.1 hhas)
      obtain ⟨c, hc, -⟩ := Option.map_eq_some_iff.1 hentity
      rw [Deferred.fire_of_cell hc] at hfire
      obtain ⟨error, herror, rfl⟩ := Option.map_eq_some_iff.1 hfire
      exact ⟨c.entity, error, herror, rfl⟩
    | none =>
      rw [of_cons_of_none hfire] at h ⊢
      obtain ⟨last, hlast, hfailed⟩ := ih h
      refine ⟨last, ?_, fun hhas => hfailed ?_⟩
      · show (d :: (of rest (d.fire w).2.1).events).getLast? = some last
        rw [List.getLast?_cons, hlast]
        rfl
      · unfold Workspace.Has
        rw [d.size_fire]
        exact hhas

/-- What becomes of the entity of a handle: it goes through the events on it, one after the
other. -/
theorem entity?_of (events : List (Deferred E)) (w : Workspace E) (h : Handle) :
    (of events w).workspace.entity? h = (w.entity? h).map fun entity =>
      ((of events w).events.filter fun d => d.handle = h).foldl (fun e d => d.apply e) entity := by
  induction events generalizing w with
  | nil => simp [of, Firing.events]
  | cons d rest ih =>
    cases hfire : (d.fire w).2.2 with
    | some e =>
      rw [of_cons_of_error hfire]
      show (d.fire w).2.1.entity? h = _
      rw [d.entity?_fire]
      by_cases heq : d.handle = h <;> simp [Firing.events, heq]
    | none =>
      rw [of_cons_of_none hfire]
      show (of rest (d.fire w).2.1).workspace.entity? h = _
      rw [ih, d.entity?_fire]
      by_cases heq : d.handle = h <;> simp [Firing.events, heq, Function.comp_def]

/-- The notices of an event that was come to are of interceptors that want to see it, in order; all
of them, if it did not fail. -/
theorem notices_of {events : List (Deferred E)} {w : Workspace E} {d : Deferred E}
    {notices : List Notice} (h : (d, notices) ∈ (of events w).fired) :
    (∀ notice ∈ notices, notice.event = d.event) ∧
      notices.map Notice.interceptor <+: d.type.watchers d.event ∧
      ((of events w).error = none →
        notices.map Notice.interceptor = d.type.watchers d.event) := by
  induction events generalizing w with
  | nil => cases h
  | cons first rest ih =>
    cases hfire : (first.fire w).2.2 with
    | some e =>
      rw [of_cons_of_error hfire] at h ⊢
      obtain ⟨rfl, rfl⟩ := Prod.mk.inj (List.mem_singleton.1 h)
      exact ⟨(d.notices_fire w).1, (d.notices_fire w).2.1, fun hnone => by cases hnone⟩
    | none =>
      rw [of_cons_of_none hfire] at h ⊢
      rcases List.mem_cons.1 h with heq | h
      · obtain ⟨rfl, rfl⟩ := Prod.mk.inj heq
        exact ⟨(d.notices_fire w).1, (d.notices_fire w).2.1, fun _ => (d.notices_fire w).2.2 hfire⟩
      · exact ih h

end Firing

/-! ### The end of a window -/

/-- Firing one event. -/
theorem fire_eq (d : Deferred E) (s : Site σ E) :
    fire d.type d.handle d.event s =
      (match (d.fire s.workspace).2.2 with
        | some e => .error e
        | none => .ok (),
        { s with trace := s.trace ++ (d.fire s.workspace).1.map (.intercepted d.handle)
                 workspace := (d.fire s.workspace).2.1 }) := by
  cases hc : s.workspace.cell? d.handle with
  | none =>
    rw [fire_of_no_cell d.type d.event hc, Deferred.fire_of_no_cell hc]
    simp
  | some c =>
    rw [fire_apply d.type d.event hc, Deferred.fire_of_cell hc]
    cases (d.type.intercept c.entity d.event).2.2 <;> rfl

/-- Firing events one after the other. -/
theorem forM_fire (events : List (Deferred E)) (s : Site σ E) :
    (events.forM fun d => fire d.type d.handle d.event : Op σ E PUnit) s =
      ((Firing.of events s.workspace).answer,
        { s with trace := s.trace ++ (Firing.of events s.workspace).acts
                 workspace := (Firing.of events s.workspace).workspace }) := by
  induction events generalizing s with
  | nil => simp [Firing.of, Firing.answer, Firing.acts]
  | cons d rest ih =>
    rw [forM_cons]
    cases hfire : (d.fire s.workspace).2.2 with
    | some e =>
      have hrun := fire_eq d s
      rw [hfire] at hrun
      rw [bind_of_error hrun, Firing.of_cons_of_error hfire]
      simp [Firing.answer, Firing.acts]
    | none =>
      have hrun := fire_eq d s
      rw [hfire] at hrun
      rw [bind_of_ok hrun, ih, Firing.of_cons_of_none hfire]
      simp [Firing.answer, Firing.acts]

/-- A run that fired nothing, and left the entities and the outbox alone. -/
structure FiresNothing (s t : Site σ E) : Prop where
  trace : ∃ acts, t.trace = s.trace ++ acts ∧ interceptedIn acts = []
  workspace : t.workspace = s.workspace
  outbox : t.outbox = s.outbox

theorem composes_firesNothing : Composes (FiresNothing (σ := σ) (E := E)) where
  refl s := ⟨⟨[], by simp, rfl⟩, rfl, rfl⟩
  trans hst htu := by
    obtain ⟨acts, ht, hacts⟩ := hst.trace
    obtain ⟨more, hu, hmore⟩ := htu.trace
    exact {
      trace := ⟨acts ++ more, by rw [hu, ht, List.append_assoc], by simp [hacts, hmore]⟩
      workspace := htu.workspace.trans hst.workspace
      outbox := htu.outbox.trans hst.outbox }

variable [Session σ]

theorem firesNothing_sendGroup (kind : BatchKind) (requests : List Request) (level : Level) :
    Keeps (FiresNothing (σ := σ) (E := E)) (sendGroup kind requests level) := by
  have hR := composes_firesNothing (σ := σ) (E := E)
  have hrecord (line : LogLine) :
      Keeps (FiresNothing (σ := σ) (E := E)) (record (.logged line)) := fun s =>
    ⟨⟨[.logged line], rfl, rfl⟩, rfl, rfl⟩
  unfold sendGroup
  split
  · refine hR.bind (hrecord _) fun _ => hR.bind (hR.forM fun _ _ => hrecord _) fun _ =>
      hR.bind (hrecord _) fun _ s => ?_
    rw [executeBatch_apply]
    exact ⟨⟨[.sentBatch kind _ level], rfl, rfl⟩, rfl, rfl⟩
  · exact hR.pure _

/-- The end of a window: the events are fired first, and nothing is sent if one fails. -/
structure Batching.Fires (b : Batching σ E) (firing : Firing E)
    (run : Except Stop Unit × Batching σ E) : Prop where
  trace : ∃ rest, run.2.site.trace = b.site.trace ++ (firing.acts ++ rest) ∧
    interceptedIn rest = [] ∧ (firing.error.isSome → rest = [])
  answer {e : Stop} : firing.error = some e → run.1 = .error e
  workspace : run.2.site.workspace = firing.workspace
  outbox : run.2.site.outbox = b.site.outbox.reset b.defaultLevel

theorem Batching.endBatch_fires (b : Batching σ E) :
    b.Fires (.of b.site.outbox.events b.site.workspace) (endBatch b) := by
  -- the outbox is emptied before its events run, so an event that fails leaves nothing of it
  have hfire := forM_fire b.site.outbox.events
    { b.site with outbox := b.site.outbox.reset b.defaultLevel }
  have hrun : endBatch b = onSite (sendAll b.site.outbox)
      { b with site.outbox := b.site.outbox.reset b.defaultLevel } := rfl
  rw [hrun]
  unfold onSite sendAll
  cases herror : (Firing.of b.site.outbox.events b.site.workspace).error with
  | some e =>
    have hanswer : (Firing.of b.site.outbox.events b.site.workspace).answer = .error e := by
      simp [Firing.answer, herror]
    rw [hanswer] at hfire
    rw [bind_of_error hfire]
    refine ⟨⟨[], by simp, rfl, fun _ => rfl⟩, fun h => ?_, rfl, rfl⟩
    rw [Option.some.inj (herror.symm.trans h)]
  | none =>
    have hanswer : (Firing.of b.site.outbox.events b.site.workspace).answer = .ok () := by
      simp [Firing.answer, herror]
    rw [hanswer] at hfire
    rw [bind_of_ok hfire]
    have hgroups := composes_firesNothing.bind
      (firesNothing_sendGroup (σ := σ) (E := E) .logged b.site.outbox.regular b.site.outbox.level)
      fun _ => firesNothing_sendGroup .counter b.site.outbox.counter b.site.outbox.level
    have hsent := hgroups { b.site with
      outbox := b.site.outbox.reset b.defaultLevel
      trace := b.site.trace ++ (Firing.of b.site.outbox.events b.site.workspace).acts
      workspace := (Firing.of b.site.outbox.events b.site.workspace).workspace }
    obtain ⟨rest, htrace, hrest⟩ := hsent.trace
    refine ⟨⟨rest, ?_, hrest, ?_⟩, ?_, hsent.workspace, hsent.outbox⟩
    · rw [← List.append_assoc]
      exact htrace
    · simp [herror]
    · simp [herror]

/-- After a call that resets the window its outbox is empty. -/
theorem WindowCall.outbox_of_resets {call : WindowCall E} (hresets : call.resets = true)
    (b : Batching σ E) : ∃ level, (call.run b).2.site.outbox = b.site.outbox.reset level := by
  rcases call.eq_endBatch_or with rfl | hend
  · exact ⟨b.defaultLevel, b.endBatch_fires.outbox⟩
  · obtain ⟨level, hsite⟩ := call.run_of_resets hresets hend b
    rw [hsite]
    exact ⟨level, rfl⟩

end WideColumn
