import WideColumn.Proofs.Event.Firing
import WideColumn.Proofs.Rejection.Operations

/-!
# What writes put off

Inside a window a write that succeeds puts off its first event and then its last one, both on the
entity that its proxy stands for. A write that fails puts off its first event at most. What lies
between the two events puts off nothing (`SameEvents`), so it is enough to look at both ends of a
write (`Closes`).
-/

namespace WideColumn

open Op

variable {σ E : Type}

/-- The events of a list that somebody watches, put off on the entity of a handle. -/
def EntityType.deferring (T : EntityType E) (h : Handle) (events : List Event) :
    List (Deferred E) :=
  (events.filter T.hasInterceptor).map fun event => ⟨T, h, event⟩

theorem EntityType.deferring_append (T : EntityType E) (h : Handle) (events more : List Event) :
    T.deferring h (events ++ more) = T.deferring h events ++ T.deferring h more := by
  unfold deferring
  rw [List.filter_append, List.map_append]

/-! ### Steps that put nothing off -/

/-- Inside a window nothing was put off. -/
def SameEvents (s t : Site σ E) : Prop :=
  s.outbox.mode = .batching → t.outbox.mode = .batching ∧ t.outbox.events = s.outbox.events

theorem SameEvents.of_outbox {s t : Site σ E} (h : t.outbox = s.outbox) : SameEvents s t := by
  intro hmode
  rw [h]
  exact ⟨hmode, rfl⟩

theorem composes_sameEvents : Composes (SameEvents (σ := σ) (E := E)) where
  refl s := .of_outbox rfl
  trans hst htu hmode := by
    obtain ⟨hmode, hevents⟩ := hst hmode
    obtain ⟨hmode', hevents'⟩ := htu hmode
    exact ⟨hmode', hevents'.trans hevents⟩

theorem sameEvents_cell (h : Handle) : Keeps (SameEvents (σ := σ) (E := E)) (cell h) := by
  intro s
  rw [cell_apply]
  split <;> exact composes_sameEvents.refl s

/-- The interceptors that follow a read run at once. -/
theorem sameEvents_postLoad (T : EntityType E) (h : Handle) :
    Keeps (SameEvents (σ := σ)) (trigger T h .postLoad) := by
  intro s
  cases hwatched : T.hasInterceptor .postLoad with
  | false =>
    rw [trigger_unwatched T h _ s hwatched]
    exact composes_sameEvents.refl s
  | true =>
    rw [trigger_postLoad h hwatched]
    exact .of_outbox (looksOn_fire T h _ s).outbox

variable [Session σ]

theorem sameEvents_handOver (kind : BatchKind) (r : Request) :
    Keeps (SameEvents (σ := σ) (E := E)) (handOver kind r) := by
  intro s hmode
  rw [handOver_batching kind r hmode]
  exact ⟨(Outbox.mode_keeping _ _ _).trans hmode, Outbox.events_keeping _ _ _⟩

theorem sameEvents_executeRequest (r : Request) :
    Keeps (SameEvents (σ := σ) (E := E)) (executeRequest r) := by
  intro s
  rw [executeRequest_apply]
  exact .of_outbox rfl

theorem writes_sameEvents :
    UpholdsWrites (fun _ => True) (SameEvents (σ := σ) (E := E)) fun _ _ => True where
  toComposes := composes_sameEvents
  assuming himp := himp trivial
  push _ := sameEvents_handOver .logged _
  pushCounter _ := sameEvents_handOver .counter _
  modifyCell _ _ _ _ _ _ := .of_outbox rfl

theorem sameEvents_bindUpdate (T : EntityType E) (em : EntityMeta) (entity : E)
    (properties : List PropertyMeta) (options : Options) (level : Level) :
    Keeps (SameEvents (σ := σ)) (bindUpdate T em entity properties options level) := fun s =>
  .of_outbox (prepares_bindUpdate T em entity properties options level s).outbox

namespace Call

theorem sameEvents_insertRow (c : Call E) (h : Handle) :
    Keeps (SameEvents (σ := σ)) (c.insertRow h) := by
  have hR := composes_sameEvents (σ := σ) (E := E)
  unfold insertRow
  split
  · exact hR.pure _
  · exact hR.cell_bind fun _ => keeps_get_bind fun _ => hR.lift_bind fun _ _ =>
      hR.bind (sameEvents_handOver .logged _) fun _ => hR.pure _

theorem sameEvents_find (c : Call E) (key : List Value) :
    Keeps (SameEvents (σ := σ)) (c.find key) := by
  have hR := composes_sameEvents (σ := σ) (E := E)
  intro s
  rw [find_apply]
  refine hR.lift_bind_at fun request _ => ?_
  refine hR.bind (sameEvents_executeRequest request) (fun rows => ?_) s
  unfold receivedProxy
  split
  · exact hR.pure _
  · exact hR.lift_bind fun _ _ => hR.bind (fun _ => .of_outbox rfl) fun _ =>
      hR.bind (sameEvents_postLoad _ _) fun _ => fun _ => .of_outbox rfl

theorem sameEvents_refresh (c : Call E) (p : Proxy) :
    Keeps (SameEvents (σ := σ)) (c.refresh p) := by
  have hR := composes_sameEvents (σ := σ) (E := E)
  have hload : Keeps (SameEvents (σ := σ)) (c.load p.key) := by
    intro s
    rw [load_apply]
    refine hR.lift_bind_at fun request _ => ?_
    refine hR.bind (sameEvents_executeRequest request) (fun rows => ?_) s
    unfold received
    split
    · exact hR.pure _
    · exact hR.lift_bind fun _ _ => hR.bind (fun _ => .of_outbox rfl) fun _ =>
        hR.bind (sameEvents_postLoad _ _) fun _ => hR.pure _
  refine hR.bind hload fun found => ?_
  split
  · exact hR.pure _
  · exact hR.cell_bind fun _ _ => .of_outbox rfl

omit [Session σ] in
theorem sameEvents_proxyOfKey (c : Call E) (key : List Value) :
    Keeps (SameEvents (σ := σ)) (c.proxyOfKey key) := by
  have hR := composes_sameEvents (σ := σ) (E := E)
  exact hR.lift_bind fun _ _ => hR.lift_bind fun _ _ => fun _ => .of_outbox rfl

end Call

/-! ### Writes -/

/-- A write puts off its last event when it succeeds, and nothing when it fails. -/
def Closes {α : Type} (T : EntityType E) (h : Handle) (event : Event) (op : Op σ E α) : Prop :=
  ∀ s, s.outbox.mode = .batching → (op s).2.outbox.mode = .batching ∧
    (op s).2.outbox.events =
      s.outbox.events ++ T.deferring h (if (op s).1.isOk then [event] else [])

/-- The site after events were put off. -/
def Site.deferring (s : Site σ E) (events : List (Deferred E)) : Site σ E :=
  { s with outbox := { s.outbox with events := s.outbox.events ++ events } }

omit [Session σ] in
/-- Inside a window an event is put off if somebody watches it. -/
theorem trigger_deferring {T : EntityType E} (h : Handle) {event : Event} {s : Site σ E}
    (hload : event ≠ .postLoad) (hmode : s.outbox.mode = .batching) :
    trigger T h event s = (.ok (), s.deferring (T.deferring h [event])) := by
  cases hwatched : T.hasInterceptor event with
  | false =>
    have hnone : T.deferring h [event] = [] := by simp [EntityType.deferring, hwatched]
    rw [trigger_unwatched T h event s hwatched, hnone]
    simp [Site.deferring]
  | true =>
    have hone : T.deferring h [event] = [⟨T, h, event⟩] := by
      simp [EntityType.deferring, hwatched]
    rw [trigger_batching h hwatched hload hmode, hone]
    rfl

omit [Session σ] in
theorem Closes.bind {α β : Type} {T : EntityType E} {h : Handle} {event : Event} {x : Op σ E α}
    {f : α → Op σ E β} (hx : Keeps SameEvents x) (hf : ∀ a, Closes T h event (f a)) :
    Closes T h event (x >>= f) := by
  intro s hmode
  have hfirst := hx s hmode
  rcases hrun : x s with ⟨_ | a, t⟩
  · rw [hrun] at hfirst
    rw [bind_of_error hrun]
    refine ⟨hfirst.1, ?_⟩
    rw [hfirst.2]
    simp [EntityType.deferring, Except.isOk, Except.toBool]
  · rw [hrun] at hfirst
    rw [bind_of_ok hrun, ← hfirst.2]
    exact hf a t hfirst.1

omit [Session σ] in
/-- The last event of a write, before what cannot fail any more. -/
theorem closes_trigger {α : Type} {T : EntityType E} (h : Handle) {event : Event}
    (hload : event ≠ .postLoad) {last : Op σ E α}
    (hlast : ∀ s, (last s).1.isOk = true ∧ (last s).2.outbox = s.outbox) :
    Closes T h event (trigger T h event >>= fun _ => last) := by
  intro s hmode
  rw [bind_of_ok (trigger_deferring h hload hmode)]
  obtain ⟨hok, houtbox⟩ := hlast (s.deferring (T.deferring h [event]))
  rw [houtbox, hok, if_pos rfl]
  exact ⟨hmode, rfl⟩

omit [Session σ] in
/-- A write puts off its first event, and its last one when it succeeds. -/
theorem Closes.events {α : Type} {T : EntityType E} {h : Handle} {first last : Event}
    {rest : Op σ E α} (hrest : Closes T h last rest) (hload : first ≠ .postLoad) {s : Site σ E}
    (hmode : s.outbox.mode = .batching) {run : Except Stop α × Site σ E}
    (hrun : run = (trigger T h first >>= fun _ => rest) s) :
    run.2.outbox.events =
      s.outbox.events ++ T.deferring h (first :: if run.1.isOk then [last] else []) := by
  rw [bind_of_ok (trigger_deferring h hload hmode)] at hrun
  have hevents := (hrest (s.deferring (T.deferring h [first])) hmode).2
  have hsplit : T.deferring h (first :: if run.1.isOk then [last] else []) =
      T.deferring h [first] ++ T.deferring h (if run.1.isOk then [last] else []) :=
    T.deferring_append h [first] _
  rw [← hrun] at hevents
  rw [hevents, hsplit, ← List.append_assoc]
  rfl

/-- What a write puts off: both events when it succeeds, and the first one at most when it
fails. -/
def EntityType.PutsOff {α : Type} (T : EntityType E) (h : Handle) (first last : Event)
    (answer : Except Stop α) (events : List (Deferred E)) : Prop :=
  match answer with
  | .ok _ => events = T.deferring h [first, last]
  | .error _ => events = [] ∨ events = T.deferring h [first]

theorem EntityType.PutsOff.mem {α : Type} {T : EntityType E} {h : Handle} {first last : Event}
    {answer : Except Stop α} {events : List (Deferred E)}
    (hputs : T.PutsOff h first last answer events) {d : Deferred E} (hd : d ∈ events) :
    d.handle = h ∧ (d.event = first ∨ d.event = last) := by
  have hdeferring {watched : List Event} (hd : d ∈ T.deferring h watched) :
      d.handle = h ∧ d.event ∈ watched := by
    obtain ⟨event, hevent, rfl⟩ := List.mem_map.1 hd
    exact ⟨rfl, (List.mem_filter.1 hevent).1⟩
  cases answer with
  | ok a =>
    obtain ⟨hh, hevent⟩ := hdeferring (hputs ▸ hd)
    exact ⟨hh, by simpa using hevent⟩
  | error e =>
    rcases hputs with rfl | rfl
    · cases hd
    · obtain ⟨hh, hevent⟩ := hdeferring hd
      exact ⟨hh, .inl (List.mem_singleton.1 hevent)⟩

theorem EntityType.PutsOff.ne_postLoad {α : Type} {T : EntityType E} {h : Handle}
    {first last : Event} {answer : Except Stop α} {events : List (Deferred E)}
    (hputs : T.PutsOff h first last answer events) (hfirst : first ≠ .postLoad)
    (hlast : last ≠ .postLoad) {d : Deferred E} (hd : d ∈ events) : d.event ≠ .postLoad := by
  rcases (hputs.mem hd).2 with heq | heq <;> rw [heq] <;> assumption

theorem EntityType.putsOff_of_isOk {α : Type} (T : EntityType E) (h : Handle) (first last : Event)
    (answer : Except Stop α) :
    T.PutsOff h first last answer
      (T.deferring h (first :: if answer.isOk then [last] else [])) := by
  cases answer with
  | error e => exact .inr rfl
  | ok a => rfl

namespace Call

variable {s : Site σ E} (hmode : s.outbox.mode = .batching) (c : Call E)
include hmode

theorem events_persist (entity : E) :
    (c.persist entity s).2.outbox.events = s.outbox.events ++
      c.type.deferring s.workspace.fresh
        (.prePersist :: if (c.persist entity s).1.isOk then [.postPersist] else []) := by
  have hrest (h : Handle) : Closes c.type h .postPersist (c.persistRest h : Op σ E Proxy) :=
    .bind (sameEvents_cell h) fun _ => .bind (c.sameEvents_insertRow h) fun _ =>
      .bind (c.upholds_writeCounters writes_sameEvents c.writesOn_true h _) fun _ =>
        closes_trigger h (by decide) fun _ => ⟨rfl, rfl⟩
  have hadding : (s.adding entity).outbox.mode = .batching := hmode
  exact (hrest _).events (by decide) hadding (c.persist_apply entity s)

theorem events_update (p : Proxy) :
    (c.update p s).2.outbox.events = s.outbox.events ++
      c.type.deferring p.handle
        (.preUpdate :: if (c.update p s).1.isOk then [.postUpdate] else []) := by
  have hrest : Closes c.type p.handle .postUpdate
      (c.writeDirty p >>= fun _ => c.updateRest p : Op σ E Unit) :=
    .bind (c.upholds_writeDirty writes_sameEvents (fun _ _ _ _ _ _ _ _ => trivial)
        fun _ _ => sameEvents_bindUpdate _ _ _ _ _ _) fun _ =>
      .bind (c.upholds_writeCounters writes_sameEvents c.writesOn_true _ _) fun _ =>
        closes_trigger _ (by decide) fun _ => ⟨rfl, rfl⟩
  exact hrest.events (by decide) hmode (c.update_apply p s)

theorem events_remove (entity : E) :
    (c.remove entity s).2.outbox.events = s.outbox.events ++
      c.type.deferring s.workspace.fresh
        (.preRemove :: if (c.remove entity s).1.isOk then [.postRemove] else []) := by
  have hrest (h : Handle) : Closes c.type h .postRemove (c.removeRest h : Op σ E Unit) := by
    refine .bind (sameEvents_cell h) fun _ =>
      .bind (c.upholds_removeByKey writes_sameEvents c.writesOn_true _) fun _ => ?_
    have hlast : Closes c.type h .postRemove
        (trigger c.type h .postRemove >>= fun _ => pure () : Op σ E Unit) :=
      closes_trigger h (by decide) fun _ => ⟨rfl, rfl⟩
    rwa [bind_pure] at hlast
  have hadding : (s.adding entity).outbox.mode = .batching := hmode
  exact (hrest _).events (by decide) hadding (c.remove_apply entity s)

omit hmode in
/-- The proxy of a new entity stands for the entity on which the events were put off. -/
theorem handle_of_persist {entity : E} {p : Proxy} {t : Site σ E}
    (h : c.persist entity s = (.ok p, t)) : p.handle = s.workspace.fresh := by
  rw [persist_apply] at h
  obtain ⟨-, s₁, -, h⟩ := bind_eq_ok h
  obtain ⟨cell, s₂, -, h⟩ := bind_eq_ok h
  obtain ⟨-, s₃, -, h⟩ := bind_eq_ok h
  obtain ⟨-, s₄, -, h⟩ := bind_eq_ok h
  obtain ⟨-, s₅, -, h⟩ := bind_eq_ok h
  obtain ⟨hp, -⟩ := Prod.mk.inj h
  rw [← Except.ok.inj hp]
  rfl

end Call

end WideColumn
