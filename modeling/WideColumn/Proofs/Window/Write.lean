import WideColumn.Proofs.Window.Run

/-!
# Writes and reads of entities

The operations on entities of one class as data, and how they run: at once, with an outbox of their
own, or inside a window, with the outbox of the site. A window adds a timestamp to the options of a
write and refuses options with a level.
-/

namespace WideColumn

open Op

variable {σ E : Type}

/-- The answer of an operation may be changed before or after it is run at once. -/
theorem immediately_bind_pure {α β : Type} (op : Op σ E α) (f : α → β) :
    (Manager.immediately op >>= fun a => pure (f a)) =
      Manager.immediately (op >>= fun a => pure (f a)) := by
  funext s
  rw [bind_pure_apply, Manager.immediately_apply, Manager.immediately_apply, bind_pure_apply]

theorem onSite_bind_pure {α β : Type} (op : Op σ E α) (f : α → β) :
    (Batching.onSite op >>= fun a => pure (f a)) =
      Batching.onSite (op >>= fun a => pure (f a)) := by
  funext b
  rw [bind_pure_apply]
  unfold Batching.onSite
  rw [bind_pure_apply]
  rfl

/-- The options of a write inside a window: with a timestamp, otherwise as they were. -/
structure Options.Stamped (options options' : Options) : Prop where
  level : options'.level = options.level
  ttl : options'.ttl = options.ttl
  timestamp : options'.timestamp.isSome = true

theorem Batching.stamped_options (now : Int) (options : Options) (b : Batching σ E) :
    ∃ options' last, stamped now options b = (.ok options', { b with lastTimestamp := last }) ∧
      options.Stamped options' := by
  unfold stamped
  split
  · next hsome => exact ⟨options, b.lastTimestamp, rfl, rfl, rfl, hsome⟩
  · exact ⟨_, _, rfl, rfl, rfl, rfl⟩

/-- A write with a timestamp is a write of the site. -/
theorem Batching.stamped_bind_options {α : Type} (now : Int) (options : Options)
    (op : Options → Op σ E α) (b : Batching σ E) :
    ∃ options' last, options.Stamped options' ∧
      (stamped now options >>= fun o => onSite (op o)) b =
        ((op options' b.site).1,
          { b with site := (op options' b.site).2, lastTimestamp := last }) := by
  obtain ⟨options', last, hrun, hoptions⟩ := stamped_options now options b
  exact ⟨options', last, hoptions, by rw [bind_of_ok hrun]; rfl⟩

/-- A write of an entity. -/
inductive Write (E : Type) where
  | persist (entity : Tracked E)
  | update (p : Proxy)
  | remove (entity : Tracked E)
  | removeById (key : List Value)

namespace Write

/-- The write as a call of the manager. -/
def atOnce (T : EntityType E) (options : Options) : Write E → ManagerCall E
  | persist entity => .persist T entity options
  | update p => .update T p options
  | remove entity => .remove T entity options
  | removeById key => .removeById T key options

/-- The write as a call of a manager with windows. A delete by key takes no options there. -/
def inWindow (now : Int) (T : EntityType E) (options : Options) : Write E → WindowCall E
  | persist entity => .persist now T entity options
  | update p => .update now T p options
  | remove entity => .remove now T entity options
  | removeById key => .removeById now T key

variable [Session σ]

/-- The write with the outbox of the site. -/
def runIn (T : EntityType E) (options : Options) : Write E → Op σ E Unit
  | persist entity => do let _ ← Manager.persistIn T entity options
  | update p => Manager.updateIn T p options
  | remove entity => Manager.removeIn T entity options
  | removeById key => Manager.removeByIdIn T key options

theorem run_atOnce (w : Write E) (T : EntityType E) (options : Options) (s : Site σ E) :
    (w.atOnce T options).run s =
      ((w.runIn T options (Manager.atOnce s)).1,
        { (w.runIn T options (Manager.atOnce s)).2 with outbox := s.outbox }) := by
  cases w with
  | persist entity => exact congrFun (immediately_bind_pure _ _) s
  | update p => rfl
  | remove entity => rfl
  | removeById key => rfl

/-- A write with the options that it has in a window. -/
def windowOptions (options : Options) : Write E → Options
  | removeById _ => .none
  | _ => options

/-- In a window a write is refused for its level, or it takes a timestamp and is a write of the
site. -/
theorem run_inWindow_eq (w : Write E) (now : Int) (T : EntityType E) (options : Options) :
    ((w.inWindow now T options).run : BatchOp σ E Unit) =
      (Batching.rejectLevel (w.windowOptions options) >>= fun _ =>
        Batching.stamped now (w.windowOptions options) >>= fun o =>
          Batching.onSite (w.runIn T o)) := by
  cases w with
  | persist entity =>
    show (do let _ ← Batching.persist now T entity options : BatchOp σ E Unit) = _
    unfold Batching.persist runIn
    simp only [bind_assoc, onSite_bind_pure]
    rfl
  | update p => rfl
  | remove entity => rfl
  | removeById key =>
    funext b
    show _ = (Batching.rejectLevel .none >>= fun _ => Batching.removeById now T key) b
    rw [Batching.rejectLevel_bind_of_no_level rfl]
    rfl

/-- In a window a write is refused for its level, which gives up the window, or it is a write of the
site with a timestamp. -/
theorem run_inWindow_cases (w : Write E) (now : Int) (T : EntityType E) (options : Options)
    (b : Batching σ E) :
    ((w.windowOptions options).hasLevel = true ∧ (w.inWindow now T options).run b =
        (.error (.failed Levels.batchConflict),
          { b with site.outbox := b.site.outbox.reset b.defaultLevel })) ∨
      (w.windowOptions options).hasLevel = false ∧
      ∃ options' last, (w.windowOptions options).Stamped options' ∧
        (w.inWindow now T options).run b = ((w.runIn T options' b.site).1,
          { b with site := (w.runIn T options' b.site).2, lastTimestamp := last }) := by
  rw [run_inWindow_eq]
  cases hlevel : (w.windowOptions options).hasLevel with
  | true => exact .inl ⟨rfl, Batching.rejectLevel_bind_of_level hlevel _ b⟩
  | false =>
    rw [Batching.rejectLevel_bind_of_no_level hlevel]
    exact .inr ⟨rfl, Batching.stamped_bind_options now _ (w.runIn T) b⟩

/-- In a window a write is refused for its level, or it is a write of the site. -/
theorem run_inWindow (w : Write E) (now : Int) (T : EntityType E) (options : Options)
    (b : Batching σ E) :
    ((w.inWindow now T options).run b).1 = .error (.failed Levels.batchConflict) ∨
      ∃ options' last, (w.inWindow now T options).run b = ((w.runIn T options' b.site).1,
        { b with site := (w.runIn T options' b.site).2, lastTimestamp := last }) := by
  rcases w.run_inWindow_cases now T options b with ⟨-, hrun⟩ | ⟨-, options', last, -, hrun⟩
  · exact .inl (by rw [hrun])
  · exact .inr ⟨options', last, hrun⟩

/-- With an immediate outbox nothing is collected. -/
def KeepsOutbox (s t : Site σ E) : Prop := s.outbox.mode = .immediate → t.outbox = s.outbox

omit [Session σ] in
theorem composes_keepsOutbox : Composes (KeepsOutbox (σ := σ) (E := E)) where
  refl _ _ := rfl
  trans hst htu hmode := by
    have hfirst := hst hmode
    rw [htu (by rw [hfirst, hmode]), hfirst]

theorem keepsOutbox_handOver (kind : BatchKind) (r : Request) :
    Keeps (KeepsOutbox (σ := σ) (E := E)) (handOver kind r) := by
  intro s hmode
  rw [handOver_immediate kind r hmode]
  rfl

theorem admits_keepsOutbox : Admits (KeepsOutbox (σ := σ) (E := E)) fun _ _ => True where
  toComposes := composes_keepsOutbox
  push _ := keepsOutbox_handOver .logged _
  pushCounter _ := keepsOutbox_handOver .counter _
  trigger T h event := fun s hmode => by
    rcases trigger_cases T h event s with ⟨-, hrun⟩ | hrun | ⟨hbatching, -⟩
    · rw [hrun]
    · rw [hrun]
      cases hc : s.workspace.cell? h with
      | none => rw [fire_of_no_cell T event hc]
      | some c =>
        rw [fire_apply T event hc]
        rfl
    · rw [hmode] at hbatching
      cases hbatching
  addEntity _ _ _ := rfl
  modifyCell _ _ _ _ _ := rfl

theorem keepsOutbox_runIn (w : Write E) (T : EntityType E) (options : Options) :
    Keeps (KeepsOutbox (σ := σ)) (w.runIn T options) := by
  have hR := admits_keepsOutbox (σ := σ) (E := E)
  cases w with
  | persist entity =>
    refine hR.bind (fun s => ?_) fun _ => hR.pure _
    exact Manager.persistIn_at hR.toComposes fun c e _ _ => c.keeps_persist hR c.writes_true e s
  | update p =>
    intro s
    exact Manager.call_bind_at hR.toComposes fun c _ => c.keeps_update hR c.writes_true
      (fun _ _ s _ => (prepares_bindUpdate _ _ _ _ _ _ s).outbox) p s
  | remove entity =>
    intro s
    exact Manager.removeIn_at hR.toComposes fun c e _ => c.keeps_remove hR c.writes_true e s
  | removeById key =>
    intro s
    exact Manager.call_bind_at hR.toComposes fun c _ => c.keeps_removeByKey hR c.writes_true key s

end Write

/-! ### Writes and reads -/

/-- A call on entities of one class: a write, or a read of a row, of a key or of what is missing on
a proxy. -/
inductive EntityCall (E : Type) where
  | write (w : Write E) (options : Options)
  | find (key : List Value) (options : Options)
  | getProxy (key : List Value) (options : Options)
  | refresh (p : Proxy) (options : Options)
  | complete (p : Proxy)

namespace EntityCall

/-- The call of the manager. -/
def atOnce (T : EntityType E) : EntityCall E → ManagerCall E
  | write w options => w.atOnce T options
  | find key options => .find T key options
  | getProxy key options => .getProxy T key options
  | refresh p options => .refresh T p options
  | complete p => .complete T p

variable [Session σ]

/-- The call with the outbox of the site. What is missing on a proxy is always read at once. -/
def runIn (T : EntityType E) : EntityCall E → Op σ E Unit
  | write w options => w.runIn T options
  | find key options => do let _ ← Manager.findIn T key options
  | getProxy key options => do let _ ← Manager.getProxyIn T key options
  | refresh p options => do let _ ← Manager.refreshIn T p options
  | complete p => Manager.complete T p

/-- The call of a manager with windows. -/
def runInWindow (now : Int) (T : EntityType E) : EntityCall E → BatchOp σ E Unit
  | write w options => (w.inWindow now T options).run
  | find key options => (WindowCall.find T key options).run
  | getProxy key options => (WindowCall.getProxy T key options).run
  | refresh p options => (WindowCall.refresh T p options).run
  | complete p => Batching.complete T p

/-- The call with other options. -/
def withOptions (options : Options) : EntityCall E → EntityCall E
  | write w _ => write w options
  | find key _ => find key options
  | getProxy key _ => getProxy key options
  | refresh p _ => refresh p options
  | complete p => complete p

/-- Reading what is missing on a proxy runs at once, whatever the outbox of the site. -/
theorem complete_atOnce (T : EntityType E) (p : Proxy) (s : Site σ E) :
    Manager.complete T p s = ((Manager.complete T p (Manager.atOnce s)).1,
      { (Manager.complete T p (Manager.atOnce s)).2 with outbox := s.outbox }) := by
  have htypes : (Manager.atOnce s).types = s.types := rfl
  have hworkspace : (Manager.atOnce s).workspace = s.workspace := rfl
  unfold Manager.complete
  rw [bind_apply, bind_apply, Manager.entityMeta_apply, Manager.entityMeta_apply, htypes]
  cases s.types.lookup T.typeName with
  | none => rfl
  | some em =>
    dsimp only
    rw [bind_apply, bind_apply, cell_apply, cell_apply, hworkspace]
    cases s.workspace.cell? p.handle <;> rfl

/-- At once a call is a call with an outbox of its own. -/
theorem run_atOnce (call : EntityCall E) (T : EntityType E) (s : Site σ E) :
    (call.atOnce T).run s = ((call.runIn T (Manager.atOnce s)).1,
      { (call.runIn T (Manager.atOnce s)).2 with outbox := s.outbox }) := by
  cases call with
  | write w options => exact w.run_atOnce T options s
  | find key options => exact congrFun (immediately_bind_pure _ _) s
  | getProxy key options => exact congrFun (immediately_bind_pure _ _) s
  | refresh p options => exact congrFun (immediately_bind_pure _ _) s
  | complete p => exact complete_atOnce T p s

omit [Session σ] in
/-- A read in a window that is refused for its level, which gives up the window, or is a read of the
site. -/
theorem read_inWindow {α : Type} (options : Options) (op : Op σ E α) (b : Batching σ E) :
    ((do
        let _ ← (Batching.rejectLevel options >>= fun _ => Batching.onSite op) :
          BatchOp σ E Unit) b).2 =
      if options.hasLevel then { b with site.outbox := b.site.outbox.reset b.defaultLevel }
      else { b with site := ((do let _ ← op : Op σ E Unit) b.site).2 } := by
  rw [discard_apply, discard_apply]
  cases hlevel : options.hasLevel with
  | true =>
    rw [Batching.rejectLevel_bind_of_level hlevel]
    rfl
  | false =>
    rw [Batching.rejectLevel_bind_of_no_level hlevel]
    rfl

/-- In a window a call is refused for its level, or it is a call of the site. -/
theorem runInWindow_cases (call : EntityCall E) (now : Int) (T : EntityType E)
    (b : Batching σ E) :
    (∃ outbox, (call.runInWindow now T b).2 = { b with site.outbox := outbox }) ∨
      ∃ options last, (call.runInWindow now T b).2 =
        { b with site := ((call.withOptions options).runIn T b.site).2, lastTimestamp := last } := by
  cases call with
  | write w options =>
    rcases w.run_inWindow_cases now T options b with ⟨-, hrun⟩ | ⟨-, options', last, -, hrun⟩
    · exact .inl ⟨_, congrArg Prod.snd hrun⟩
    · exact .inr ⟨options', last, congrArg Prod.snd hrun⟩
  | find key options =>
    have hrun := read_inWindow options (Manager.findIn T key options) b
    split at hrun
    · exact .inl ⟨_, hrun⟩
    · exact .inr ⟨options, b.lastTimestamp, hrun⟩
  | getProxy key options =>
    have hrun := read_inWindow options (Manager.getProxyIn T key options) b
    split at hrun
    · exact .inl ⟨_, hrun⟩
    · exact .inr ⟨options, b.lastTimestamp, hrun⟩
  | refresh p options =>
    have hrun : ((WindowCall.refresh T p options).run b).2 =
        (Batching.refresh T p options b).2 := discard_apply _ b
    unfold runInWindow Batching.refresh at *
    rw [hrun]
    split
    · exact .inl ⟨b.site.outbox, rfl⟩
    · refine .inr ⟨options, b.lastTimestamp, ?_⟩
      show { b with site := (Manager.refreshIn T p options b.site).2 } = _
      unfold withOptions runIn
      dsimp only
      rw [discard_apply]
  | complete p => exact .inr ⟨.none, b.lastTimestamp, rfl⟩

/-- What a relation asks of the requests that a call on entities binds. -/
def Upheld (I : Site σ E → Prop) (F : Handle → Prop) (R : Site σ E → Site σ E → Prop)
    (W : BatchKind → Request → Prop) (Q : Request → Prop) (T : EntityType E) (s : Site σ E) :
    EntityCall E → Prop
  | write (.update p) options => ∀ c, Manager.IsCall T options s c → F p.handle ∧
      c.WritesOn I W ∧ c.UpdatesOn I p W ∧ ∀ entity properties, Keeps R
        (bindUpdate c.type c.entityMeta entity properties c.options
          (Levels.write c.options c.entityMeta))
  | write _ options => ∀ c, Manager.IsCall T options s c → c.WritesOn I W
  | find _ options | refresh _ options => ∀ c, Manager.IsCall T options s c → c.RowsOn I Q
  | getProxy _ _ => True
  | complete p => ∀ c cell, s.workspace.cell? p.handle = some cell →
      Manager.IsCall T cell.options (Manager.atOnce s) c → c.FieldsOn I Q

/-- A call on entities keeps a relation, given what its requests have and what running at once adds
to the relation. -/
theorem upholds_runIn {I : Site σ E → Prop} {F : Handle → Prop} {R : Site σ E → Site σ E → Prop}
    {W : BatchKind → Request → Prop} {Q : Request → Prop} (hR : Upholds I F R W Q)
    (himmediately : ∀ {op : Op σ E Unit} {s : Site σ E},
      R (Manager.atOnce s) (op (Manager.atOnce s)).2 → R s (Manager.immediately op s).2)
    {call : EntityCall E} {T : EntityType E} {s : Site σ E} (h : call.Upheld I F R W Q T s) :
    R s (call.runIn T s).2 := by
  have hrows {c : Call E} (hc : c.RowsOn I Q) (key : List Value) (t : Site σ E) (r : Request)
      (hr : c.readRequest t.registry key = .ok r) : R t (executeRequest r t).2 :=
    hR.assuming fun hI => hR.execute (hc hI hr) t
  have discard {α : Type} {op : Op σ E α} (h : R s (op s).2) :
      R s ((do let _ ← op : Op σ E Unit) s).2 := by rwa [discard_apply]
  cases call with
  | write w options =>
    cases w with
    | persist entity =>
      exact discard (Manager.persistIn_at hR.toComposes fun c e _ hc =>
        c.upholds_persist hR (h c hc) e s)
    | update p =>
      refine Manager.call_bind_at hR.toComposes fun c hc => ?_
      obtain ⟨hF, hwrites, hupdate, hbind⟩ := h c hc
      exact c.upholds_update hR hwrites hupdate hbind hF s
    | remove entity =>
      exact Manager.removeIn_at hR.toComposes fun c e hc => c.upholds_remove hR (h c hc) e s
    | removeById key =>
      exact Manager.call_bind_at hR.toComposes fun c hc =>
        c.upholds_removeByKey hR.writes (h c hc) key s
  | find key options =>
    exact discard (Manager.call_bind_at hR.toComposes fun c hc =>
      c.upholds_find hR key (hrows (h c hc) key) s)
  | getProxy key options =>
    exact discard (Manager.call_bind_at hR.toComposes fun c _ => c.upholds_proxyOfKey hR key s)
  | refresh p options =>
    exact discard (Manager.call_bind_at hR.toComposes fun c hc => c.upholds_refresh hR p
      (c.upholds_load hR p.key (hrows (h c hc) p.key)) s)
  | complete p =>
    refine Manager.complete_at hR.toComposes fun em cell hem hcell => himmediately ?_
    have hcall : Manager.IsCall T cell.options (Manager.atOnce s)
        (Manager.callOf T em cell.options) := ⟨rfl, hem, rfl, rfl⟩
    exact Call.upholds_complete hR _ (h _ cell hcell hcall) p _

end EntityCall

/-- A call of a manager with windows that does not reset the window is a call on entities. -/
theorem WindowCall.run_eq_of_not_resets [Session σ] {call : WindowCall E}
    (h : call.resets = false) : ∃ (now : Int) (T : EntityType E) (entityCall : EntityCall E),
      (call.run : BatchOp σ E Unit) = entityCall.runInWindow now T := by
  cases call with
  | startBatch => cases h
  | startBatchAt level => cases h
  | endBatch => cases h
  | cleanBatch => cases h
  | persist now T entity options => exact ⟨now, T, .write (.persist entity) options, rfl⟩
  | update now T p options => exact ⟨now, T, .write (.update p) options, rfl⟩
  | remove now T entity options => exact ⟨now, T, .write (.remove entity) options, rfl⟩
  | removeById now T key => exact ⟨now, T, .write (.removeById key) .none, rfl⟩
  | find T key options => exact ⟨0, T, .find key options, rfl⟩
  | getProxy T key options => exact ⟨0, T, .getProxy key options, rfl⟩
  | refresh T p options => exact ⟨0, T, .refresh p options, rfl⟩

end WideColumn
