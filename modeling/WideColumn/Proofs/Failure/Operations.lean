import WideColumn.Proofs.Failure.Run
import WideColumn.Proofs.Operation.Keeps
import WideColumn.Proofs.Reachable

/-!
# Every operation halts

No operation handles a refusal of the session: each is a sequence of steps that halt. So every call
of a manager, with windows or without, halts (`ManagerCall.halts_run`, `WindowCall.halts_run`).
-/

namespace WideColumn

open Op

variable {σ E α : Type} [Session σ] {R : σ → σ → Prop}

namespace Halts

/-! ### Steps -/

/-- A change of the site that leaves the trace and the session alone. -/
theorem of_modify {op : Op σ E α} {answer : Site σ E → Except Stop α}
    {f : Site σ E → Site σ E} (hop : ∀ s, op s = (answer s, f s))
    (htrace : ∀ s, (f s).trace = s.trace) (hsession : ∀ s, (f s).session = s.session)
    (hanswer : ∀ s y, answer { s with session := y } = answer s)
    (hblind : ∀ s y, f { s with session := y } = { f s with session := y }) : Halts R op := by
  refine of_silent (fun _ => []) (fun s => ?_) (fun s => ?_) (fun _ _ hact => nomatch hact)
    fun s y => ?_
  · rw [hop, List.append_nil]
    exact htrace s
  · rw [hop]
    exact hsession s
  · rw [hop, hop]
    exact Prod.ext (hanswer s y) (hblind s y)

theorem modifyCell (h : Handle) (f : Cell E → Cell E) :
    Halts R (Op.modifyCell h f : Op σ E Unit) :=
  of_modify (modifyCell_apply h f) (fun _ => rfl) (fun _ => rfl) (fun _ _ => rfl) fun _ _ => rfl

theorem modifyOutbox (f : Outbox E → Outbox E) : Halts R (Op.modifyOutbox f : Op σ E Unit) :=
  of_modify (modifyOutbox_apply f) (fun _ => rfl) (fun _ => rfl) (fun _ _ => rfl) fun _ _ => rfl

theorem modifyRegistry (f : Registry → Registry) :
    Halts R (Op.modifyRegistry f : Op σ E Unit) :=
  of_modify (modifyRegistry_apply f) (fun _ => rfl) (fun _ => rfl) (fun _ _ => rfl) fun _ _ => rfl

theorem addEntity (entity : E) : Halts R (Op.addEntity entity : Op σ E Handle) :=
  of_modify (addEntity_apply entity) (fun _ => rfl) (fun _ => rfl) (fun _ _ => rfl) fun _ _ => rfl

theorem cell (h : Handle) : Halts R (Op.cell h : Op σ E (Cell E)) := by
  refine get_bind (fun _ _ => rfl) fun s => ?_
  split
  · exact Halts.pure _
  · exact Halts.throw _

/-- What is recorded but asks nothing of the session. -/
theorem record {act : Act} (hrefused : ∀ session : σ, act.isRefused session = false)
    (hreplay : ∀ session : σ, act.replay session = session) :
    Halts R (Op.record act : Op σ E Unit) := by
  refine of_silent (fun _ => [act]) (fun _ => rfl) (fun _ => rfl) (fun _ a ha session => ?_)
    fun _ _ => rfl
  rw [List.mem_singleton.1 ha]
  exact ⟨hrefused session, hreplay session⟩

theorem fire (T : EntityType E) (h : Handle) (event : Event) :
    Halts R (Op.fire T h event : Op σ E Unit) := by
  refine (Halts.cell h).bind fun c => ?_
  dsimp only
  refine (Halts.forM fun _ => record (fun _ => rfl) fun _ => rfl).bind fun _ =>
    (Halts.modifyCell h _).bind fun _ => ?_
  split
  · exact Halts.throw _
  · exact Halts.pure _

theorem trigger (T : EntityType E) (h : Handle) (event : Event) :
    Halts R (Op.trigger T h event : Op σ E Unit) := by
  unfold Op.trigger
  split
  · refine get_bind (fun _ _ => rfl) fun s => ?_
    split
    · exact fire T h event
    · exact Halts.modifyOutbox _
  · exact Halts.pure _

theorem withOutbox (outbox : Outbox E) {op : Op σ E α} (h : Halts R op) :
    Halts R (Op.withOutbox outbox op) := by
  intro s
  obtain ⟨acts, hrun⟩ := h { s with outbox }
  refine ⟨acts, hrun.trace, hrun.session, ?_⟩
  cases hrun.ending with
  | accepted hrefused hsame =>
    refine .accepted hrefused fun y hy => ?_
    obtain ⟨y', hy', hop⟩ := hsame y hy
    refine ⟨y', hy', ?_⟩
    have hop : op { s with outbox, session := y } =
        ((op { s with outbox }).1, { (op { s with outbox }).2 with session := y' }) := hop
    show ((op { s with outbox, session := y }).1,
      { (op { s with outbox, session := y }).2 with outbox := s.outbox }) = _
    rw [hop]
    rfl
  | cut he hcut hmore => exact .cut he hcut hmore

theorem immediately {op : Op σ E α} (h : Halts R op) : Halts R (Manager.immediately op) :=
  get_bind (fun _ _ => rfl) fun _ => withOutbox _ h

variable (hR : Echoes R)
include hR

theorem executeRequest (r : Request) : Halts R (Op.executeRequest r : Op σ E (List Row)) :=
  (record (fun _ => rfl) fun _ => rfl).bind fun _ => execute hR r.statement

theorem handOver (kind : BatchKind) (r : Request) :
    Halts R (Op.handOver kind r : Op σ E (Option (List Row))) := by
  rw [handOver_eq]
  refine (record (fun _ => rfl) fun _ => rfl).bind fun _ => get_bind (fun _ _ => rfl) fun s => ?_
  split
  · exact (executeRequest hR r).bind fun _ => Halts.pure _
  · exact (Halts.modifyOutbox _).bind fun _ => Halts.pure _

theorem push (r : Request) : Halts R (Op.push r : Op σ E (Option (List Row))) :=
  handOver hR .logged r

theorem pushCounter (r : Request) : Halts R (Op.pushCounter r : Op σ E (Option (List Row))) :=
  handOver hR .counter r

theorem sendGroup (kind : BatchKind) (requests : List Request) (level : Level) :
    Halts R (Op.sendGroup kind requests level : Op σ E Unit) := by
  have hlog (line : LogLine) : Halts R (Op.record (.logged line) : Op σ E Unit) :=
    record (fun _ => rfl) fun _ => rfl
  unfold Op.sendGroup
  split
  · exact (hlog _).bind fun _ => (Halts.forM fun _ => hlog _).bind fun _ =>
      (hlog _).bind fun _ => executeBatch hR _ _ _
  · exact Halts.pure _

theorem sendAll (pending : Outbox E) : Halts R (Op.sendAll pending : Op σ E Unit) := by
  have events : Halts R (pending.events.forM fun d => Op.fire d.type d.handle d.event :
      Op σ E Unit) := Halts.forM fun d => fire d.type d.handle d.event
  exact events.bind fun _ => (sendGroup hR _ _ _).bind fun _ => sendGroup hR _ _ _

/-! ### Preparing -/

theorem prepareAll {κ : Type} (texts : List (κ × String)) :
    Halts R (Op.prepareAll texts : Op σ E (List (κ × Prepared))) :=
  Halts.mapM fun _ => (prepare hR _).bind fun _ => Halts.pure _

theorem prepareClustered (em : EntityMeta) :
    Halts R (Op.prepareClustered em : Op σ E EntityStatements) :=
  (prepareAll hR _).bind fun _ => Halts.pure _

theorem preparePlain (em : EntityMeta) :
    Halts R (Op.preparePlain em : Op σ E EntityStatements) := by
  refine (prepare hR _).bind fun _ => (prepare hR _).bind fun _ => ?_
  refine (Halts.mapM fun pm => ?_).bind fun _ => (prepareAll hR _).bind fun _ => Halts.pure _
  exact (Halts.lift _).bind fun _ => (prepare hR _).bind fun _ => Halts.pure _

theorem prepareShared : Halts R (Op.prepareShared : Op σ E Unit) := by
  refine get_bind (fun _ _ => rfl) fun s => ?_
  split
  · exact Halts.forM fun _ => (prepare hR _).bind fun _ => Halts.modifyRegistry _
  · exact Halts.pure _

theorem registerStatements (em : EntityMeta) :
    Halts R (Op.registerStatements em : Op σ E Unit) := by
  refine get_bind (fun _ _ => rfl) fun s => ?_
  split
  · exact Halts.pure _
  · dsimp only
    split
    · exact (prepareClustered hR em).bind fun _ => by
        split
        · exact (prepareShared hR).bind fun _ => Halts.modifyRegistry _
        · exact Halts.modifyRegistry _
    · exact (preparePlain hR em).bind fun _ => by
        split
        · exact (prepareShared hR).bind fun _ => Halts.modifyRegistry _
        · exact Halts.modifyRegistry _

theorem preparedUpdate (em : EntityMeta) (properties : List PropertyMeta) :
    Halts R (Op.preparedUpdate em properties : Op σ E Prepared) := by
  refine get_bind (fun _ _ => rfl) fun s => (Halts.modifyRegistry _).bind fun _ => ?_
  split
  · exact Halts.pure _
  · exact (prepare hR _).bind fun _ => (Halts.modifyRegistry _).bind fun _ => Halts.pure _

theorem bindUpdate (T : EntityType E) (em : EntityMeta) (entity : E)
    (properties : List PropertyMeta) (options : Options) (level : Level) :
    Halts R (Op.bindUpdate T em entity properties options level : Op σ E Request) :=
  get_bind (fun _ _ => rfl) fun _ => (Halts.lift _).bind fun _ =>
    (preparedUpdate hR em _).bind fun _ => (Halts.lift _).bind fun _ => Halts.pure _

end Halts

/-! ### Operations on one entity -/

namespace Call

theorem halts_manage (c : Call E) (h : Handle) (key : List Value) (loaded : List String) :
    Halts R (c.manage h key loaded : Op σ E Proxy) :=
  (Halts.modifyCell h _).bind fun _ => Halts.pure _

theorem halts_proxyOfKey (c : Call E) (key : List Value) :
    Halts R (c.proxyOfKey key : Op σ E Proxy) :=
  (Halts.lift _).bind fun _ => (Halts.lift _).bind fun _ => (Halts.addEntity _).bind fun _ =>
    c.halts_manage _ _ _

variable (hR : Echoes R) (c : Call E)
include hR

theorem halts_writeCounters (h : Handle) (key : List Value) :
    Halts R (c.writeCounters h key : Op σ E Unit) := by
  refine (Halts.cell h).bind fun cell => ?_
  dsimp only
  refine (Halts.modifyCell h _).bind fun _ => Halts.forM fun _ => Halts.forM fun _ => ?_
  exact Halts.get_bind (fun _ _ => rfl) fun _ => (Halts.lift _).bind fun _ =>
    (Halts.pushCounter hR _).discard

theorem halts_persist (entity : E) : Halts R (c.persist entity : Op σ E Proxy) := by
  have rest (h : Handle) (key : List Value) : Halts R (do
      c.writeCounters h key
      Op.trigger c.type h .postPersist
      c.manage h key (c.entityMeta.properties.map fun pm => pm.name) : Op σ E Proxy) :=
    (c.halts_writeCounters hR h key).bind fun _ => (Halts.trigger _ _ _).bind fun _ =>
      c.halts_manage _ _ _
  refine (Halts.addEntity entity).bind fun h => (Halts.trigger _ _ _).bind fun _ =>
    (Halts.cell h).bind fun cell => ?_
  dsimp only
  split
  · exact (Halts.cell h).bind fun _ => Halts.get_bind (fun _ _ => rfl) fun _ =>
      (Halts.lift _).bind fun _ => (Halts.push hR _).bind fun _ => rest h _
  · exact rest h _

theorem halts_writeDirty (p : Proxy) : Halts R (c.writeDirty p : Op σ E Unit) := by
  refine (Halts.cell p.handle).bind fun cell => ?_
  dsimp only
  split
  · exact (Halts.bindUpdate hR _ _ _ _ _ _).bind fun _ => (Halts.push hR _).bind fun _ =>
      Halts.modifyCell _ _
  · exact Halts.pure _

theorem halts_update (p : Proxy) : Halts R (c.update p : Op σ E Unit) :=
  (Halts.trigger _ _ _).bind fun _ => (c.halts_writeDirty hR p).bind fun _ =>
    (c.halts_writeCounters hR _ _).bind fun _ => (Halts.trigger _ _ _).bind fun _ =>
      Halts.modifyCell _ _

theorem halts_removeByKey (key : List Value) : Halts R (c.removeByKey key : Op σ E Unit) := by
  unfold removeByKey
  dsimp only
  split
  · exact Halts.get_bind (fun _ _ => rfl) fun _ => (Halts.lift _).bind fun _ =>
      (Halts.pushCounter hR _).discard
  · refine Halts.get_bind (fun _ _ => rfl) fun _ => (Halts.lift _).bind fun requests => ?_
    refine (Halts.forM fun _ => (Halts.push hR _).discard).bind fun _ => Halts.forM fun _ => ?_
    exact Halts.get_bind (fun _ _ => rfl) fun _ => (Halts.lift _).bind fun _ =>
      (Halts.pushCounter hR _).discard

theorem halts_remove (entity : E) : Halts R (c.remove entity : Op σ E Unit) :=
  (Halts.addEntity entity).bind fun h => (Halts.trigger _ _ _).bind fun _ =>
    (Halts.cell h).bind fun _ => (c.halts_removeByKey hR _).bind fun _ => Halts.trigger _ _ _

omit hR in
theorem halts_received (rows : List Row) :
    Halts R (c.received rows : Op σ E (Option Handle)) := by
  cases rows with
  | nil => exact Halts.pure _
  | cons row rest =>
    exact (Halts.lift _).bind fun _ => (Halts.addEntity _).bind fun _ =>
      (Halts.trigger _ _ _).bind fun _ => Halts.pure _

theorem halts_load (key : List Value) : Halts R (c.load key : Op σ E (Option Handle)) := by
  have hload : (c.load key : Op σ E (Option Handle)) = (do
      let request ← c.readRequest (← get).registry key
      Op.executeRequest request >>= c.received) := by
    funext s
    rw [load_apply, get_bind_apply]
  rw [hload]
  exact Halts.get_bind (fun _ _ => rfl) fun _ => (Halts.lift _).bind fun _ =>
    (Halts.executeRequest hR _).bind c.halts_received

theorem halts_find (key : List Value) : Halts R (c.find key : Op σ E (Option Proxy)) := by
  refine (c.halts_load hR key).bind fun found => ?_
  split
  · exact Halts.pure _
  · exact (c.halts_manage _ _ _).bind fun _ => Halts.pure _

theorem halts_refresh (p : Proxy) : Halts R (c.refresh p : Op σ E Refresh) := by
  refine (c.halts_load hR p.key).bind fun found => ?_
  split
  · exact Halts.pure _
  · exact (Halts.cell _).bind fun _ => (Halts.modifyCell _ _).bind fun _ => Halts.pure _

theorem halts_readProperty (p : Proxy) (pm : PropertyMeta) :
    Halts R (c.readProperty p pm : Op σ E Unit) :=
  Halts.get_bind (fun _ _ => rfl) fun _ => (Halts.lift _).bind fun _ =>
    (Halts.executeRequest hR _).bind fun _ => (Halts.lift _).bind fun _ =>
      (Halts.cell _).bind fun _ => (Halts.lift _).bind fun _ =>
        (Halts.modifyCell _ _).bind fun _ => Halts.modifyCell _ _

theorem halts_readCounter (p : Proxy) (pm : PropertyMeta) :
    Halts R (c.readCounter p pm : Op σ E Unit) := by
  refine Halts.get_bind (fun _ _ => rfl) fun s => ?_
  dsimp only
  split
  · exact (Halts.lift _).bind fun _ => (Halts.executeRequest hR _).bind fun _ =>
      (Halts.modifyCell _ _).bind fun _ => Halts.modifyCell _ _
  · exact (Halts.lift _).bind fun _ => (Halts.executeRequest hR _).bind fun _ =>
      (Halts.modifyCell _ _).bind fun _ => Halts.modifyCell _ _

theorem halts_complete (p : Proxy) : Halts R (c.complete p : Op σ E Unit) := by
  have unloaded (properties : List PropertyMeta) {step : PropertyMeta → Op σ E Unit}
      (hstep : ∀ pm, Halts R (step pm)) : Halts R (forUnloaded p properties step) := by
    refine Halts.forM fun pm => (Halts.cell p.handle).bind fun _ => ?_
    split
    · exact hstep pm
    · exact Halts.pure _
  exact (unloaded _ (c.halts_readProperty hR p)).bind fun _ =>
    unloaded _ (c.halts_readCounter hR p)

end Call

/-! ### Operations of the manager -/

namespace Manager

theorem halts_entityMeta (T : EntityType E) :
    Halts R (entityMeta T : Op σ E EntityMeta) := by
  refine Halts.get_bind (fun _ _ => rfl) fun s => ?_
  split
  · exact Halts.pure _
  · exact Halts.throw _

theorem halts_call (T : EntityType E) (options : Options) :
    Halts R (call T options : Op σ E (Call E)) :=
  (halts_entityMeta T).bind fun _ =>
    (Halts.get_bind (fun _ _ => rfl) fun _ => Halts.lift _).bind fun _ => Halts.pure _

theorem halts_typedMeta (T : EntityType E) (query : String) :
    Halts R (typedMeta T query : Op σ E EntityMeta) := by
  unfold typedMeta
  dsimp only
  split
  · exact Halts.throw _
  · refine Halts.get_bind (fun _ _ => rfl) fun s => ?_
    split
    · exact Halts.pure _
    · exact Halts.throw _

theorem halts_getProxyIn (T : EntityType E) (key : List Value) (options : Options) :
    Halts R (getProxyIn T key options : Op σ E Proxy) :=
  (halts_call T options).bind fun c => c.halts_proxyOfKey key

variable (hR : Echoes R) (T : EntityType E)
include hR

theorem halts_register : Halts R (register T : Op σ E EntityMeta) := by
  refine Halts.get_bind (fun _ _ => rfl) fun s => ?_
  dsimp only
  split
  · exact Halts.pure _
  · refine Halts.get_bind (fun _ _ => rfl) fun _ => (Halts.lift _).bind fun _ =>
      (Halts.registerStatements hR _).bind fun _ => ?_
    refine Halts.bind ?_ fun _ => Halts.pure _
    exact Halts.of_modify (modify_apply _) (fun _ => rfl) (fun _ => rfl) (fun _ _ => rfl)
      fun _ _ => rfl

section

variable (options : Options)

theorem halts_persistIn (entity : Tracked E) :
    Halts R (persistIn T entity options : Op σ E Proxy) := by
  refine (halts_entityMeta T).bind fun em => ?_
  split
  · exact Halts.throw _
  · exact (Halts.lift _).bind fun _ => (Halts.lift _).bind fun _ =>
      (halts_call T options).bind fun c => c.halts_persist hR _

theorem halts_updateIn (p : Proxy) : Halts R (updateIn T p options : Op σ E Unit) :=
  (halts_call T options).bind fun c => c.halts_update hR p

theorem halts_removeIn (entity : Tracked E) :
    Halts R (removeIn T entity options : Op σ E Unit) := by
  refine (halts_call T options).bind fun c => ?_
  split
  · exact (Halts.cell _).bind fun _ => c.halts_remove hR _
  · exact c.halts_remove hR _

theorem halts_removeByIdIn (key : List Value) :
    Halts R (removeByIdIn T key options : Op σ E Unit) :=
  (halts_call T options).bind fun c => c.halts_removeByKey hR key

theorem halts_findIn (key : List Value) :
    Halts R (findIn T key options : Op σ E (Option Proxy)) :=
  (halts_call T options).bind fun c => c.halts_find hR key

theorem halts_refreshIn (p : Proxy) : Halts R (refreshIn T p options : Op σ E Refresh) :=
  (halts_call T options).bind fun c => c.halts_refresh hR p

end

theorem halts_complete (p : Proxy) : Halts R (complete T p : Op σ E Unit) :=
  (halts_entityMeta T).bind fun _ => (Halts.cell p.handle).bind fun _ =>
    (Call.halts_complete hR _ p).immediately

theorem halts_completeAll (proxies : List Proxy) :
    Halts R (completeAll T proxies : Op σ E Unit) := Halts.forM fun p => halts_complete hR T p

theorem halts_loadProxies (em : EntityMeta) (request : Request) :
    Halts R (loadProxies T em request : Op σ E (List Proxy)) := by
  refine Halts.immediately ((Halts.executeRequest hR request).bind fun rows => Halts.mapM ?_)
  intro row
  exact (Halts.lift _).bind fun _ => (Halts.addEntity _).bind fun h =>
    (Halts.trigger _ _ _).bind fun _ => (Halts.cell h).bind fun _ =>
      (Halts.modifyCell _ _).bind fun _ => Halts.pure _

theorem halts_nativeQuery (query : String) (values : List Value) :
    Halts R (nativeQuery query values : Op σ E (List Row)) := by
  unfold nativeQuery
  dsimp only
  split
  · exact Halts.throw _
  · exact Halts.get_bind (fun _ _ => rfl) fun _ => (Halts.executeRequest hR _).immediately

end Manager

/-! ### Calls -/

/-- Every call of a manager halts. -/
theorem ManagerCall.halts_run (hR : Echoes R) (call : ManagerCall E) :
    Halts R (call.run : Op σ E Unit) := by
  cases call with
  | register T => exact (Manager.halts_register hR T).discard
  | persist T entity options =>
    exact (Manager.halts_persistIn hR T options entity).immediately.discard
  | update T p options => exact (Manager.halts_updateIn hR T options p).immediately
  | remove T entity options => exact (Manager.halts_removeIn hR T options entity).immediately
  | removeById T key options => exact (Manager.halts_removeByIdIn hR T options key).immediately
  | find T key options => exact (Manager.halts_findIn hR T options key).immediately.discard
  | getProxy T key options => exact (Manager.halts_getProxyIn T key options).immediately.discard
  | refresh T p options => exact (Manager.halts_refreshIn hR T options p).immediately.discard
  | complete T p => exact Manager.halts_complete hR T p
  | getSlice T slice =>
    exact ((Manager.halts_entityMeta T).bind fun _ => (Halts.lift _).bind fun _ =>
      Manager.halts_loadProxies hR T _ _).discard
  | removeSlice T slice =>
    exact (Manager.halts_entityMeta T).bind fun _ => (Halts.lift _).bind fun _ =>
      (Halts.push hR _).immediately.discard
  | nativeQuery query values => exact (Manager.halts_nativeQuery hR query values).discard
  | typedQuery T query values =>
    exact ((Manager.halts_typedMeta T query).bind fun _ => (Halts.lift _).bind fun _ =>
      Manager.halts_loadProxies hR T _ _).discard
  | rawTypedQuery T query values =>
    refine ((Manager.halts_typedMeta T query).bind fun _ => (Halts.lift _).bind fun _ =>
      (Halts.executeRequest hR _).immediately.bind fun rows => ?_).discard
    exact Halts.mapM fun _ => Halts.lift _
  | indexedQuery T condition =>
    exact ((Manager.halts_entityMeta T).bind fun _ => (Halts.lift _).bind fun _ =>
      Manager.halts_loadProxies hR T _ _).discard

/-! ### Windows -/

namespace Batching

/-- A change of the manager that leaves the trace and the session alone. -/
theorem halts_modify {f : Batching σ E → Batching σ E}
    (htrace : ∀ b, (f b).site.trace = b.site.trace)
    (hsession : ∀ b, (f b).site.session = b.site.session)
    (hblind : ∀ b y, f { b with site.session := y } = { f b with site.session := y }) :
    Halts R (modify f : BatchOp σ E Unit) :=
  Halts.of_silent (fun _ => []) (fun b => by rw [modify_apply, List.append_nil]; exact htrace b)
    hsession (fun _ _ hact => nomatch hact) fun b y => Prod.ext rfl (hblind b y)

theorem halts_onSite {op : Op σ E α} (h : Halts R op) :
    Halts R (onSite op : BatchOp σ E α) := by
  intro b
  obtain ⟨acts, hrun⟩ := h b.site
  refine ⟨acts, hrun.trace, hrun.session, ?_⟩
  cases hrun.ending with
  | accepted hrefused hsame =>
    refine .accepted hrefused fun y hy => ?_
    obtain ⟨y', hy', hop⟩ := hsame y hy
    refine ⟨y', hy', ?_⟩
    have hop : op { b.site with session := y } =
        ((op b.site).1, { (op b.site).2 with session := y' }) := hop
    show ((op { b.site with session := y }).1,
      { b with site := (op { b.site with session := y }).2 }) = _
    rw [hop]
    rfl
  | cut he hcut hmore => exact .cut he hcut hmore

theorem halts_startBatchAt (level : Level) : Halts R (startBatchAt level : BatchOp σ E Unit) :=
  halts_modify (fun _ => rfl) (fun _ => rfl) fun _ _ => rfl

theorem halts_startBatch : Halts R (startBatch : BatchOp σ E Unit) :=
  Halts.get_bind (fun _ _ => rfl) fun _ => halts_startBatchAt _

theorem halts_cleanBatch : Halts R (cleanBatch : BatchOp σ E Unit) :=
  Halts.get_bind (fun _ _ => rfl) fun _ => halts_startBatchAt _

theorem halts_rejectLevel (options : Options) :
    Halts R (rejectLevel options : BatchOp σ E Unit) := by
  unfold rejectLevel
  split
  · exact halts_cleanBatch.bind fun _ => Halts.throw _
  · exact Halts.pure _

theorem halts_nextTimestamp (now : Int) :
    Halts R (nextTimestamp now : BatchOp σ E Int) := by
  refine Halts.get_bind (fun _ _ => rfl) fun b => Halts.bind ?_ fun _ => Halts.pure _
  exact halts_modify (fun _ => rfl) (fun _ => rfl) fun _ _ => rfl

theorem halts_stamped (now : Int) (options : Options) :
    Halts R (stamped now options : BatchOp σ E Options) := by
  unfold stamped
  split
  · exact Halts.pure _
  · exact (halts_nextTimestamp now).bind fun _ => Halts.pure _

theorem halts_endBatch (hR : Echoes R) : Halts R (endBatch : BatchOp σ E Unit) := by
  have send (pending : Outbox E) : Halts R (do
      startBatchAt (← get).defaultLevel
      onSite (Op.sendAll pending) : BatchOp σ E Unit) :=
    Halts.get_bind (fun _ _ => rfl) fun _ => (halts_startBatchAt _).bind fun _ =>
      halts_onSite (Halts.sendAll hR _)
  exact Halts.get_bind (fun _ _ => rfl) fun b => send b.site.outbox

end Batching

/-- Every call of a manager with windows halts. -/
theorem WindowCall.halts_run (hR : Echoes R) (call : WindowCall E) :
    Halts R (call.run : BatchOp σ E Unit) := by
  -- A write is a write of the site, after the level was refused and the clock was read.
  have write {α : Type} (now : Int) (options : Options) {op : Options → Op σ E α}
      (h : ∀ options, Halts R (op options)) : Halts R (do
        let options ← Batching.stamped now options
        Batching.onSite (op options) : BatchOp σ E α) :=
    (Batching.halts_stamped now options).bind fun options => Batching.halts_onSite (h options)
  cases call with
  | startBatch => exact Batching.halts_startBatch
  | startBatchAt level => exact Batching.halts_startBatchAt level
  | endBatch => exact Batching.halts_endBatch hR
  | cleanBatch => exact Batching.halts_cleanBatch
  | persist now T entity options =>
    exact ((Batching.halts_rejectLevel options).bind fun _ => write now options fun options =>
      Manager.halts_persistIn hR T options entity).discard
  | update now T p options =>
    exact (Batching.halts_rejectLevel options).bind fun _ => write now options fun options =>
      Manager.halts_updateIn hR T options p
  | remove now T entity options =>
    exact (Batching.halts_rejectLevel options).bind fun _ => write now options fun options =>
      Manager.halts_removeIn hR T options entity
  | removeById now T key =>
    exact write now .none fun options => Manager.halts_removeByIdIn hR T options key
  | find T key options =>
    exact ((Batching.halts_rejectLevel options).bind fun _ =>
      Batching.halts_onSite (Manager.halts_findIn hR T options key)).discard
  | getProxy T key options =>
    exact ((Batching.halts_rejectLevel options).bind fun _ =>
      Batching.halts_onSite (Manager.halts_getProxyIn T key options)).discard
  | refresh T p options =>
    refine Halts.discard ?_
    unfold Batching.refresh
    split
    · exact Halts.throw _
    · exact Batching.halts_onSite (Manager.halts_refreshIn hR T options p)

end WideColumn
