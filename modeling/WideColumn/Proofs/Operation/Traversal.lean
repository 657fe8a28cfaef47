import WideColumn.Proofs.Operation.Frame
import WideColumn.Proofs.Reachable

/-!
# Frames of whole calls

A relation between sites that is kept by the few moves that operations consist of is kept by every
call of a manager, with windows or without, except for the registration of a type, which changes
what everything else leaves alone. So an invariant of reachable states needs a proof for these
moves and for the registration only.
-/

namespace WideColumn

open Op

variable {σ E α : Type} [Session σ]

/-- What a manager runs with an outbox of its own, besides updates. -/
inductive RunsAtOnce : {α : Type} → Op σ E α → Prop
  | persist (T : EntityType E) (entity : Tracked E) (options : Options) :
      RunsAtOnce (Manager.persistIn T entity options)
  | remove (T : EntityType E) (entity : Tracked E) (options : Options) :
      RunsAtOnce (Manager.removeIn T entity options)
  | removeById (T : EntityType E) (key : List Value) (options : Options) :
      RunsAtOnce (Manager.removeByIdIn T key options)
  | find (T : EntityType E) (key : List Value) (options : Options) :
      RunsAtOnce (Manager.findIn T key options)
  | getProxy (T : EntityType E) (key : List Value) (options : Options) :
      RunsAtOnce (Manager.getProxyIn T key options)
  | refresh (T : EntityType E) (p : Proxy) (options : Options) :
      RunsAtOnce (Manager.refreshIn T p options)
  | complete (c : Call E) (p : Proxy) : RunsAtOnce (c.complete p)
  | execute (r : Request) : RunsAtOnce (executeRequest r)
  | push (r : Request) : RunsAtOnce (push r)
  | load (T : EntityType E) (em : EntityMeta) (request : Request) :
      RunsAtOnce (do
        let rows ← executeRequest request
        rows.mapM (Manager.proxyOfRow T em))

/-- A relation that the operations on entities keep, with whatever outbox they run. -/
structure Op.AdmitsCalls (R : Site σ E → Site σ E → Prop) : Prop
    extends Admits R fun _ _ => True where
  executeRequest (r : Request) : Keeps R (executeRequest r)
  fire (T : EntityType E) (h : Handle) (event : Event) : Keeps R (fire T h event)
  /-- An update is more than these steps, because it prepares statements. -/
  updateIn (T : EntityType E) (p : Proxy) (options : Options) :
    Keeps R (Manager.updateIn T p options)
  outbox (s : Site σ E) (outbox : Outbox E) : R s { s with outbox }

/-- A relation that does not look at what was done and what was answered. -/
structure Op.Frames (R : Site σ E → Site σ E → Prop) : Prop extends Composes R where
  outside (s : Site σ E) (session : σ) (trace : List Act) (outbox : Outbox E) :
    R s { s with session, trace, outbox }
  addEntity (entity : E) : Keeps R (addEntity entity)
  modifyCell (h : Handle) (f : Cell E → Cell E) :
    (∀ c, (f c).dirty = c.dirty ∨ (f c).dirty = .empty) → Keeps R (modifyCell h f)
  updateIn (T : EntityType E) (p : Proxy) (options : Options) :
    Keeps R (Manager.updateIn T p options)

theorem Call.writes_true (c : Call E) : c.Writes σ fun _ _ => True where
  insert _ := trivial
  update _ := trivial
  delta _ := trivial
  removal _ _ _ := trivial
  removeRow _ := trivial
  removeCounter _ := trivial

omit [Session σ] in
theorem Call.writesOn_true (c : Call E) {I : Site σ E → Prop} :
    c.WritesOn I fun _ _ => True where
  insert _ _ _ := trivial
  delta _ _ _ := trivial
  removal _ _ _ _ _ := trivial
  removeRow _ _ _ := trivial
  removeCounter _ _ _ _ := trivial

/-- Sending a window fires the events that were put off, and looks at nothing but what was done and
what was answered besides. -/
theorem Op.Composes.sendAll {R : Site σ E → Site σ E → Prop} (hR : Composes R)
    (houtside : ∀ (s : Site σ E) session trace outbox, R s { s with session, trace, outbox })
    (hfire : ∀ (T : EntityType E) h event, Keeps R (fire T h event)) (pending : Outbox E) :
    Keeps R (sendAll pending) := by
  have hrecord (act : Act) : Keeps R (record act) := fun s => houtside s s.session _ s.outbox
  have group (kind : BatchKind) (requests : List Request) (level : Level) :
      Keeps R (sendGroup kind requests level) := by
    unfold sendGroup
    split
    · refine hR.bind (hrecord _) fun _ => hR.bind (hR.forM fun _ _ => hrecord _) fun _ =>
        hR.bind (hrecord _) fun _ s => ?_
      rw [executeBatch_apply]
      exact houtside s _ _ s.outbox
    · exact hR.pure _
  exact hR.bind (hR.forM fun d _ => hfire d.type d.handle d.event) fun _ =>
    hR.bind (group _ _ _) fun _ => group _ _ _

/-- A relation between the cells of two sites that does not look at their entities. -/
structure Op.ComparesCells (R : Site σ E → Site σ E → Prop) : Prop extends Composes R where
  of_workspace {s t : Site σ E} : t.workspace = s.workspace → R s t
  of_entity {s t : Site σ E} {h : Handle} {f : E → E} :
    t.workspace = s.workspace.modifyEntity h f → R s t

namespace Op.ComparesCells

variable {R : Site σ E → Site σ E → Prop} (hR : ComparesCells R)
include hR

omit [Session σ] in
theorem fire (T : EntityType E) (h : Handle) (event : Event) : Keeps R (fire T h event) := by
  intro s
  cases hc : s.workspace.cell? h with
  | none =>
    rw [fire_of_no_cell T event hc]
    exact hR.refl s
  | some c =>
    rw [fire_apply T event hc]
    exact hR.of_entity (h := h) (f := fun _ => (T.intercept c.entity event).2.1) rfl

omit [Session σ] in
theorem trigger (T : EntityType E) (h : Handle) (event : Event) : Keeps R (trigger T h event) := by
  intro s
  rcases trigger_cases T h event s with ⟨-, hrun⟩ | hrun | ⟨-, hrun⟩ <;> rw [hrun]
  · exact hR.refl s
  · exact hR.fire T h event s
  · exact hR.of_workspace rfl

theorem handOver (kind : BatchKind) (r : Request) : Keeps R (handOver kind r) := by
  intro s
  rcases handOver_cases kind r s with ⟨-, hrun⟩ | ⟨-, hrun⟩ <;> rw [hrun]
  · exact hR.of_workspace rfl
  · exact hR.of_workspace rfl

theorem executeRequest (r : Request) : Keeps R (executeRequest r) := by
  intro s
  rw [executeRequest_apply]
  exact hR.of_workspace rfl

theorem bindUpdate (T : EntityType E) (em : EntityMeta) (entity : E)
    (properties : List PropertyMeta) (options : Options) (level : Level) :
    Keeps R (bindUpdate T em entity properties options level) := fun s =>
  hR.of_workspace (prepares_bindUpdate T em entity properties options level s).workspace

theorem sendAll (pending : Outbox E) : Keeps R (sendAll pending) :=
  hR.toComposes.sendAll (fun _ _ _ _ => hR.of_workspace rfl) hR.fire pending

end Op.ComparesCells

namespace Op.Frames

variable {R : Site σ E → Site σ E → Prop}

/-- A relation that holds where the store is the same and where nothing but preparing was done. -/
theorem of_sameStore_prepares (hR : Composes R) (hsame : ∀ s t, SameStore s t → R s t)
    (hprepares : ∀ s t, Prepares s t → R s t) : Frames R where
  toComposes := hR
  outside s _ _ _ := hsame _ _ (.of_eq rfl rfl rfl rfl)
  addEntity entity s := hsame _ _ (sameStore_addEntity entity s)
  modifyCell h f hf s := hsame _ _ (admits_sameStore.modifyCell h f hf s)
  updateIn T p options s := by
    apply Manager.call_bind_at hR
    intro c _
    refine c.keeps_update (admits_sameStore.mono hR hsame) c.writes_true (fun _ _ t => ?_) p s
    exact hprepares _ _ (prepares_bindUpdate _ _ _ _ _ _ t)

variable (hR : Frames R)
include hR

theorem executeRequest (r : Request) : Keeps R (executeRequest r) := by
  intro s
  rw [executeRequest_apply]
  exact hR.outside s _ _ _

theorem handOver (kind : BatchKind) (r : Request) : Keeps R (handOver kind r) := by
  intro s
  rcases handOver_cases kind r s with ⟨-, hrun⟩ | ⟨-, hrun⟩ <;> rw [hrun]
  · exact hR.outside s _ _ _
  · exact hR.outside s _ _ _

theorem fire (T : EntityType E) (h : Handle) (event : Event) : Keeps R (fire T h event) := by
  intro s
  cases hc : s.workspace.cell? h with
  | none =>
    rw [fire_of_no_cell T event hc]
    exact hR.refl s
  | some c =>
    rw [fire_apply T event hc]
    have hlooked := hR.outside s s.session
      (s.trace ++ (T.intercept c.entity event).1.map (.intercepted h)) s.outbox
    exact hR.trans hlooked (hR.modifyCell h
      (fun cell => { cell with entity := (T.intercept c.entity event).2.1 }) (fun _ => .inl rfl) _)

theorem trigger (T : EntityType E) (h : Handle) (event : Event) :
    Keeps R (trigger T h event) := by
  intro s
  rcases trigger_cases T h event s with ⟨-, hrun⟩ | hrun | ⟨-, hrun⟩ <;> rw [hrun]
  · exact hR.refl s
  · exact hR.fire T h event s
  · exact hR.outside s _ _ _

theorem admits : Admits R fun _ _ => True where
  toComposes := hR.toComposes
  push _ := hR.handOver .logged _
  pushCounter _ := hR.handOver .counter _
  trigger := hR.trigger
  addEntity := hR.addEntity
  modifyCell := hR.modifyCell

theorem admitsCalls : AdmitsCalls R where
  toAdmits := hR.admits
  executeRequest := hR.executeRequest
  fire := hR.fire
  updateIn := hR.updateIn
  outbox s outbox := hR.outside s s.session s.trace outbox

theorem sendAll (pending : Outbox E) : Keeps R (sendAll pending) :=
  hR.toComposes.sendAll hR.outside hR.fire pending

end Op.Frames

/-! ### Operations of the manager, with the outbox of the site -/

namespace Op.Upholds

variable {I : Site σ E → Prop} {F : Handle → Prop} {R : Site σ E → Site σ E → Prop}
  (hR : Upholds I F R (fun _ _ => True) fun _ => True)
include hR

theorem load (c : Call E) (key : List Value) : Keeps R (c.load key) :=
  c.upholds_load hR key fun s _ _ => hR.execute trivial s

section

variable (T : EntityType E) (options : Options)

theorem persistIn (entity : Tracked E) : Keeps R (Manager.persistIn T entity options) := fun _ =>
  Manager.persistIn_at hR.toComposes fun c e _ _ => c.upholds_persist hR c.writesOn_true e _

theorem removeIn (entity : Tracked E) : Keeps R (Manager.removeIn T entity options) := fun _ =>
  Manager.removeIn_at hR.toComposes fun c e _ => c.upholds_remove hR c.writesOn_true e _

theorem removeByIdIn (key : List Value) : Keeps R (Manager.removeByIdIn T key options) :=
  fun _ => Manager.call_bind_at hR.toComposes fun c _ =>
    c.upholds_removeByKey hR.writes c.writesOn_true key _

theorem findIn (key : List Value) : Keeps R (Manager.findIn T key options) := fun _ =>
  Manager.call_bind_at hR.toComposes fun c _ =>
    c.upholds_find hR key (fun s _ _ => hR.execute trivial s) _

theorem getProxyIn (key : List Value) : Keeps R (Manager.getProxyIn T key options) := fun _ =>
  Manager.call_bind_at hR.toComposes fun c _ => c.upholds_proxyOfKey hR key _

theorem refreshIn (p : Proxy) : Keeps R (Manager.refreshIn T p options) := fun _ =>
  Manager.call_bind_at hR.toComposes fun c _ => c.upholds_refresh hR p (hR.load c p.key) _

end

theorem proxyOfRow (T : EntityType E) (em : EntityMeta) (row : Row) :
    Keeps R (Manager.proxyOfRow T em row) :=
  hR.lift_bind fun _ _ => Call.upholds_addEntity_bind hR _ fun _ hF =>
    hR.bind (hR.trigger _ _ _) fun _ => hR.cell_bind fun _ =>
      hR.bind (hR.record _ hF fun _ => rfl) fun _ => hR.pure _

/-- Whatever else runs at once keeps the relation. -/
theorem runsAtOnce {op : Op σ E α} (h : RunsAtOnce op) : Keeps R op := by
  cases h with
  | persist T entity options => exact hR.persistIn T options entity
  | remove T entity options => exact hR.removeIn T options entity
  | removeById T key options => exact hR.removeByIdIn T options key
  | find T key options => exact hR.findIn T options key
  | getProxy T key options => exact hR.getProxyIn T options key
  | refresh T p options => exact hR.refreshIn T options p
  | complete c p =>
    have hreads : c.FieldsOn I fun _ => True := ⟨fun _ _ _ => trivial, fun _ _ _ => trivial⟩
    exact c.upholds_complete hR hreads p
  | execute r => exact hR.execute trivial
  | push r => exact hR.push trivial
  | load T em request =>
    refine hR.bind (hR.execute trivial) fun rows => ?_
    exact hR.mapM fun row _ => hR.proxyOfRow T em row

end Op.Upholds

namespace Op.AdmitsCalls

variable {R : Site σ E → Site σ E → Prop} (hR : AdmitsCalls R)
include hR

theorem upholds : Upholds (fun _ => True) (fun _ => True) R (fun _ _ => True) fun _ => True where
  toComposes := hR.toComposes
  assuming himp := himp trivial
  push := hR.push
  pushCounter := hR.pushCounter
  execute _ := hR.executeRequest _
  trigger := hR.trigger
  addEntity := hR.addEntity
  fresh _ _ := trivial
  modifyCell h f hdirty _ _ := hR.modifyCell h f hdirty
  record {h} f _ hdirty := hR.modifyCell h f fun c => .inl (hdirty c)

theorem immediately {op : Op σ E α} (h : Keeps R op) : Keeps R (Manager.immediately op) := by
  intro s
  rw [Manager.immediately_apply]
  have hbefore : R s (Manager.atOnce s) := hR.outbox s _
  have hafter := hR.outbox (op (Manager.atOnce s)).2 s.outbox
  exact hR.trans hbefore (hR.trans (h _) hafter)

end Op.AdmitsCalls

/-! ### Calls -/

/-- The calls that register a type. -/
def ManagerCall.isRegister : ManagerCall E → Bool
  | register _ => true
  | _ => false

section

variable {R : Site σ E → Site σ E → Prop} (hR : Composes R)
include hR

omit [Session σ] in
theorem Manager.keeps_typedMeta (T : EntityType E) (query : String) :
    Keeps R (Manager.typedMeta T query) := by
  unfold Manager.typedMeta
  dsimp only
  split
  · exact hR.refl
  · refine keeps_get_bind fun s => ?_
    split
    · exact hR.pure _
    · exact hR.throw _

variable (himmediately : ∀ {α : Type} {op : Op σ E α}, RunsAtOnce op →
  Keeps R (Manager.immediately op))
include himmediately

theorem Manager.keeps_complete (T : EntityType E) (p : Proxy) :
    Keeps R (Manager.complete T p) := by
  intro s
  apply Manager.entityMeta_bind_at hR
  intro em _
  exact hR.cell_bind (fun c => himmediately (.complete _ p)) s

/-- A call that registers nothing keeps a relation that is kept by what it runs at once, and by the
call if it is an update. -/
theorem ManagerCall.keeps_run_of {call : ManagerCall E} (hcall : call.isRegister = false)
    {s : Site σ E} (hupdate : ∀ T p options, call = .update T p options →
      R s (Manager.update T p options s).2) : R s (call.run s).2 := by
  have discard {α : Type} {op : Op σ E α} (h : Keeps R op) :
      R s ((do let _ ← op : Op σ E Unit) s).2 := by
    rw [discard_apply]
    exact h s
  cases call with
  | register T => cases hcall
  | persist T entity options => exact discard (himmediately (.persist T entity options))
  | update T p options => exact hupdate T p options rfl
  | remove T entity options => exact himmediately (.remove T entity options) s
  | removeById T key options => exact himmediately (.removeById T key options) s
  | find T key options => exact discard (himmediately (.find T key options))
  | getProxy T key options => exact discard (himmediately (.getProxy T key options))
  | refresh T p options => exact discard (himmediately (.refresh T p options))
  | complete T p => exact Manager.keeps_complete hR himmediately T p s
  | getSlice T slice =>
    refine discard fun s => Manager.entityMeta_bind_at hR fun em _ => ?_
    exact hR.lift_bind_at fun _ _ => himmediately (.load T em _) s
  | removeSlice T slice =>
    apply Manager.entityMeta_bind_at hR
    intro em _
    apply hR.lift_bind_at
    intro statement _
    exact discard (himmediately (.push _))
  | nativeQuery query values =>
    apply discard
    unfold Manager.nativeQuery
    dsimp only
    split
    · exact hR.refl
    · exact keeps_get_bind fun _ => himmediately (.execute _)
  | typedQuery T query values =>
    refine discard (hR.bind (Manager.keeps_typedMeta hR T query) fun em =>
      hR.lift_bind fun _ _ => ?_)
    exact himmediately (.load T em _)
  | rawTypedQuery T query values =>
    refine discard (hR.bind (Manager.keeps_typedMeta hR T query) fun em =>
      hR.lift_bind fun _ _ => ?_)
    refine hR.bind (himmediately (.execute _)) fun rows => ?_
    refine hR.mapM fun _ _ s => ?_
    rw [lift_apply]
    exact hR.refl s
  | indexedQuery T condition =>
    refine discard fun s => Manager.entityMeta_bind_at hR fun em _ => ?_
    exact hR.lift_bind_at fun _ _ => himmediately (.load T em _) s

end

/-- Whatever a manager runs at once, its own outbox stays as it is. -/
theorem ManagerCall.outbox_run {call : ManagerCall E} (hcall : call.isRegister = false)
    (s : Site σ E) : (call.run s).2.outbox = s.outbox :=
  call.keeps_run_of (R := fun s t => t.outbox = s.outbox)
    ⟨fun _ => rfl, fun hst htu => htu.trans hst⟩ (fun _ _ => rfl) hcall fun _ _ _ _ => rfl

theorem Manager.outbox_complete (T : EntityType E) (p : Proxy) (s : Site σ E) :
    (Manager.complete T p s).2.outbox = s.outbox :=
  Manager.keeps_complete (R := fun s t => t.outbox = s.outbox)
    ⟨fun _ => rfl, fun hst htu => htu.trans hst⟩ (fun _ _ => rfl) T p s

variable {R : Site σ E → Site σ E → Prop} (hR : AdmitsCalls R)
include hR

/-- Every call of the manager that registers nothing. -/
theorem ManagerCall.keeps_run {call : ManagerCall E} (hcall : call.isRegister = false) :
    Keeps R call.run := fun _ =>
  call.keeps_run_of hR.toComposes (fun h => hR.immediately (hR.upholds.runsAtOnce h)) hcall
    fun T p options _ => hR.immediately (hR.updateIn T p options) _

theorem Manager.keeps_complete_of_admits (T : EntityType E) (p : Proxy) :
    Keeps R (Manager.complete T p) :=
  Manager.keeps_complete hR.toComposes (fun h => hR.immediately (hR.upholds.runsAtOnce h)) T p

/-! ### Windows -/

omit hR in
/-- The sites of two managers with windows are related. -/
def OnSites (R : Site σ E → Site σ E → Prop) (b c : Batching σ E) : Prop := R b.site c.site

namespace Op.AdmitsCalls

theorem composes_onSites : Composes (OnSites R) where
  refl b := hR.refl b.site
  trans := hR.trans

omit [Session σ] hR in
theorem onSite {op : Op σ E α} (h : Keeps R op) : Keeps (OnSites R) (Batching.onSite op) :=
  fun b => h b.site

theorem startBatchAt (level : Level) : Keeps (OnSites R) (Batching.startBatchAt level) :=
  fun b => hR.outbox b.site (b.site.outbox.reset level)

theorem cleanBatch : Keeps (OnSites R) (Batching.cleanBatch : BatchOp σ E Unit) :=
  keeps_get_bind fun _ => hR.startBatchAt _

theorem rejectLevel (options : Options) :
    Keeps (OnSites R) (Batching.rejectLevel options : BatchOp σ E Unit) := by
  unfold Batching.rejectLevel
  split
  · exact hR.composes_onSites.bind hR.cleanBatch fun _ => hR.composes_onSites.throw _
  · exact hR.composes_onSites.pure _

theorem stamped (now : Int) (options : Options) :
    Keeps (OnSites R) (Batching.stamped now options : BatchOp σ E Options) := by
  have hcomp := hR.composes_onSites
  unfold Batching.stamped
  split
  · exact hcomp.pure _
  · refine hcomp.bind (keeps_get_bind fun _ => ?_) fun _ => hcomp.pure _
    exact hcomp.bind (fun b => hR.refl b.site) fun _ => hcomp.pure _

end Op.AdmitsCalls

/-- Every call of a manager with windows, if ending the window is one of them. -/
theorem WindowCall.keeps_run_of_endBatch {b : Batching σ E}
    (hend : OnSites R b (Batching.endBatch b).2) (call : WindowCall E) :
    OnSites R b (call.run b).2 := by
  have hcomp := hR.composes_onSites
  have discard {α : Type} {op : BatchOp σ E α} (h : Keeps (OnSites R) op) :
      Keeps (OnSites R) (do let _ ← op : BatchOp σ E Unit) := hcomp.bind h fun _ => hcomp.pure _
  -- A write is a write of the site after the level was refused and the clock was read.
  have write {α : Type} {now : Int} {options : Options} {op : Options → Op σ E α}
      (h : ∀ options, Keeps R (op options)) : Keeps (OnSites R) (do
        let options ← Batching.stamped now options
        Batching.onSite (op options)) :=
    hcomp.bind (hR.stamped now options) fun options => AdmitsCalls.onSite (h options)
  cases call with
  | startBatch => exact hR.startBatchAt b.defaultLevel b
  | startBatchAt level => exact hR.startBatchAt level b
  | endBatch => exact hend
  | cleanBatch => exact hR.cleanBatch b
  | persist now T entity options =>
    exact discard (hcomp.bind (hR.rejectLevel options) fun _ =>
      write fun options => hR.upholds.persistIn T options entity) b
  | update now T p options =>
    exact hcomp.bind (hR.rejectLevel options)
      (fun _ => write fun options => hR.updateIn T p options) b
  | remove now T entity options =>
    exact hcomp.bind (hR.rejectLevel options)
      (fun _ => write fun options => hR.upholds.removeIn T options entity) b
  | removeById now T key => exact write (fun options => hR.upholds.removeByIdIn T options key) b
  | find T key options =>
    exact discard (hcomp.bind (hR.rejectLevel options) fun _ =>
      AdmitsCalls.onSite (hR.upholds.findIn T options key)) b
  | getProxy T key options =>
    exact discard (hcomp.bind (hR.rejectLevel options) fun _ =>
      AdmitsCalls.onSite (hR.upholds.getProxyIn T options key)) b
  | refresh T p options =>
    refine discard ?_ b
    unfold Batching.refresh
    split
    · exact hcomp.throw _
    · exact AdmitsCalls.onSite (hR.upholds.refreshIn T options p)

omit hR in
/-- Every call of a manager with windows, for a relation that does not look at what is sent. -/
theorem WindowCall.keeps_run (hR : Frames R) (call : WindowCall E) :
    Keeps (OnSites R) call.run := by
  intro b
  have hcomp := hR.admitsCalls.composes_onSites
  refine call.keeps_run_of_endBatch hR.admitsCalls ?_
  exact hcomp.bind (hR.admitsCalls.startBatchAt _) (fun _ => AdmitsCalls.onSite (hR.sendAll _)) b

/-! ### Moves -/

omit hR in
/-- Every move keeps the relation if changing entities through proxies does, or it registers a
type. -/
theorem Move.keeps_or_register (hR : Frames R)
    (hedit : ∀ (s : Site σ E) {w : Workspace E}, ProxyEdit s.workspace w →
      R s { s with workspace := w })
    {b c : Batching σ E} (h : Move b c) :
    R b.site c.site ∨ ∃ T : EntityType E, T.Built ∧
      c = { b with site := (Manager.register T b.site).2 } := by
  cases h with
  | restart => exact .inl (hR.outside b.site b.site.session b.site.trace _)
  | window call => exact .inl (call.keeps_run hR b)
  | complete T p => exact .inl (Manager.keeps_complete_of_admits hR.admitsCalls T p b.site)
  | edit hw => exact .inl (hedit b.site hw)
  | manager call hbuilt =>
    cases hregister : call.isRegister with
    | false => exact .inl (call.keeps_run hR.admitsCalls hregister b.site)
    | true =>
      cases call with
      | register T =>
        refine .inr ⟨T, hbuilt, ?_⟩
        have hrun : ((ManagerCall.register T).run b.site).2 = (Manager.register T b.site).2 :=
          discard_apply _ _
        rw [hrun]
      | _ => cases hregister

end WideColumn
