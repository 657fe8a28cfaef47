import WideColumn.Proofs.Operation.Run

/-!
# Relations that operations keep

A relation between the state before a run and the state after it is kept by an operation when every
run of the operation relates its two states, however it ends. A reflexive and transitive relation
that the steps keep is kept by everything that is built from them; so an invariant is proved once
for the steps (`Admits`) and holds of every operation on entities. `Upholds` is the general form,
for relations that depend on which requests are bound and on what the site is known to satisfy.
-/

namespace WideColumn.Op

variable {σ E S α β : Type}

/-- Every run relates the state before to the state after. -/
def Keeps (R : S → S → Prop) (op : ExceptT Stop (StateM S) α) : Prop := ∀ s, R s (op s).2

/-- A relation that runs one after the other keep when each of them does. -/
structure Composes (R : S → S → Prop) : Prop where
  refl (s : S) : R s s
  trans {s t u : S} : R s t → R t u → R s u

/-- A property of states that runs cannot lose. -/
theorem composes_of_invariant (P : S → Prop) : Composes fun s t : S => P s → P t where
  refl _ := id
  trans hst htu := htu ∘ hst

variable {R : S → S → Prop}

namespace Composes

/-- A sequence on one state: the second part starts where the first succeeded. -/
theorem bind_at (hR : Composes R) {x : ExceptT Stop (StateM S) α}
    {f : α → ExceptT Stop (StateM S) β} {s : S} (hx : R s (x s).2)
    (hf : ∀ a t, x s = (.ok a, t) → R t (f a t).2) : R s ((x >>= f) s).2 := by
  rcases h : x s with ⟨_ | a, t⟩
  · rw [bind_of_error h]
    simpa [h] using hx
  · rw [bind_of_ok h]
    rw [h] at hx
    exact hR.trans hx (hf a t h)

theorem bind (hR : Composes R) {x : ExceptT Stop (StateM S) α}
    {f : α → ExceptT Stop (StateM S) β} (hx : Keeps R x) (hf : ∀ a, Keeps R (f a)) :
    Keeps R (x >>= f) := by
  intro s
  exact hR.bind_at (hx s) fun a t _ => hf a t

theorem pure (hR : Composes R) (a : α) : Keeps R (Pure.pure a : ExceptT Stop (StateM S) α) :=
  hR.refl

theorem throw (hR : Composes R) (e : Stop) : Keeps R (throw e : ExceptT Stop (StateM S) α) :=
  hR.refl

/-- On one state: after a check, the rest may count on what was checked. -/
theorem lift_bind_at (hR : Composes R) {r : Except Error α} {s : S}
    {f : α → ExceptT Stop (StateM S) β} (hf : ∀ a, r = .ok a → R s (f a s).2) :
    R s (((liftM r : ExceptT Stop (StateM S) α) >>= f) s).2 := by
  cases r with
  | error e =>
    rw [lift_bind_of_error rfl]
    exact hR.refl s
  | ok a =>
    rw [lift_bind_of_ok rfl]
    exact hf a rfl

theorem lift_bind (hR : Composes R) {r : Except Error α} {f : α → ExceptT Stop (StateM S) β}
    (hf : ∀ a, r = .ok a → Keeps R (f a)) :
    Keeps R ((liftM r : ExceptT Stop (StateM S) α) >>= f) := by
  intro s
  exact hR.lift_bind_at fun a ha => hf a ha s

theorem forM (hR : Composes R) {xs : List α} {f : α → ExceptT Stop (StateM S) PUnit}
    (hf : ∀ x ∈ xs, Keeps R (f x)) : Keeps R (xs.forM f) := by
  induction xs with
  | nil => exact hR.refl
  | cons x xs ih =>
    rw [forM_cons]
    apply hR.bind (hf x List.mem_cons_self)
    intro _
    exact ih fun y hy => hf y (List.mem_cons_of_mem _ hy)

theorem mapM (hR : Composes R) {xs : List α} {f : α → ExceptT Stop (StateM S) β}
    (hf : ∀ x ∈ xs, Keeps R (f x)) : Keeps R (xs.mapM f) := by
  induction xs with
  | nil =>
    rw [List.mapM_nil]
    exact hR.refl
  | cons x xs ih =>
    rw [List.mapM_cons]
    apply hR.bind (hf x List.mem_cons_self)
    intro _
    exact hR.bind (ih fun y hy => hf y (List.mem_cons_of_mem _ hy)) fun _ => hR.pure _

end Composes

theorem Composes.cell_bind {R : Site σ E → Site σ E → Prop} (hR : Composes R) {h : Handle}
    {f : Cell E → Op σ E β} (hf : ∀ c, Keeps R (f c)) : Keeps R (cell h >>= f) := by
  refine hR.bind (fun s => ?_) hf
  rw [cell_apply]
  split <;> exact hR.refl s

theorem keeps_get_bind {f : S → ExceptT Stop (StateM S) β} (hf : ∀ s, Keeps R (f s)) :
    Keeps R ((get : ExceptT Stop (StateM S) S) >>= f) := fun s => hf s s

/-- Every result of a run over a list comes from a run on an element. -/
theorem mem_of_mapM_eq_ok {f : α → ExceptT Stop (StateM S) β} {xs : List α} {ys : List β}
    {s t : S} (h : xs.mapM f s = (.ok ys, t)) {y : β} (hy : y ∈ ys) :
    ∃ x ∈ xs, ∃ u v, f x u = (.ok y, v) := by
  induction xs generalizing ys s t with
  | nil =>
    rw [List.mapM_nil] at h
    obtain ⟨hys, -⟩ := Prod.mk.inj h
    rw [← Except.ok.inj hys] at hy
    cases hy
  | cons x xs ih =>
    rw [List.mapM_cons] at h
    obtain ⟨first, u, hfirst, h⟩ := bind_eq_ok h
    obtain ⟨rest, v, hrest, h⟩ := bind_eq_ok h
    obtain ⟨hys, -⟩ := Prod.mk.inj h
    rw [← Except.ok.inj hys] at hy
    rcases List.mem_cons.1 hy with rfl | hy
    · exact ⟨x, List.mem_cons_self, s, u, hfirst⟩
    · obtain ⟨x', hx', hrun⟩ := ih hrest hy
      exact ⟨x', List.mem_cons_of_mem _ hx', hrun⟩

variable [Session σ]

/-- A relation that the steps of the operations on entities keep, as long as every write that is
handed to the outbox satisfies `W` and every read satisfies `Q`. It need not be kept by runs that
start on sites without `I`, so on the others the steps may count on `I`. `F` holds of the handles of
new cells; only their options may change. -/
structure Upholds (I : Site σ E → Prop) (F : Handle → Prop) (R : Site σ E → Site σ E → Prop)
    (W : BatchKind → Request → Prop) (Q : Request → Prop) : Prop extends Composes R where
  assuming {s t : Site σ E} : (I s → R s t) → R s t
  push {r : Request} : W .logged r → Keeps R (push r)
  pushCounter {r : Request} : W .counter r → Keeps R (pushCounter r)
  execute {r : Request} : Q r → Keeps R (executeRequest r)
  trigger (T : EntityType E) (h : Handle) (event : Event) : Keeps R (trigger T h event)
  addEntity (entity : E) : Keeps R (addEntity entity)
  fresh {s : Site σ E} (entity : E) : I s → F (s.workspace.add entity).1
  /-- The record of changes of a cell is only ever kept or given up. Until it is given up, no
  attribute stops counting as loaded. -/
  modifyCell (h : Handle) (f : Cell E → Cell E) :
    (∀ c, (f c).dirty = c.dirty ∨ (f c).dirty = .empty) → (∀ c, (f c).options = c.options) →
      (∀ c, (f c).dirty = .empty ∨ c.loaded ⊆ (f c).loaded) → Keeps R (modifyCell h f)
  record {h : Handle} (f : Cell E → Cell E) : F h → (∀ c, (f c).dirty = c.dirty) →
    Keeps R (Op.modifyCell h f)

/-- A relation that the steps of writing keep, events apart. -/
structure UpholdsWrites (I : Site σ E → Prop) (R : Site σ E → Site σ E → Prop)
    (W : BatchKind → Request → Prop) : Prop extends Composes R where
  assuming {s t : Site σ E} : (I s → R s t) → R s t
  push {r : Request} : W .logged r → Keeps R (push r)
  pushCounter {r : Request} : W .counter r → Keeps R (pushCounter r)
  modifyCell (h : Handle) (f : Cell E → Cell E) :
    (∀ c, (f c).dirty = c.dirty ∨ (f c).dirty = .empty) → (∀ c, (f c).options = c.options) →
      (∀ c, (f c).dirty = .empty ∨ c.loaded ⊆ (f c).loaded) → Keeps R (modifyCell h f)

theorem Upholds.writes {I : Site σ E → Prop} {F : Handle → Prop} {R : Site σ E → Site σ E → Prop}
    {W : BatchKind → Request → Prop} {Q : Request → Prop} (h : Upholds I F R W Q) :
    UpholdsWrites I R W :=
  ⟨h.toComposes, h.assuming, h.push, h.pushCounter, h.modifyCell⟩

/-- A relation that the steps of the operations on entities keep, as long as every write that is
handed to the outbox satisfies `W`. -/
structure Admits (R : Site σ E → Site σ E → Prop) (W : BatchKind → Request → Prop) : Prop
    extends Composes R where
  push {r : Request} : W .logged r → Keeps R (push r)
  pushCounter {r : Request} : W .counter r → Keeps R (pushCounter r)
  trigger (T : EntityType E) (h : Handle) (event : Event) : Keeps R (trigger T h event)
  addEntity (entity : E) : Keeps R (addEntity entity)
  /-- The record of changes of a cell is only ever kept or given up. -/
  modifyCell (h : Handle) (f : Cell E → Cell E) :
    (∀ c, (f c).dirty = c.dirty ∨ (f c).dirty = .empty) → Keeps R (modifyCell h f)

/-- A coarser relation is kept wherever a finer one is. -/
theorem Admits.mono {R R' : Site σ E → Site σ E → Prop} {W : BatchKind → Request → Prop}
    (h : Admits R W) (hR' : Composes R') (himp : ∀ s t, R s t → R' s t) : Admits R' W where
  toComposes := hR'
  push hr := fun s => himp _ _ (h.push hr s)
  pushCounter hr := fun s => himp _ _ (h.pushCounter hr s)
  trigger T handle event := fun s => himp _ _ (h.trigger T handle event s)
  addEntity entity := fun s => himp _ _ (h.addEntity entity s)
  modifyCell handle f hf := fun s => himp _ _ (h.modifyCell handle f hf s)

/-- Nothing is counted on, and every read is given by what it has to keep. -/
theorem Admits.upholds {R : Site σ E → Site σ E → Prop} {W : BatchKind → Request → Prop}
    (h : Admits R W) :
    Upholds (fun _ => True) (fun _ => True) R W fun r => Keeps R (executeRequest r) where
  toComposes := h.toComposes
  assuming himp := himp trivial
  push := h.push
  pushCounter := h.pushCounter
  execute := id
  trigger := h.trigger
  addEntity := h.addEntity
  fresh _ _ := trivial
  modifyCell handle f hf _ _ := h.modifyCell handle f hf
  record f _ hf := h.modifyCell _ f fun c => .inl (hf c)

end WideColumn.Op

namespace WideColumn.Call

open Op

variable {σ E : Type} [Session σ] {R : Site σ E → Site σ E → Prop}
  {W : BatchKind → Request → Prop}

/-- The request that reads the row of a key. -/
def readRequest (c : Call E) (r : Registry) (key : List Value) : Except Error Request :=
  if c.entityMeta.isClusteredCounter then
    r.bindClustered .select Template.selectAll c.entityMeta key
      (Levels.read c.options c.entityMeta)
  else r.bindSelect c.entityMeta key (Levels.read c.options c.entityMeta)

/-- What a load makes of the rows it receives: the first one is the entity. -/
def received (c : Call E) : List Row → Op σ E (Option Handle)
  | [] => return none
  | row :: _ => do
    let entity ← c.type.ofRow row
    let h ← Op.addEntity entity
    Op.trigger c.type h .postLoad
    return some h

theorem load_apply (c : Call E) (key : List Value) (s : Site σ E) :
    c.load key s = ((liftM (c.readRequest s.registry key) : Op σ E Request) >>=
      fun request => Op.executeRequest request >>= c.received) s := by
  unfold load readRequest
  rw [get_bind_apply]
  dsimp only
  split <;> rfl

/-- What finding an entity makes of the rows it receives. -/
def receivedProxy (c : Call E) (key : List Value) : List Row → Op σ E (Option Proxy)
  | [] => return none
  | row :: _ => do
    let entity ← c.type.ofRow row
    let h ← Op.addEntity entity
    Op.trigger c.type h .postLoad
    return some (← c.manage h key c.entityMeta.eagerlyLoaded)

/-- The proxy of what was loaded, if anything was. -/
def manageLoaded (c : Call E) (key : List Value) : Option Handle → Op σ E (Option Proxy)
  | none => return none
  | some h => return some (← c.manage h key c.entityMeta.eagerlyLoaded)

theorem find_apply (c : Call E) (key : List Value) (s : Site σ E) :
    c.find key s = ((liftM (c.readRequest s.registry key) : Op σ E Request) >>=
      fun request => Op.executeRequest request >>= c.receivedProxy key) s := by
  have hrows (rows : List Row) : (c.received rows >>= c.manageLoaded key : Op σ E (Option Proxy)) =
      c.receivedProxy key rows := by
    cases rows with
    | nil => rfl
    | cons row rest => simp only [received, receivedProxy, manageLoaded, bind_assoc, pure_bind]
  have hfind : (c.find key : Op σ E (Option Proxy)) = c.load key >>= c.manageLoaded key := by
    unfold find
    congr 1
  rw [hfind, bind_apply, load_apply, ← bind_apply]
  simp only [bind_assoc]
  exact congrArg (fun k => ((liftM (c.readRequest s.registry key) : Op σ E Request) >>=
    fun request => Op.executeRequest request >>= k) s) (funext hrows)

/-- The request that reads a counter. -/
def readCounterRequest (c : Call E) (r : Registry) (pm : PropertyMeta) (key : List Value) :
    Except Error Request :=
  let level := Levels.readProperty c.options pm c.entityMeta
  if c.entityMeta.isClusteredCounter then r.bindClustered .select pm.name c.entityMeta key level
  else r.bindShared .select c.entityMeta pm key level

/-- What reading a counter makes of the rows it receives. -/
def receivedCounter (c : Call E) (p : Proxy) (pm : PropertyMeta) (rows : List Row) :
    Op σ E Unit := do
  let column := if c.entityMeta.isClusteredCounter then pm.name else Template.counterValue
  let value := (firstValue rows column >>= Value.int?).map Int64.toInt
  Op.modifyCell p.handle fun cell =>
    { cell with entity := setCounterLoaded c.type pm.name value cell.entity }
  markLoaded p pm.name

theorem readCounter_apply (c : Call E) (p : Proxy) (pm : PropertyMeta) (s : Site σ E) :
    c.readCounter p pm s =
      ((liftM (c.readCounterRequest s.registry pm p.key) : Op σ E Request) >>=
        fun request => Op.executeRequest request >>= c.receivedCounter p pm) s := by
  unfold readCounter readCounterRequest receivedCounter
  rw [get_bind_apply]
  cases c.entityMeta.isClusteredCounter <;> rfl

/-- Only counters of the list are drained. -/
theorem mem_of_mem_drainCounters {T : EntityType E} {properties : List PropertyMeta} {entity : E}
    {x : PropertyMeta × List Int} (h : x ∈ (drainCounters T properties entity).1) :
    x.1 ∈ properties := by
  induction properties generalizing entity with
  | nil => cases h
  | cons pm rest ih =>
    unfold drainCounters at h
    split at h
    · exact List.mem_cons_of_mem _ (ih h)
    · rcases List.mem_cons.1 h with rfl | h
      · exact List.mem_cons_self
      · exact List.mem_cons_of_mem _ (ih h)

/-- Writing what changed on a proxy, before the options of the call are recorded on it. -/
def updateParts (c : Call E) (p : Proxy) : Op σ E Unit := do
  Op.trigger c.type p.handle .preUpdate
  c.writeDirty p
  c.writeCounters p.handle p.key
  Op.trigger c.type p.handle .postUpdate

theorem update_eq_updateParts (c : Call E) (p : Proxy) :
    (c.update p : Op σ E Unit) = c.updateParts p >>= fun _ =>
      Op.modifyCell p.handle fun cell => { cell with options := c.proxyOptions } := by
  unfold update updateParts
  simp only [bind_assoc]

/-! ### Relations that count on the site -/

/-- Whatever a call binds on a site with `I` and hands to the outbox satisfies `W`; updates are left
to the proxy that is updated. -/
structure WritesOn (I : Site σ E → Prop) (c : Call E) (W : BatchKind → Request → Prop) :
    Prop where
  insert {s : Site σ E} {entity : E} {request : Request} : I s →
    c.entityMeta.isClusteredCounter = false →
    s.registry.bindInsert c.type c.entityMeta entity c.options
      (Levels.write c.options c.entityMeta) = .ok request → W .logged request
  delta {s : Site σ E} {pm : PropertyMeta} {key : List Value} {delta : Int} {request : Request} :
    I s → pm ∈ c.entityMeta.counters → c.bindDelta s.registry pm key delta = .ok request →
      W .counter request
  removal {s : Site σ E} {key : List Value} {requests : List Request} : I s →
    c.entityMeta.isClusteredCounter = false →
    s.registry.bindRemoval c.entityMeta key c.options (Levels.write c.options c.entityMeta) =
      .ok requests → ∀ request ∈ requests, W .logged request
  removeRow {s : Site σ E} {key : List Value} {request : Request} : I s →
    c.entityMeta.isClusteredCounter = true →
    s.registry.bindClustered .delete Template.deleteAll c.entityMeta key
      (Levels.write c.options c.entityMeta) = .ok request → W .counter request
  removeCounter {s : Site σ E} {pm : PropertyMeta} {key : List Value} {request : Request} : I s →
    c.entityMeta.isClusteredCounter = false → pm ∈ c.entityMeta.counters →
    s.registry.bindShared .delete c.entityMeta pm key
      (Levels.writeProperty c.options pm c.entityMeta) = .ok request → W .counter request

/-- The changes of a proxy, bound on a site with `I`, satisfy `W`. -/
def UpdatesOn (I : Site σ E → Prop) (c : Call E) (p : Proxy) (W : BatchKind → Request → Prop) :
    Prop :=
  ∀ ⦃s t : Site σ E⦄ ⦃cell : Cell E⦄ ⦃request : Request⦄, I s →
    s.workspace.cell? p.handle = some cell →
    (cell.dirty.properties.filter fun pm => !pm.isCounter) ≠ [] →
    Op.bindUpdate c.type c.entityMeta cell.entity
      (cell.dirty.properties.filter fun pm => !pm.isCounter) c.options
      (Levels.write c.options c.entityMeta) s = (.ok request, t) → W .logged request

/-- Whatever a call binds on a site with `I` to read a row satisfies `Q`. -/
def RowsOn (I : Site σ E → Prop) (c : Call E) (Q : Request → Prop) : Prop :=
  ∀ ⦃s : Site σ E⦄ ⦃key : List Value⦄ ⦃request : Request⦄, I s →
    c.readRequest s.registry key = .ok request → Q request

/-- Whatever a call binds on a site with `I` to read what is missing on a proxy satisfies `Q`. -/
structure FieldsOn (I : Site σ E → Prop) (c : Call E) (Q : Request → Prop) : Prop where
  field {s : Site σ E} {pm : PropertyMeta} {key : List Value} {request : Request} : I s →
    pm ∈ c.entityMeta.onDemand → s.registry.bindSelectField c.entityMeta pm key
      (Levels.readProperty c.options pm c.entityMeta) = .ok request → Q request
  counter {s : Site σ E} {pm : PropertyMeta} {key : List Value} {request : Request} : I s →
    pm ∈ c.entityMeta.counters → c.readCounterRequest s.registry pm key = .ok request → Q request

section Writes

variable {I : Site σ E → Prop} (hR : UpholdsWrites I R W) (c : Call E)
include hR

theorem upholds_get_bind {α : Type} {f : Site σ E → Op σ E α}
    (hf : ∀ s, I s → R s (f s s).2) : Keeps R ((get : Op σ E (Site σ E)) >>= f) := by
  intro s
  apply hR.assuming
  exact hf s

theorem upholds_sendDelta {key : List Value} {pm : PropertyMeta} {delta : Int}
    (hW : ∀ s request, I s → c.bindDelta s.registry pm key delta = .ok request →
      W .counter request) : Keeps R (c.sendDelta key pm delta) := by
  refine upholds_get_bind hR fun s hI => hR.lift_bind_at fun request hr => ?_
  exact hR.bind (hR.pushCounter (hW s request hI hr)) (fun _ => hR.pure _) s

/-- The counters of one key, as far as the deltas for that key satisfy `W`. -/
theorem upholds_writeCounters_of_key {key : List Value}
    (hW : ∀ s pm delta request, I s → pm ∈ c.entityMeta.counters →
      c.bindDelta s.registry pm key delta = .ok request → W .counter request) (h : Handle) :
    Keeps R (c.writeCounters h key) := by
  refine hR.cell_bind fun cell => hR.bind
    (hR.modifyCell _ _ (fun _ => .inl rfl) (fun _ => rfl) fun _ => .inr (List.Subset.refl _))
    fun _ => hR.forM fun x hx => hR.forM fun delta _ => ?_
  exact upholds_sendDelta hR c fun s request hI =>
    hW s x.1 delta request hI (mem_of_mem_drainCounters hx)

theorem upholds_writeCounters (hW : c.WritesOn I W) (h : Handle) (key : List Value) :
    Keeps R (c.writeCounters h key) :=
  upholds_writeCounters_of_key hR c (fun _ _ _ _ hI hpm hr => hW.delta hI hpm hr) h

theorem upholds_removeByKey (hW : c.WritesOn I W) (key : List Value) :
    Keeps R (c.removeByKey key) := by
  unfold removeByKey
  dsimp only
  split
  · next hem =>
    refine upholds_get_bind hR fun s hI => hR.lift_bind_at fun _ hr => ?_
    exact hR.bind (hR.pushCounter (hW.removeRow hI hem hr)) (fun _ => hR.pure _) s
  · next hem =>
    have hem : c.entityMeta.isClusteredCounter = false := by simpa using hem
    refine upholds_get_bind hR fun s hI => hR.lift_bind_at fun requests hr => ?_
    refine hR.bind (hR.forM fun request hmem => ?_) (fun _ => hR.forM fun pm hpm => ?_) s
    · exact hR.bind (hR.push (hW.removal hI hem hr request hmem)) fun _ => hR.pure _
    · refine upholds_get_bind hR fun t hI => hR.lift_bind_at fun _ hr => ?_
      exact hR.bind (hR.pushCounter (hW.removeCounter hI hem hpm hr)) (fun _ => hR.pure _) t

/-- The changes of a proxy on one site, as far as what is bound there satisfies `W`. -/
theorem upholds_writeDirty_at {p : Proxy} {s : Site σ E}
    (hupdate : ∀ ⦃t : Site σ E⦄ ⦃cell : Cell E⦄ ⦃request : Request⦄,
      s.workspace.cell? p.handle = some cell →
      (cell.dirty.properties.filter fun pm => !pm.isCounter) ≠ [] →
      Op.bindUpdate c.type c.entityMeta cell.entity
        (cell.dirty.properties.filter fun pm => !pm.isCounter) c.options
        (Levels.write c.options c.entityMeta) s = (.ok request, t) → W .logged request)
    (hbind : ∀ entity properties, R s (Op.bindUpdate c.type c.entityMeta entity properties
      c.options (Levels.write c.options c.entityMeta) s).2) : R s (c.writeDirty p s).2 := by
  unfold writeDirty
  refine hR.bind_at ?_ fun cell t hc => ?_
  · rw [cell_apply]
    split <;> exact hR.refl s
  · obtain ⟨hcell, rfl⟩ := cell_eq_ok hc
    split
    · next hchanged =>
      refine hR.bind_at (hbind _ _) fun request u hr => ?_
      exact hR.bind (hR.push (hupdate hcell (by simpa using hchanged) hr))
        (fun _ => hR.modifyCell _ (fun cell => { cell with dirty := .empty })
          (fun _ => .inr rfl) (fun _ => rfl) fun _ => .inl rfl) u
    · exact hR.refl t

theorem upholds_writeDirty {p : Proxy} (hupdate : c.UpdatesOn I p W)
    (hbind : ∀ entity properties, Keeps R (Op.bindUpdate c.type c.entityMeta entity properties
      c.options (Levels.write c.options c.entityMeta))) : Keeps R (c.writeDirty p) := by
  intro s
  apply hR.assuming
  intro hI
  exact upholds_writeDirty_at hR c (fun _ _ _ => hupdate hI) fun entity properties =>
    hbind entity properties s

end Writes

section

variable {I : Site σ E → Prop} {F : Handle → Prop} {Q : Request → Prop}
  (hR : Upholds I F R W Q) (c : Call E)
include hR

theorem upholds_manage {h : Handle} (hF : F h) (key : List Value) (loaded : List String) :
    Keeps R (c.manage h key loaded) :=
  hR.bind (hR.record _ hF fun _ => rfl) fun _ => hR.pure _

theorem upholds_addEntity_bind {α : Type} (entity : E) {f : Handle → Op σ E α}
    (hf : ∀ h, F h → Keeps R (f h)) : Keeps R (Op.addEntity entity >>= f) := by
  intro s
  apply hR.assuming
  intro hI
  refine hR.bind_at (hR.addEntity entity s) fun h t hadd => ?_
  rw [addEntity_apply] at hadd
  obtain rfl := Except.ok.inj (Prod.mk.inj hadd).1
  exact hf _ (hR.fresh entity hI) t

variable (hW : c.WritesOn I W)
include hW

theorem upholds_persist (entity : E) : Keeps R (c.persist entity) := by
  have rest (h : Handle) (hF : F h) (key : List Value) : Keeps R (do
      c.writeCounters h key
      Op.trigger c.type h .postPersist
      c.manage h key (c.entityMeta.properties.map fun pm => pm.name)) :=
    hR.bind (upholds_writeCounters hR.writes c hW h key) fun _ =>
      hR.bind (hR.trigger _ _ _) fun _ => upholds_manage hR c hF _ _
  refine upholds_addEntity_bind hR entity fun h hF => hR.bind (hR.trigger _ _ _) fun _ => ?_
  refine hR.cell_bind fun cell => ?_
  dsimp only
  split
  · next hem =>
    refine hR.cell_bind fun _ => upholds_get_bind hR.writes fun s hI =>
      hR.lift_bind_at fun _ hr => ?_
    have hwrite := hW.insert hI (by simpa using hem) hr
    exact hR.bind (hR.push hwrite) (fun _ => rest h hF _) s
  · exact rest h hF _

theorem upholds_remove (entity : E) : Keeps R (c.remove entity) :=
  hR.bind (hR.addEntity _) fun _ => hR.bind (hR.trigger _ _ _) fun _ =>
    hR.cell_bind fun _ => hR.bind (upholds_removeByKey hR.writes c hW _) fun _ => hR.trigger _ _ _

section Update

variable {p : Proxy} (hupdate : c.UpdatesOn I p W)
  (hbind : ∀ entity properties, Keeps R (Op.bindUpdate c.type c.entityMeta entity properties
    c.options (Levels.write c.options c.entityMeta)))
include hupdate hbind

theorem upholds_updateParts : Keeps R (c.updateParts p) :=
  hR.bind (hR.trigger _ _ _) fun _ =>
    hR.bind (upholds_writeDirty hR.writes c hupdate hbind) fun _ =>
      hR.bind (upholds_writeCounters hR.writes c hW _ _) fun _ => hR.trigger _ _ _

theorem upholds_update (hF : F p.handle) : Keeps R (c.update p) := by
  rw [update_eq_updateParts]
  exact hR.bind (upholds_updateParts hR c hW hupdate hbind) fun _ => hR.record _ hF fun _ => rfl

end Update

end

section

variable {I : Site σ E → Prop} {F : Handle → Prop} {Q : Request → Prop}
  (hR : Upholds I F R W Q) (c : Call E)
include hR

/-- A read, given the request that it is made of. -/
theorem upholds_read {α : Type} {r : Except Error Request} {s : Site σ E}
    (hr : ∀ request, r = .ok request → R s (Op.executeRequest request s).2)
    {f : List Row → Op σ E α} (hf : ∀ rows, Keeps R (f rows)) :
    R s (((liftM r : Op σ E Request) >>= fun request => Op.executeRequest request >>= f) s).2 := by
  refine hR.lift_bind_at fun request hrequest => ?_
  exact hR.bind_at (hr request hrequest) fun rows t _ => hf rows t

theorem upholds_received (rows : List Row) :
    Keeps R (c.received rows : Op σ E (Option Handle)) := by
  unfold received
  split
  · exact hR.pure _
  · exact hR.lift_bind fun _ _ => hR.bind (hR.addEntity _) fun _ =>
      hR.bind (hR.trigger _ _ _) fun _ => hR.pure _

theorem upholds_load (key : List Value)
    (hread : ∀ s r, c.readRequest s.registry key = .ok r → R s (Op.executeRequest r s).2) :
    Keeps R (c.load key) := by
  intro s
  rw [load_apply]
  exact upholds_read hR (hread s) fun _ => upholds_received hR c _

theorem upholds_find (key : List Value)
    (hread : ∀ s r, c.readRequest s.registry key = .ok r → R s (Op.executeRequest r s).2) :
    Keeps R (c.find key : Op σ E (Option Proxy)) := by
  intro s
  rw [find_apply]
  refine upholds_read hR (hread s) fun rows => ?_
  unfold receivedProxy
  split
  · exact hR.pure _
  · exact hR.lift_bind fun _ _ => upholds_addEntity_bind hR _ fun h hF =>
      hR.bind (hR.trigger _ _ _) fun _ => hR.bind (upholds_manage hR c hF _ _) fun _ => hR.pure _

theorem upholds_refresh (p : Proxy) (hload : Keeps R (c.load p.key : Op σ E (Option Handle))) :
    Keeps R (c.refresh p : Op σ E Refresh) := by
  refine hR.bind hload fun found => ?_
  split
  · exact hR.pure _
  · exact hR.cell_bind fun _ => hR.bind
      (hR.modifyCell _ _ (fun _ => .inr rfl) (fun _ => rfl) fun _ => .inl rfl) fun _ => hR.pure _

theorem upholds_proxyOfKey (key : List Value) : Keeps R (c.proxyOfKey key : Op σ E Proxy) :=
  hR.lift_bind fun _ _ => hR.lift_bind fun _ _ => upholds_addEntity_bind hR _ fun _ hF =>
    upholds_manage hR c hF _ _

/-- Another entity in a cell. -/
theorem upholds_setEntity (h : Handle) (f : Cell E → E) :
    Keeps R (Op.modifyCell h fun cell => { cell with entity := f cell }) :=
  hR.modifyCell _ _ (fun _ => .inl rfl) (fun _ => rfl) fun _ => .inr (List.Subset.refl _)

theorem upholds_markLoaded (p : Proxy) (name : String) :
    Keeps R (markLoaded p name : Op σ E Unit) :=
  hR.modifyCell _ _ (fun _ => .inl rfl) (fun _ => rfl) fun _ =>
    .inr fun _ hother => mem_addName.2 (.inr hother)

theorem upholds_receivedCounter (p : Proxy) (pm : PropertyMeta) (rows : List Row) :
    Keeps R (c.receivedCounter p pm rows : Op σ E Unit) :=
  hR.bind (upholds_setEntity hR p.handle fun _ => _) fun _ => upholds_markLoaded hR p pm.name

section Complete

variable (hQ : c.FieldsOn I Q)
include hQ

theorem upholds_readProperty (p : Proxy) {pm : PropertyMeta}
    (hpm : pm ∈ c.entityMeta.onDemand) : Keeps R (c.readProperty p pm : Op σ E Unit) := by
  refine upholds_get_bind hR.writes fun s hI =>
    upholds_read hR (fun request hr => ?_) fun rows => ?_
  · exact hR.execute (hQ.field hI hpm hr) s
  · exact hR.lift_bind fun _ _ => hR.cell_bind fun _ => hR.lift_bind fun _ _ =>
      hR.bind (upholds_setEntity hR p.handle fun _ => _) fun _ => upholds_markLoaded hR p pm.name

theorem upholds_readCounter (p : Proxy) {pm : PropertyMeta} (hpm : pm ∈ c.entityMeta.counters) :
    Keeps R (c.readCounter p pm : Op σ E Unit) := by
  intro s
  apply hR.assuming
  intro hI
  rw [readCounter_apply]
  exact upholds_read hR (fun request hr => hR.execute (hQ.counter hI hpm hr) s)
    fun rows => upholds_receivedCounter hR c p pm rows

theorem upholds_complete (p : Proxy) : Keeps R (c.complete p : Op σ E Unit) := by
  have unloaded (properties : List PropertyMeta) (step : PropertyMeta → Op σ E Unit)
      (hstep : ∀ pm ∈ properties, Keeps R (step pm)) :
      Keeps R (forUnloaded p properties step) := by
    refine hR.forM fun pm hpm => hR.cell_bind fun _ => ?_
    split
    · exact hstep pm hpm
    · exact hR.pure _
  exact hR.bind (unloaded _ _ fun _ hpm => upholds_readProperty hR c hQ p hpm) fun _ =>
    unloaded _ _ fun _ hpm => upholds_readCounter hR c hQ p hpm

end Complete

end

/-! ### Relations that need no site -/

/-- Whatever a call hands to the outbox satisfies `W`. -/
structure Writes (σ : Type) [Session σ] (c : Call E) (W : BatchKind → Request → Prop) : Prop where
  insert {r : Registry} {entity : E} {request : Request} :
    r.bindInsert c.type c.entityMeta entity c.options (Levels.write c.options c.entityMeta) =
      .ok request → W .logged request
  update {s t : Site σ E} {entity : E} {properties : List PropertyMeta} {request : Request} :
    Op.bindUpdate c.type c.entityMeta entity properties c.options
      (Levels.write c.options c.entityMeta) s = (.ok request, t) → W .logged request
  delta {r : Registry} {pm : PropertyMeta} {key : List Value} {delta : Int} {request : Request} :
    c.bindDelta r pm key delta = .ok request → W .counter request
  removal {r : Registry} {key : List Value} {requests : List Request} :
    r.bindRemoval c.entityMeta key c.options (Levels.write c.options c.entityMeta) =
      .ok requests → ∀ request ∈ requests, W .logged request
  removeRow {r : Registry} {key : List Value} {request : Request} :
    r.bindClustered .delete Template.deleteAll c.entityMeta key
      (Levels.write c.options c.entityMeta) = .ok request → W .counter request
  removeCounter {r : Registry} {pm : PropertyMeta} {key : List Value} {request : Request} :
    r.bindShared .delete c.entityMeta pm key (Levels.writeProperty c.options pm c.entityMeta) =
      .ok request → W .counter request

theorem Writes.writesOn {c : Call E} (h : c.Writes σ W) :
    c.WritesOn (fun _ : Site σ E => True) W where
  insert _ _ := h.insert
  delta _ _ := h.delta
  removal _ _ := h.removal
  removeRow _ _ := h.removeRow
  removeCounter _ _ _ := h.removeCounter

section

variable (hR : Admits R W) (c : Call E)
include hR

theorem keeps_manage (h : Handle) (key : List Value) (loaded : List String) :
    Keeps R (c.manage h key loaded) := upholds_manage hR.upholds c trivial key loaded

theorem keeps_sendDelta (hW : c.Writes σ W) (key : List Value) (pm : PropertyMeta) (delta : Int) :
    Keeps R (c.sendDelta key pm delta) :=
  upholds_sendDelta hR.upholds.writes c fun _ _ _ => hW.delta

theorem keeps_writeCounters (hW : c.Writes σ W) (h : Handle) (key : List Value) :
    Keeps R (c.writeCounters h key) := upholds_writeCounters hR.upholds.writes c hW.writesOn h key

theorem keeps_persist (hW : c.Writes σ W) (entity : E) : Keeps R (c.persist entity) :=
  upholds_persist hR.upholds c hW.writesOn entity

theorem keeps_writeDirty (hW : c.Writes σ W)
    (hbind : ∀ entity properties, Keeps R (Op.bindUpdate c.type c.entityMeta entity properties
      c.options (Levels.write c.options c.entityMeta)))
    (p : Proxy) : Keeps R (c.writeDirty p) :=
  upholds_writeDirty hR.upholds.writes c (fun _ _ _ _ _ _ _ => hW.update) hbind

theorem keeps_update (hW : c.Writes σ W)
    (hbind : ∀ entity properties, Keeps R (Op.bindUpdate c.type c.entityMeta entity properties
      c.options (Levels.write c.options c.entityMeta)))
    (p : Proxy) : Keeps R (c.update p) :=
  upholds_update hR.upholds c hW.writesOn (fun _ _ _ _ _ _ _ => hW.update) hbind trivial

theorem keeps_removeByKey (hW : c.Writes σ W) (key : List Value) :
    Keeps R (c.removeByKey key) := upholds_removeByKey hR.upholds.writes c hW.writesOn key

theorem keeps_remove (hW : c.Writes σ W) (entity : E) : Keeps R (c.remove entity) :=
  upholds_remove hR.upholds c hW.writesOn entity

theorem keeps_load (key : List Value)
    (hread : ∀ s r, c.readRequest s.registry key = .ok r → R s (Op.executeRequest r s).2) :
    Keeps R (c.load key) := upholds_load hR.upholds c key hread

theorem keeps_find (key : List Value)
    (hread : ∀ s r, c.readRequest s.registry key = .ok r → R s (Op.executeRequest r s).2) :
    Keeps R (c.find key : Op σ E (Option Proxy)) := upholds_find hR.upholds c key hread

theorem keeps_refresh (p : Proxy) (hload : Keeps R (c.load p.key : Op σ E (Option Handle))) :
    Keeps R (c.refresh p : Op σ E Refresh) := upholds_refresh hR.upholds c p hload

theorem keeps_proxyOfKey (key : List Value) : Keeps R (c.proxyOfKey key : Op σ E Proxy) :=
  upholds_proxyOfKey hR.upholds c key

theorem keeps_complete (hexec : ∀ r, Keeps R (Op.executeRequest r : Op σ E (List Row)))
    (p : Proxy) : Keeps R (c.complete p : Op σ E Unit) :=
  upholds_complete hR.upholds c
    ⟨fun {_ _ _ r} _ _ _ => hexec r, fun {_ _ _ r} _ _ _ => hexec r⟩ p

end

end WideColumn.Call
