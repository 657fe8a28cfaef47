import WideColumn.Proofs.Edit.Inversion
import WideColumn.Proofs.Event.Contract

/-!
# Edits while a window ends

A list, set, map or counter that is open on its proxy is out of the entity until it is put back,
while the end of a window runs the events that were put off on the entity, whatever is open. The
interceptors that run meanwhile find the vacant value in the place of the attribute, and what they
make of it is overwritten when the attribute is put back. Only where they have nothing to do with the
attribute, it is as if the attribute had been opened for each edit alone. Main statement:
`interleaving_contract`.
-/

namespace WideColumn

open Op

variable {σ E C : Type}

/-! ### Attributes that are opened -/

/-- How an attribute is opened on its proxy. -/
inductive Opening (E : Type) : Type → Type 1 where
  | view {C : Type} (property : String) (access : Access) (accessor : Accessor E C) (vacant : C) :
    Opening E C
  | counter (property : String) : Opening E Counter

namespace Opening

/-- The attribute of an entity; a counter may have no cell. -/
def get? (T : EntityType E) (entity : E) : Opening E C → Option C
  | view _ _ accessor _ => some (accessor.get entity)
  | counter property => T.counter? entity property

/-- The entity with another attribute. -/
def set (T : EntityType E) (entity : E) : Opening E C → C → E
  | view _ _ accessor _, x => accessor.set entity x
  | counter property, x => T.setCounter entity property x

/-- What is left in the entity while the attribute is out of it. -/
def vacant : Opening E C → C
  | view _ _ _ vacant => vacant
  | counter _ => .empty

/-- The attribute is a part of the entity, which is read and written like a field. -/
structure Lawful (T : EntityType E) (o : Opening E C) : Prop where
  get?_set (entity : E) (x : C) : o.get? T (o.set T entity x) = some x
  set_set (entity : E) (x y : C) : o.set T (o.set T entity x) y = o.set T entity y
  set_get? {entity : E} {x : C} : o.get? T entity = some x → o.set T entity x = entity

/-- The interceptors of an event do the same whatever the attribute is, and leave it as it is. -/
def SparedBy (T : EntityType E) (o : Opening E C) (d : Deferred E) : Prop :=
  ∀ entity x, d.type.intercept (o.set T entity x) d.event =
    ((d.type.intercept entity d.event).1, o.set T (d.apply entity) x,
      (d.type.intercept entity d.event).2.2)

end Opening

/-! ### What happens meanwhile -/

/-- What can happen while an attribute is open: it is edited, or the window ends. -/
inductive Meanwhile (C : Type) where
  | edit (f : C → C)
  | endBatch

namespace Meanwhile

variable [Session σ]

/-- The manager, and what is held of the attribute, after one such thing. -/
def run {H : Type} (edit : H → (C → C) → H) (now : Batching σ E × H) :
    Meanwhile C → Batching σ E × H
  | .edit f => (now.1, edit now.2 f)
  | .endBatch => ((Batching.endBatch now.1).2, now.2)

/-- The attribute after the edits. -/
def edited : List (Meanwhile C) → C → C
  | [], x => x
  | .edit f :: rest, x => edited rest (f x)
  | .endBatch :: rest, x => edited rest x

/-- The manager after the ends of the window. -/
def ended : List (Meanwhile C) → Batching σ E → Batching σ E
  | [], b => b
  | .edit _ :: rest, b => ended rest b
  | .endBatch :: rest, b => ended rest (Batching.endBatch b).2

/-- The events on the entity of a handle that the ends of the window come to. -/
def fired (h : Handle) : List (Meanwhile C) → Batching σ E → List (Deferred E)
  | [], _ => []
  | .edit _ :: rest, b => fired h rest b
  | .endBatch :: rest, b =>
    ((Firing.of b.site.outbox.events b.site.workspace).events.filter fun d => d.handle = h) ++
      fired h rest (Batching.endBatch b).2

/-- Edits do not reach the manager, and the end of a window does not reach what is held. -/
theorem foldl_run {H : Type} (edit : H → (C → C) → H) (content : H → C)
    (hedit : ∀ held f, content (edit held f) = f (content held)) (happenings : List (Meanwhile C))
    (b : Batching σ E) (held : H) :
    (happenings.foldl (run edit) (b, held)).1 = ended happenings b ∧
      content (happenings.foldl (run edit) (b, held)).2 = edited happenings (content held) := by
  induction happenings generalizing b held with
  | nil => exact ⟨rfl, rfl⟩
  | cons happening rest ih =>
    cases happening with
    | edit f =>
      have hrest := ih b (edit held f)
      rw [hedit] at hrest
      exact hrest
    | endBatch => exact ih (Batching.endBatch b).2 held

/-- The entity goes through the interceptors that run meanwhile. -/
theorem entity?_ended (h : Handle) (happenings : List (Meanwhile C)) (b : Batching σ E) :
    (ended happenings b).site.workspace.entity? h = (b.site.workspace.entity? h).map fun entity =>
      (fired h happenings b).foldl (fun e d => d.apply e) entity := by
  induction happenings generalizing b with
  | nil => simp [ended, fired]
  | cons happening rest ih =>
    cases happening with
    | edit f => exact ih b
    | endBatch =>
      have hends := congrArg (Workspace.entity? · h) b.endBatch_fires.workspace
      unfold ended fired
      simp only [Firing.entity?_of] at hends
      rw [ih, hends, Option.map_map]
      simp [Function.comp_def, List.foldl_append]

end Meanwhile

/-! ### The attribute aside, and in its place -/

/-- An event fails as its interceptors do on its entity, or there is no entity. -/
theorem Deferred.error_fire (d : Deferred E) (w : Workspace E) :
    (d.fire w).2.2 = match w.entity? d.handle with
      | none => some noCell
      | some entity => (d.type.intercept entity d.event).2.2.map .failed := by
  cases hc : w.cell? d.handle with
  | none => simp [fire_of_no_cell hc, Workspace.entity?, hc]
  | some c => simp [fire_of_cell hc, Workspace.entity?, hc]

/-- The same entities, but the attribute is out of the entity of a handle in the first workspace, and
in its place in the second one. -/
structure Workspace.Aside (T : EntityType E) (o : Opening E C) (h : Handle) (x : C)
    (w w' : Workspace E) : Prop where
  others {k : Handle} : k ≠ h → w'.entity? k = w.entity? k
  entity : ∃ entity, w.entity? h = some (o.set T entity o.vacant) ∧
    w'.entity? h = some (o.set T entity x)

namespace Workspace.Aside

variable {T : EntityType E} {o : Opening E C} {h : Handle} {x : C} {w w' : Workspace E}

/-- An event that spares the attribute cannot tell where it is. -/
theorem fire {d : Deferred E} (hspared : d.handle = h → o.SparedBy T d)
    (haside : Aside T o h x w w') :
    (d.fire w').2.2 = (d.fire w).2.2 ∧ Aside T o h x (d.fire w).2.1 (d.fire w').2.1 := by
  obtain ⟨entity, hentity, hentity'⟩ := haside.entity
  rw [d.error_fire, d.error_fire]
  by_cases hd : d.handle = h
  · subst hd
    have hspared := hspared rfl
    rw [hentity, hentity']
    refine ⟨?_, fun {k} hk => ?_, d.apply entity, ?_, ?_⟩
    · simp only [hspared entity]
    · rw [d.entity?_fire, d.entity?_fire, if_neg (Ne.symm hk), if_neg (Ne.symm hk)]
      exact haside.others hk
    · rw [d.entity?_fire, if_pos rfl, hentity]
      simp [Deferred.apply, hspared entity]
    · rw [d.entity?_fire, if_pos rfl, hentity']
      simp [Deferred.apply, hspared entity]
  · rw [haside.others hd]
    refine ⟨rfl, fun {k} hk => ?_, entity, ?_, ?_⟩
    · rw [d.entity?_fire, d.entity?_fire, haside.others hk]
    · rw [d.entity?_fire, if_neg hd, hentity]
    · rw [d.entity?_fire, if_neg hd, hentity']

/-- So do events, one after the other. -/
theorem firing {events : List (Deferred E)}
    (hspared : ∀ d ∈ events, d.handle = h → o.SparedBy T d) (haside : Aside T o h x w w') :
    Aside T o h x (Firing.of events w).workspace (Firing.of events w').workspace := by
  induction events generalizing w w' with
  | nil => exact haside
  | cons d rest ih =>
    obtain ⟨herror, hfired⟩ := haside.fire (hspared d List.mem_cons_self)
    cases hfire : (d.fire w).2.2 with
    | some e =>
      rw [Firing.of_cons_of_error hfire, Firing.of_cons_of_error (herror.trans hfire)]
      exact hfired
    | none =>
      rw [Firing.of_cons_of_none hfire, Firing.of_cons_of_none (herror.trans hfire)]
      exact ih (fun d hd => hspared d (List.mem_cons_of_mem _ hd)) hfired

end Workspace.Aside

/-- Two managers with the same events put off, of which the second has the attribute in its place. -/
structure Batching.Aside (T : EntityType E) (o : Opening E C) (h : Handle) (x : C)
    (b b' : Batching σ E) : Prop where
  events : b'.site.outbox.events = b.site.outbox.events
  spared : ∀ d ∈ b.site.outbox.events, d.handle = h → o.SparedBy T d
  workspace : Workspace.Aside T o h x b.site.workspace b'.site.workspace

theorem Batching.Aside.endBatch [Session σ] {T : EntityType E} {o : Opening E C} {h : Handle} {x : C}
    {b b' : Batching σ E} (haside : Batching.Aside T o h x b b') :
    Batching.Aside T o h x (Batching.endBatch b).2 (Batching.endBatch b').2 := by
  have hnone (b : Batching σ E) : (Batching.endBatch b).2.site.outbox.events = [] := by
    rw [b.endBatch_fires.outbox]
    rfl
  refine ⟨by rw [hnone, hnone], by simp [hnone], ?_⟩
  rw [b.endBatch_fires.workspace, b'.endBatch_fires.workspace, haside.events]
  exact haside.workspace.firing haside.spared

/-! ### Opening and putting back -/

/-- A change of one cell, told by what it does to the entity. -/
theorem Workspace.entity?_modify_eq (w : Workspace E) (h : Handle) {f : Cell E → Cell E} {g : E → E}
    (hf : ∀ c, (f c).entity = g c.entity) :
    (w.modify h f).entity? = (w.modifyEntity h g).entity? := by
  funext k
  rw [entity?_modify hf, entity?_modifyEntity]

namespace Opening

variable [Session σ]

/-- The attribute is opened, things happen meanwhile, and it is put back. -/
def during (T : EntityType E) (p : Proxy) (b : Batching σ E) :
    Opening E C → List (Meanwhile C) → Except Error (Batching σ E)
  | view property access accessor vacant, happenings => do
    let (held, w) ← p.openView b.site.workspace property access accessor vacant
    let now := happenings.foldl (Meanwhile.run View.edit)
      ({ b with site.workspace := w }, held)
    return { now.1 with site.workspace := p.closeView now.1.site.workspace accessor now.2 }
  | counter property, happenings => do
    let (held, w) ← p.openCounter T b.site.workspace property
    let now := happenings.foldl (Meanwhile.run fun counter f => f counter)
      ({ b with site.workspace := w }, held)
    return { now.1 with
      site.workspace := p.closeCounter T now.1.site.workspace property now.2 }

/-- The attribute is opened for each edit alone, so that it is in its place when the window ends. -/
def apart (T : EntityType E) (p : Proxy) (o : Opening E C) :
    List (Meanwhile C) → Batching σ E → Except Error (Batching σ E)
  | [], b => .ok b
  | .edit f :: rest, b => do
    let b ← o.during T p b [.edit f]
    o.apart T p rest b
  | .endBatch :: rest, b => o.apart T p rest (Batching.endBatch b).2

/-- The metadata of the proxy lets the attribute be opened. -/
def Allowed (p : Proxy) : Opening E C → Prop
  | view property access _ _ => ∃ pm, p.writable property access = .ok pm
  | counter property => ∃ pm, p.entityMeta.property property = .ok pm ∧ pm.isCounter = true

/-- The attribute of an entity can be opened. -/
structure Opens (T : EntityType E) (p : Proxy) (o : Opening E C) (w : Workspace E) (entity : E)
    (x : C) : Prop where
  allowed : o.Allowed p
  found : w.entity? p.handle = some entity
  holds : o.get? T entity = some x

variable {T : EntityType E} {p : Proxy} {o : Opening E C}

/-- What is open was opened on an entity of the proxy. -/
theorem opens_of_during {b d : Batching σ E} {happenings : List (Meanwhile C)}
    (h : o.during T p b happenings = .ok d) :
    ∃ entity x, o.Opens T p b.site.workspace entity x := by
  cases o with
  | view property access accessor vacant =>
    obtain ⟨⟨held, w⟩, hopen, -⟩ := except_bind_eq_ok h
    obtain ⟨pm, cell, hpm, hcell, -, -⟩ := Proxy.openView_eq_ok hopen
    refine ⟨cell.entity, _, ⟨pm, hpm⟩, ?_, rfl⟩
    rw [Workspace.entity?, hcell]
    rfl
  | counter property =>
    obtain ⟨⟨held, w⟩, hopen, -⟩ := except_bind_eq_ok h
    obtain ⟨pm, cell, hpm, hcounter, hcell, hget, -⟩ := Proxy.openCounter_eq_ok hopen
    refine ⟨cell.entity, held, ⟨pm, hpm, hcounter⟩, ?_, hget⟩
    rw [Workspace.entity?, hcell]
    rfl

omit [Session σ] in
/-- A container that may be changed is opened. -/
theorem openView_of_writable {w : Workspace E} {cell : Cell E} {property : String}
    {access : Access} {pm : PropertyMeta} (hpm : p.writable property access = .ok pm)
    (hcell : w.cell? p.handle = some cell) (accessor : Accessor E C) (vacant : C) :
    ∃ w', p.openView w property access accessor vacant =
        .ok (⟨accessor.get cell.entity, pm, cell.dirty⟩, w') ∧
      w'.entity? = (w.modifyEntity p.handle (accessor.set · vacant)).entity? := by
  refine ⟨_, ?_, w.entity?_modify_eq p.handle (f := fun c =>
    { c with entity := accessor.set c.entity vacant, loaded := addName pm.name c.loaded })
    fun _ => rfl⟩
  simp [Proxy.openView, Proxy.cell, hpm, hcell, bind, Except.bind, pure, Except.pure]

omit [Session σ] in
/-- A counter that has a cell is opened. -/
theorem openCounter_of_counter {w : Workspace E} {cell : Cell E} {property : String}
    {pm : PropertyMeta} (hpm : p.entityMeta.property property = .ok pm)
    (hcounter : pm.isCounter = true) (hcell : w.cell? p.handle = some cell) {x : Counter}
    (hx : T.counter? cell.entity property = some x) :
    ∃ w', p.openCounter T w property = .ok (x, w') ∧
      w'.entity? = (w.modifyEntity p.handle (T.setCounter · property .empty)).entity? := by
  refine ⟨_, ?_, rfl⟩
  simp [Proxy.openCounter, Proxy.cell, hpm, hcounter, hcell, hx, bind, Except.bind, pure,
    Except.pure]

/-- An attribute that can be opened is taken out of the entity, and what was made of it is put
back. -/
theorem during_of_opens {b : Batching σ E} {entity : E} {x : C}
    (h : o.Opens T p b.site.workspace entity x) (happenings : List (Meanwhile C)) :
    ∃ w d, w.entity? = (b.site.workspace.modifyEntity p.handle (o.set T · o.vacant)).entity? ∧
      o.during T p b happenings = .ok d ∧
      d.site.outbox = (Meanwhile.ended happenings { b with site.workspace := w }).site.outbox ∧
      d.site.workspace.entity? =
        ((Meanwhile.ended happenings { b with site.workspace := w }).site.workspace.modifyEntity
          p.handle (o.set T · (Meanwhile.edited happenings x))).entity? := by
  obtain ⟨cell, hcell, rfl⟩ := Option.map_eq_some_iff.1 h.found
  cases o with
  | view property access accessor vacant =>
    obtain ⟨pm, hpm⟩ := h.allowed
    obtain rfl := Option.some.inj h.holds
    obtain ⟨w, hopen, hw⟩ := openView_of_writable hpm hcell accessor vacant
    obtain ⟨hended, hheld⟩ := Meanwhile.foldl_run View.edit View.container View.container_edit
      happenings { b with site.workspace := w } ⟨accessor.get cell.entity, pm, cell.dirty⟩
    refine ⟨w, _, hw, by simp only [during, hopen]; rfl, ?_, ?_⟩
    · rw [hended]
    · rw [hended, ← hheld]
      exact Workspace.entity?_modify_eq _ _ fun _ => rfl
  | counter property =>
    obtain ⟨pm, hpm, hcounter⟩ := h.allowed
    obtain ⟨w, hopen, hw⟩ := openCounter_of_counter hpm hcounter hcell h.holds
    obtain ⟨hended, hheld⟩ := Meanwhile.foldl_run (fun counter f => f counter) id (fun _ _ => rfl)
      happenings { b with site.workspace := w } x
    simp only [id_eq] at hheld
    refine ⟨w, _, hw, by simp only [during, hopen]; rfl, ?_, ?_⟩
    · rw [hended]
    · rw [hended, hheld]
      rfl

/-- What was opened could be opened; it was taken out of the entity, and what was made of it was put
back. -/
theorem during_eq_ok {b d : Batching σ E} {happenings : List (Meanwhile C)}
    (h : o.during T p b happenings = .ok d) :
    ∃ w entity x, o.Opens T p b.site.workspace entity x ∧
      w.entity? = (b.site.workspace.modifyEntity p.handle (o.set T · o.vacant)).entity? ∧
      w.entity? p.handle = some (o.set T entity o.vacant) ∧
      d.site.workspace.entity? =
        ((Meanwhile.ended happenings { b with site.workspace := w }).site.workspace.modifyEntity
          p.handle (o.set T · (Meanwhile.edited happenings x))).entity? := by
  obtain ⟨entity, x, hopens⟩ := opens_of_during h
  obtain ⟨w, d', hw, hduring, -, hd⟩ := during_of_opens hopens happenings
  obtain rfl := Except.ok.inj (h.symm.trans hduring)
  refine ⟨w, entity, x, hopens, hw, ?_, hd⟩
  rw [hw, Workspace.entity?_modifyEntity, if_pos rfl, hopens.found, Option.map_some]

end Opening

section

variable [Session σ] {T : EntityType E} {p : Proxy} {o : Opening E C} (ho : o.Lawful T)
include ho

omit [Session σ] in
/-- The attribute is put back. -/
theorem Workspace.Aside.entity?_eq {h : Handle} {x : C} {w w' : Workspace E}
    (haside : Aside T o h x w w') :
    w'.entity? = (w.modifyEntity h (o.set T · x)).entity? := by
  obtain ⟨entity, hentity, hentity'⟩ := haside.entity
  funext k
  rw [entity?_modifyEntity]
  split
  · next hk =>
    subst hk
    rw [hentity, hentity', Option.map_some, ho.set_set]
  · next hk => exact haside.others (Ne.symm hk)

variable (hallowed : o.Allowed p)
include hallowed

/-- Where the attribute is in its place, it is opened for one edit. -/
theorem Batching.Aside.edit {b b' : Batching σ E} {x : C} (haside : b.Aside T o p.handle x b')
    (f : C → C) :
    ∃ d, o.during T p b' [.edit f] = .ok d ∧ b.Aside T o p.handle (f x) d := by
  obtain ⟨entity, hentity, hentity'⟩ := haside.workspace.entity
  have hopens : o.Opens T p b'.site.workspace (o.set T entity x) x :=
    ⟨hallowed, hentity', ho.get?_set entity x⟩
  obtain ⟨w, d, hw, hduring, houtbox, hd⟩ := Opening.during_of_opens hopens [.edit f]
  have hfound (k : Handle) : d.site.workspace.entity? k =
      if p.handle = k then some (o.set T entity (f x)) else b'.site.workspace.entity? k := by
    rw [hd, Workspace.entity?_modifyEntity]
    show (if p.handle = k then (w.entity? k).map (o.set T · (f x)) else w.entity? k) = _
    rw [hw, Workspace.entity?_modifyEntity]
    split
    · next hk =>
      rw [← hk, hentity', Option.map_some, Option.map_some, ho.set_set, ho.set_set]
    · rfl
  have hworkspace : Workspace.Aside T o p.handle (f x) b.site.workspace d.site.workspace := by
    refine ⟨fun {k} hk => ?_, entity, hentity, ?_⟩
    · rw [hfound, if_neg (Ne.symm hk), haside.workspace.others hk]
    · rw [hfound, if_pos rfl]
  refine ⟨d, hduring, ?_, haside.spared, hworkspace⟩
  rw [houtbox]
  exact haside.events

/-- If the events that are put off spare the attribute, then it makes no difference to them whether
it is open. -/
theorem Opening.apart_of_aside (happenings : List (Meanwhile C)) {b b' : Batching σ E} {x : C}
    (haside : b.Aside T o p.handle x b') :
    ∃ c, o.apart T p happenings b' = .ok c ∧ c.site.workspace.entity? =
      ((Meanwhile.ended happenings b).site.workspace.modifyEntity p.handle
        (o.set T · (Meanwhile.edited happenings x))).entity? := by
  induction happenings generalizing b b' x with
  | nil => exact ⟨b', rfl, haside.workspace.entity?_eq ho⟩
  | cons happening rest ih =>
    cases happening with
    | edit f =>
      obtain ⟨d, hduring, hnext⟩ := haside.edit ho hallowed f
      obtain ⟨c, hc, hrest⟩ := ih hnext
      refine ⟨c, ?_, hrest⟩
      rw [apart, hduring]
      exact hc
    | endBatch => exact ih haside.endBatch

end

/-! ### The contract -/

/-- What comes of an attribute that is open on its proxy while a window ends. -/
structure InterleavingContract [Session σ] (T : EntityType E) (p : Proxy) (o : Opening E C)
    (b : Batching σ E) (happenings : List (Meanwhile C)) : Prop where
  /-- The interceptors that run meanwhile find the entity with the vacant value for the attribute, and
  what the edits made of the attribute is put into what they leave. -/
  account {d : Batching σ E} : o.during T p b happenings = .ok d → ∃ w entity x,
    b.site.workspace.entity? p.handle = some entity ∧ o.get? T entity = some x ∧
      w.entity? p.handle = some (o.set T entity o.vacant) ∧
      d.site.workspace.entity? p.handle = some (o.set T
        ((Meanwhile.fired p.handle happenings { b with site.workspace := w }).foldl
          (fun e event => event.apply e) (o.set T entity o.vacant))
        (Meanwhile.edited happenings x))
  /-- So the attribute is as the edits left it, whatever the interceptors made of it. -/
  overwritten {d : Batching σ E} {before after : E} {x : C} :
    o.during T p b happenings = .ok d →
    b.site.workspace.entity? p.handle = some before → o.get? T before = some x →
    d.site.workspace.entity? p.handle = some after →
    o.get? T after = some (Meanwhile.edited happenings x)
  /-- If the interceptors of the events that are put off on the entity do the same whatever the
  attribute is, then nothing is lost: it is as if it had been opened for each edit alone. -/
  spared {d : Batching σ E} : o.during T p b happenings = .ok d →
    (∀ event ∈ b.site.outbox.events, event.handle = p.handle → o.SparedBy T event) →
    ∃ c, o.apart T p happenings b = .ok c ∧
      c.site.workspace.entity? = d.site.workspace.entity?

/-- Whatever is done with an open attribute, and whenever the window ends meanwhile, interceptors do
not find the attribute and cannot write it. If they have nothing to do with it, nothing is lost. -/
theorem interleaving_contract [Session σ] {T : EntityType E} {o : Opening E C} (ho : o.Lawful T)
    (p : Proxy) (b : Batching σ E) (happenings : List (Meanwhile C)) :
    InterleavingContract T p o b happenings := by
  constructor
  case account =>
    intro d hduring
    obtain ⟨w, entity, x, hopens, -, hvacant, hd⟩ := Opening.during_eq_ok hduring
    refine ⟨w, entity, x, hopens.found, hopens.holds, hvacant, ?_⟩
    rw [hd, Workspace.entity?_modifyEntity, if_pos rfl, Meanwhile.entity?_ended]
    dsimp only
    rw [hvacant, Option.map_some, Option.map_some]
  case overwritten =>
    intro d before after x hduring hbefore hx hafter
    obtain ⟨w, entity, y, hopens, -, -, hd⟩ := Opening.during_eq_ok hduring
    obtain rfl := Option.some.inj (hbefore.symm.trans hopens.found)
    obtain rfl := Option.some.inj (hx.symm.trans hopens.holds)
    rw [hd, Workspace.entity?_modifyEntity, if_pos rfl] at hafter
    obtain ⟨left, -, rfl⟩ := Option.map_eq_some_iff.1 hafter
    exact ho.get?_set left _
  case spared =>
    intro d hduring hspared
    obtain ⟨w, entity, x, hopens, hw, hvacant, hd⟩ := Opening.during_eq_ok hduring
    have hworkspace : Workspace.Aside T o p.handle x w b.site.workspace := by
      refine ⟨fun {k} hk => ?_, entity, hvacant, ?_⟩
      · rw [hw, Workspace.entity?_modifyEntity, if_neg (Ne.symm hk)]
      · rw [hopens.found, ho.set_get? hopens.holds]
    have haside : Batching.Aside T o p.handle x { b with site.workspace := w } b :=
      ⟨rfl, hspared, hworkspace⟩
    obtain ⟨c, hc, hentities⟩ := Opening.apart_of_aside ho hopens.allowed happenings haside
    exact ⟨c, hc, hentities.trans hd.symm⟩

/-! ### Pages -/

namespace Page

/-- Pages whose inserts are counted as visits. -/
def counted : EntityType Page := type "site.Page" "pages" [tally]

/-- A window in which a page was written, with both events of the insert put off. -/
def counting : Batching Script Page :=
  (WindowCall.run (.persist 7 counted (.bare ⟨.bigint 1, .text "Start", .empty⟩) .none)
    (manager .empty [counted])).2

theorem reachable_counting : Reachable counting :=
  (reachable_manager_type _ _ _ _).window _

/-- The counter of a page is opened. -/
def openHits : Opening Page Counter := .counter "hits"

theorem lawful_openHits : openHits.Lawful counted where
  get?_set _ _ := rfl
  set_set _ _ _ := rfl
  set_get? {page x} h := by
    obtain rfl : page.hits = x := Option.some.inj h
    rfl

/-- The window ends, and then five visits are counted. -/
def visitedAfterwards : List (Meanwhile Counter) :=
  [.endBatch, .edit fun counter => counter.incrBy 5]

/-- The deltas that are queued on the first page. -/
def queued (run : Except Error (Batching Script Page)) : Option (List Int) := do
  let b ← run.toOption
  let page ← b.site.workspace.entity? first.handle
  return page.hits.takePending.1

/-- The interceptors count two visits while the counter is open. They are lost when it is put back; had
it been opened after the window, they would not be. -/
theorem interleaving_contract_counting :
    InterleavingContract counted first openHits counting visitedAfterwards ∧
      queued (openHits.during counted first counting visitedAfterwards) = some [5] ∧
      queued (openHits.apart counted first visitedAfterwards counting) = some [1, 1, 5] :=
  ⟨interleaving_contract lawful_openHits first counting visitedAfterwards, by decide +kernel,
    by decide +kernel⟩

/-- What interceptors write to an attribute is not kept while it is open. -/
theorem not_kept_of_open :
    ¬ ∀ (b : Batching Script Page) (T : EntityType Page) (p : Proxy) (o : Opening Page Counter)
      (happenings : List (Meanwhile Counter)) (c d : Batching Script Page),
      Reachable b → o.Lawful T → o.during T p b happenings = .ok d →
      o.apart T p happenings b = .ok c →
      d.site.workspace.entity? p.handle = c.site.workspace.entity? p.handle := by
  intro h
  have hduring : queued (openHits.during counted first counting visitedAfterwards) = some [5] := by
    decide +kernel
  have hapart :
      queued (openHits.apart counted first visitedAfterwards counting) = some [1, 1, 5] := by
    decide +kernel
  obtain ⟨d, hd⟩ := exists_eq_ok_of_isOk (show
    (openHits.during counted first counting visitedAfterwards).isOk = true by decide +kernel)
  obtain ⟨c, hc⟩ := exists_eq_ok_of_isOk (show
    (openHits.apart counted first visitedAfterwards counting).isOk = true by decide +kernel)
  have heq := h _ _ _ _ _ c d reachable_counting lawful_openHits hd hc
  rw [hd] at hduring
  rw [hc] at hapart
  simp only [queued, Except.toOption, Option.bind_eq_bind, Option.bind_some, heq] at hduring hapart
  rw [hapart] at hduring
  cases hduring

end Page

end WideColumn
