import WideColumn.Proofs.Rejection.Binding
import WideColumn.Proofs.Update.Immediate

/-!
# Rejected operations on entities

Which of the operations on entities have no effect when they are rejected. A removal is rejected
before anything is sent, but after its interceptors ran. An insert and the deltas are bound one
after the other, each after those before it were sent. An update takes the deltas off their cells
before it binds the first of them.
-/

namespace WideColumn

open Op

variable {σ E : Type}

/-! ### New entities -/

/-- A site with an entity more. -/
def Site.adding (s : Site σ E) (entity : E) : Site σ E :=
  { s with workspace := (s.workspace.add entity).2 }

theorem Site.cell_adding (s : Site σ E) (entity : E) :
    Op.cell (s.workspace.add entity).1 (s.adding entity) =
      (.ok ⟨entity, .empty, [], .none⟩, s.adding entity) := by
  rw [cell_apply]
  unfold adding
  rw [Workspace.cell?_add_self]

theorem untouched_adding (s : Site σ E) (entity : E) : Untouched s (s.adding entity) :=
  ⟨⟨[], by simp [Site.adding]⟩, rfl, Workspace.cell?_add⟩

/-- A change of the new entity leaves the others alone. -/
theorem untouched_modify_adding (s : Site σ E) (entity : E) (f : Cell E → Cell E) :
    Untouched s (modifyCell (s.workspace.add entity).1 f (s.adding entity)).2 := by
  refine ⟨⟨[], by simp [Site.adding]⟩, rfl, ?_⟩
  intro h c hc
  have hlt := Workspace.lt_of_cell? hc
  rw [modifyCell_apply]
  show ((s.workspace.add entity).2.modify (s.workspace.add entity).1 f).cell? h = some c
  rw [Workspace.cell?_modify, if_neg]
  · exact Workspace.cell?_add hc
  · rintro rfl
    exact Nat.lt_irrefl _ hlt

variable [Session σ]

theorem faithful_handOver (kind : BatchKind) (r : Request) :
    Keeps (Faithful (σ := σ) (E := E)) (handOver kind r) := by
  intro s
  rcases handOver_cases kind r s with ⟨-, hrun⟩ | ⟨-, hrun⟩ <;> rw [hrun]
  · exact ⟨_, rfl, rfl⟩
  · exact ⟨_, rfl, rfl⟩

/-- Whatever is written, the trace accounts for what is asked of the session. -/
theorem admits_faithful : Admits (Faithful (σ := σ) (E := E)) fun _ _ => True where
  toComposes := composes_faithful
  push _ := faithful_handOver .logged _
  pushCounter _ := faithful_handOver .counter _
  trigger T h event := fun s => by
    obtain ⟨acts, hproper⟩ := NeverRejects.trigger (T := T) h event s rfl
    exact ⟨acts, hproper.trace, hproper.session⟩
  addEntity entity := fun s => ⟨[], by rw [addEntity_apply]; simp, rfl⟩
  modifyCell h f _ := fun s => ⟨[], by rw [modifyCell_apply]; simp, rfl⟩

namespace Call

variable {c : Call E}

/-! ### Removing -/

omit [Session σ] in
/-- What binds the deletes of a row binds those of its counters, unless a statement is missing. -/
theorem not_rejection_of_bindShared {r : Registry} {em : EntityMeta} {key : List Value}
    {options : Options} {level : Level} {requests : List Request}
    (h : r.bindRemoval em key options level = .ok requests) {action : CounterAction}
    {pm : PropertyMeta} {level' : Level} {e : Error}
    (he : r.bindShared action em pm key level' = .error e) : e.isRejection = false := by
  obtain ⟨statements, hstatements, h⟩ := except_bind_eq_ok h
  obtain ⟨encoded, hencoded, -⟩ := except_bind_eq_ok h
  rcases except_bind_eq_error he with he | ⟨p, -, he⟩
  · unfold Registry.sharedCounter at he
    rw [hstatements] at he
    exact Registry.not_rejection_of_orMissing he
  · rcases except_bind_eq_error he with he | ⟨_, -, he⟩
    · unfold Registry.sharedCounterKey at he
      rw [hencoded] at he
      cases he
    · cases he

/-- Deleting the counters of a row is never rejected, when the deletes of the row were bound. -/
theorem neverRejects_removeCounters {key : List Value} {r : Registry} {requests : List Request}
    (h : r.bindRemoval c.entityMeta key c.options (Levels.write c.options c.entityMeta) =
      .ok requests) :
    NeverRejects c.type r (c.entityMeta.counters.forM fun pm => do
      let request ← (← get).registry.bindShared .delete c.entityMeta pm key
        (Levels.writeProperty c.options pm c.entityMeta)
      let _ ← pushCounter request : Op σ E Unit) := by
  apply NeverRejects.forM
  intro pm _
  apply NeverRejects.get_bind
  intro t ht
  rw [ht]
  apply NeverRejects.lift_bind
  · exact fun e he => not_rejection_of_bindShared h he
  · exact fun request _ => (NeverRejects.handOver .counter request).bind fun _ => .pure _

/-- A removal by key is rejected before it does anything. -/
theorem removeByKey_of_rejected {key : List Value} {s : Site σ E}
    (h : Rejected c.type s (c.removeByKey key s)) : (c.removeByKey key s).2 = s := by
  unfold removeByKey at h ⊢
  cases hclustered : c.entityMeta.isClusteredCounter with
  | true =>
    rw [hclustered, if_pos rfl, get_bind_apply] at h
    rw [if_pos rfl, get_bind_apply]
    cases hbind : s.registry.bindClustered .delete Template.deleteAll c.entityMeta key
        (Levels.write c.options c.entityMeta) with
    | error e => rw [lift_bind_of_error rfl]
    | ok request =>
      rw [lift_bind_of_ok hbind] at h
      have hnever : NeverRejects c.type s.registry
          (pushCounter request >>= fun _ => (pure () : Op σ E Unit)) :=
        (NeverRejects.handOver .counter request).bind fun _ => .pure _
      exact absurd h (hnever.not_rejected rfl)
  | false =>
    rw [hclustered, if_neg Bool.false_ne_true, get_bind_apply] at h
    rw [if_neg Bool.false_ne_true, get_bind_apply]
    cases hbind : s.registry.bindRemoval c.entityMeta key c.options
        (Levels.write c.options c.entityMeta) with
    | error e => rw [lift_bind_of_error rfl]
    | ok requests =>
      rw [lift_bind_of_ok hbind] at h
      have hpushes : NeverRejects c.type s.registry
          (requests.forM fun request => do let _ ← push request : Op σ E Unit) :=
        .forM fun request _ => (NeverRejects.handOver .logged request).bind fun _ => .pure _
      have hcounters := c.neverRejects_removeCounters (σ := σ) hbind
      exact absurd h ((hpushes.bind fun _ => hcounters).not_rejected rfl)

/-- What a removal does after its first event. -/
def removeRest (c : Call E) (h : Handle) : Op σ E Unit := do
  let key := c.type.key (← Op.cell h).entity
  c.removeByKey key
  Op.trigger c.type h .postRemove

theorem remove_apply (c : Call E) (entity : E) (s : Site σ E) :
    c.remove entity s =
      (Op.trigger c.type (s.workspace.add entity).1 .preRemove >>= fun _ =>
        c.removeRest (s.workspace.add entity).1) (s.adding entity) :=
  bind_of_ok (addEntity_apply entity s) _

theorem keeps_removeRest {R : Site σ E → Site σ E → Prop} (hR : Admits R fun _ _ => True)
    (c : Call E) (h : Handle) : Keeps R (c.removeRest h) :=
  hR.cell_bind fun _ => hR.bind (keeps_removeByKey hR c c.writes_true _) fun _ => hR.trigger _ _ _

/-- A rejected removal has no effect exactly when nothing watches its first event. -/
theorem remove_rejected_iff {entity : E} {s : Site σ E}
    (h : Rejected c.type s (c.remove entity s)) :
    Untouched s (c.remove entity s).2 ↔ c.type.hasInterceptor .preRemove = false := by
  rw [remove_apply] at h ⊢
  replace h := h.congr (t := s.adding entity) rfl rfl
  cases hwatched : c.type.hasInterceptor .preRemove with
  | true =>
    have hlt := h.effects_lt_of_watched hwatched fun _ =>
      keeps_removeRest admits_grows c _
    exact iff_of_false (not_untouched_of_lt hlt) nofun
  | false =>
    rw [bind_of_ok (trigger_unwatched _ _ _ _ hwatched)] at h ⊢
    unfold removeRest at h ⊢
    rw [bind_of_ok (s.cell_adding entity)] at h ⊢
    have hfaithful := keeps_removeByKey admits_faithful c c.writes_true
      (c.type.key entity) (s.adding entity)
    obtain ⟨hrejected, hsame⟩ := h.of_bind hfaithful fun _ =>
      .trigger _ _
    rw [hsame, removeByKey_of_rejected hrejected]
    exact iff_of_true (untouched_adding s entity) rfl

/-! ### Deltas -/

/-- A delta that is bound is handed over. -/
theorem effects_lt_sendDelta {key : List Value} {pm : PropertyMeta} {delta : Int} {s : Site σ E}
    {r : Request} (h : c.bindDelta s.registry pm key delta = .ok r) :
    s.effects < (c.sendDelta key pm delta s).2.effects := by
  unfold sendDelta
  rw [get_bind_apply, lift_bind_of_ok h]
  exact effects_lt_bind (effects_lt_handOver .counter r s) fun _ => composes_grows.pure _

/-- The site after the queued deltas were taken off the cell of a handle. -/
def draining (c : Call E) (h : Handle) (cell : Cell E) (s : Site σ E) : Site σ E :=
  (modifyCell h (fun old => { old with entity := (c.drained cell).entity }) s).2

/-- Every way in which the deltas of a cell are written, as far as the first of them matters. -/
inductive FirstDelta (c : Call E) (h : Handle) (key : List Value) (s : Site σ E) (cell : Cell E)
    (run : Except Stop Unit × Site σ E) : Prop
  /-- There is none. -/
  | none : c.due cell = [] → run = (.ok (), c.draining h cell s) → FirstDelta c h key s cell run
  /-- It cannot be bound, but all of them are off the cell. -/
  | unbound {x : PropertyMeta × Int} {rest : List (PropertyMeta × Int)} {e : Error} :
      c.due cell = x :: rest → c.bindDelta s.registry x.1 key x.2 = .error e →
      run = (.error (.failed e), c.draining h cell s) → FirstDelta c h key s cell run
  /-- It is handed over. -/
  | handed {x : PropertyMeta × Int} {rest : List (PropertyMeta × Int)} {r : Request} :
      c.due cell = x :: rest → c.bindDelta s.registry x.1 key x.2 = .ok r →
      s.effects < run.2.effects → FirstDelta c h key s cell run

theorem writeCounters_first (hT : c.type.LawfulCounters)
    (hnames : DistinctNames c.entityMeta.counters) {h : Handle} {s : Site σ E} {cell : Cell E}
    (hc : s.workspace.cell? h = some cell) (key : List Value) :
    c.FirstDelta h key s cell (c.writeCounters h key s) := by
  have hwrite : c.writeCounters h key s = c.sendEach key (c.due cell) (c.draining h cell s) := by
    rw [writeCounters_apply c hc, (drainCounters_spec hT hnames cell.entity).1]
    rfl
  rw [hwrite]
  cases hdue : c.due cell with
  | nil => exact .none hdue rfl
  | cons x rest =>
    have heach : c.sendEach key (x :: rest) (c.draining h cell s) =
        (c.sendDelta key x.1 x.2 >>= fun _ => c.sendEach key rest) (c.draining h cell s) := rfl
    rw [heach]
    cases hbind : c.bindDelta s.registry x.1 key x.2 with
    | error e =>
      have hfailed := sendDelta_of_error (s := c.draining h cell s) hbind
      exact .unbound hdue hbind (bind_of_error hfailed _)
    | ok r =>
      have hlt := effects_lt_sendDelta (s := c.draining h cell s) hbind
      refine .handed hdue hbind (effects_lt_bind hlt fun _ => ?_)
      exact composes_grows.forM fun y _ => keeps_sendDelta admits_grows c c.writes_true key y.1 y.2

/-- A delta that is due is queued no more once the deltas are taken off. -/
theorem drained_ne (hT : c.type.LawfulCounters) (hnames : DistinctNames c.entityMeta.counters)
    {cell : Cell E} {x : PropertyMeta × Int} {rest : List (PropertyMeta × Int)}
    (hdue : c.due cell = x :: rest) : c.drained cell ≠ cell := by
  intro heq
  have hsettled (pm : PropertyMeta) (hpm : pm ∈ c.entityMeta.counters) :
      c.type.pending cell.entity pm.name = [] := by
    have hpending := (drainCounters_spec hT hnames cell.entity).2 pm.name
    rw [if_pos (List.mem_map.2 ⟨pm, hpm, rfl⟩)] at hpending
    rw [← heq]
    exact hpending
  rw [due_of_settled hsettled] at hdue
  cases hdue

/-! ### Inserting -/

/-- What is bound first for a new entity cannot be bound: the first queued delta, for a counter
table, or else the row. -/
def FirstUnbound (T : EntityType E) (em : EntityMeta) (entity : E) : Prop :=
  if em.isClusteredCounter then
    ∃ x rest, queued T em.counters entity = x :: rest ∧ ¬ MagnitudeFits x.2
  else ¬ em.RowEncodes T entity

/-- Write the row of a new entity, which a counter table does not have. -/
def insertRow (c : Call E) (h : Handle) : Op σ E Unit :=
  if c.entityMeta.isClusteredCounter then pure ()
  else do
    let entity := (← Op.cell h).entity
    let request ← (← get).registry.bindInsert c.type c.entityMeta entity c.options
      (Levels.write c.options c.entityMeta)
    let _ ← Op.push request

/-- What an insert does after everything is written. -/
def persistEnd (c : Call E) (h : Handle) (key : List Value) : Op σ E Proxy := do
  Op.trigger c.type h .postPersist
  c.manage h key (c.entityMeta.properties.map fun pm => pm.name)

/-- What an insert does after its row is written. -/
def persistDeltas (c : Call E) (h : Handle) (key : List Value) : Op σ E Proxy := do
  c.writeCounters h key
  c.persistEnd h key

/-- What an insert does after its first event. -/
def persistRest (c : Call E) (h : Handle) : Op σ E Proxy := do
  let key := c.type.key (← Op.cell h).entity
  c.insertRow h
  c.persistDeltas h key

theorem persist_apply (c : Call E) (entity : E) (s : Site σ E) :
    c.persist entity s =
      (Op.trigger c.type (s.workspace.add entity).1 .prePersist >>= fun _ =>
        c.persistRest (s.workspace.add entity).1) (s.adding entity) := by
  unfold persist persistRest insertRow
  rw [bind_of_ok (addEntity_apply entity s)]
  cases c.entityMeta.isClusteredCounter with
  | true => rfl
  | false =>
    simp only [Bool.not_false, Bool.false_eq_true, if_true, if_false, bind_assoc]
    rfl

section

variable {R : Site σ E → Site σ E → Prop} (hR : Admits R fun _ _ => True) (c : Call E)
include hR

theorem keeps_persistEnd (h : Handle) (key : List Value) : Keeps R (c.persistEnd h key) :=
  hR.bind (hR.trigger _ _ _) fun _ => keeps_manage hR c _ _ _

theorem keeps_persistDeltas (h : Handle) (key : List Value) : Keeps R (c.persistDeltas h key) :=
  hR.bind (keeps_writeCounters hR c c.writes_true h key) fun _ => keeps_persistEnd hR c h key

theorem keeps_persistRest (h : Handle) : Keeps R (c.persistRest h) := by
  apply hR.cell_bind
  intro cell
  refine hR.bind ?_ fun _ => keeps_persistDeltas hR c h _
  unfold insertRow
  split
  · exact hR.pure _
  · exact hR.cell_bind fun _ => keeps_get_bind fun _ => hR.lift_bind fun _ _ =>
      hR.bind (hR.push trivial) fun _ => hR.pure _

end

/-- Without a queued delta, nothing that an insert does after its row is a reason to reject it. -/
theorem persistDeltas_not_rejected (hT : c.type.LawfulCounters)
    (hnames : DistinctNames c.entityMeta.counters) {h : Handle} {key : List Value} {s : Site σ E}
    {cell : Cell E} (hc : s.workspace.cell? h = some cell) (hdue : c.due cell = []) :
    ¬ Rejected c.type s (c.persistDeltas h key s) := by
  intro hrejected
  cases writeCounters_first hT hnames hc key with
  | none _ hrun =>
    unfold persistDeltas at hrejected
    rw [bind_of_ok hrun] at hrejected
    have hnever : NeverRejects c.type s.registry (c.persistEnd h key : Op σ E Proxy) :=
      (NeverRejects.trigger h _).bind fun _ => (NeverRejects.modifyCell h _).bind fun _ => .pure _
    exact hnever.not_rejected (s := c.draining h cell s) rfl (hrejected.congr rfl rfl)
  | unbound hcons => rw [hdue] at hcons; cases hcons
  | handed hcons => rw [hdue] at hcons; cases hcons

section

variable {h : Handle} {s : Site σ E} {cell : Cell E}

theorem insertRow_apply (hclustered : c.entityMeta.isClusteredCounter = false)
    (hc : s.workspace.cell? h = some cell) :
    c.insertRow h s = ((liftM (s.registry.bindInsert c.type c.entityMeta cell.entity c.options
      (Levels.write c.options c.entityMeta)) : Op σ E Request) >>= fun request =>
        Op.push request >>= fun _ => pure ()) s := by
  have hcell : Op.cell h s = (.ok cell, s) := by rw [cell_apply, hc]
  unfold insertRow
  rw [hclustered, if_neg Bool.false_ne_true, bind_of_ok hcell]
  rfl

theorem persistRest_apply (hc : s.workspace.cell? h = some cell) :
    c.persistRest h s =
      (c.insertRow h >>= fun _ => c.persistDeltas h (c.type.key cell.entity)) s :=
  bind_of_ok (by rw [cell_apply, hc]) _

end

section

variable {entity : E} {s : Site σ E} (hr : s.registry.isRegistered c.entityMeta.className = true)
  (hkey : c.entityMeta.KeyEncodes (c.type.key entity))
include hr hkey

/-- The row of a new entity, or nothing, is written first. -/
theorem persistRest_rejected_of_row (hclustered : c.entityMeta.isClusteredCounter = false)
    (h : Rejected c.type (s.adding entity)
      (c.persistRest (s.workspace.add entity).1 (s.adding entity))) :
    Untouched s (c.persistRest (s.workspace.add entity).1 (s.adding entity)).2 ↔
      ¬ c.entityMeta.RowEncodes c.type entity := by
  have hc := Workspace.cell?_add_self s.workspace entity
  have hrow := insertRow_apply (s := s.adding entity) hclustered hc
  obtain ⟨e, he, hrejects⟩ := h.stop
  rw [persistRest_apply (s := s.adding entity) hc] at he ⊢
  cases hbind : s.registry.bindInsert c.type c.entityMeta entity c.options
      (Levels.write c.options c.entityMeta) with
  | error error =>
    have hrun := hrow.trans (lift_bind_of_error hbind _ _)
    rw [bind_of_error hrun] at he ⊢
    rw [← Except.error.inj he] at hrejects
    have hnot := Registry.not_rowEncodes_of_bindInsert hr hkey hbind hrejects.1
    exact iff_of_true (untouched_adding s entity) hnot
  | ok request =>
    have hlt : s.effects <
        (c.insertRow (s.workspace.add entity).1 (s.adding entity)).2.effects := by
      have hrun := hrow.trans (lift_bind_of_ok hbind _ _)
      rw [hrun]
      exact effects_lt_bind (effects_lt_handOver .logged request (s.adding entity)) fun _ =>
        composes_grows.pure _
    have hall := effects_lt_bind (s := s.adding entity) hlt fun _ =>
      keeps_persistDeltas admits_grows c (s.workspace.add entity).1 (c.type.key entity)
    exact iff_of_false (not_untouched_of_lt (s := s) hall) fun hnot =>
      hnot (Registry.rowEncodes_of_bindInsert hbind)

/-- A row of a counter table is written by its deltas. -/
theorem persistRest_rejected_of_deltas (hT : c.type.LawfulCounters)
    (hnames : DistinctNames c.entityMeta.counters)
    (hclustered : c.entityMeta.isClusteredCounter = true)
    (h : Rejected c.type (s.adding entity)
      (c.persistRest (s.workspace.add entity).1 (s.adding entity))) :
    Untouched s (c.persistRest (s.workspace.add entity).1 (s.adding entity)).2 ↔
      ∃ x rest, queued c.type c.entityMeta.counters entity = x :: rest ∧
        ¬ MagnitudeFits x.2 := by
  have hc := Workspace.cell?_add_self s.workspace entity
  have hrest : c.persistRest (s.workspace.add entity).1 (s.adding entity) =
      c.persistDeltas (s.workspace.add entity).1 (c.type.key entity) (s.adding entity) := by
    rw [persistRest_apply (s := s.adding entity) hc]
    unfold insertRow
    rw [hclustered]
    rfl
  obtain ⟨e, he, hrejects⟩ := h.stop
  rw [hrest] at h he ⊢
  cases writeCounters_first (s := s.adding entity) hT hnames hc (c.type.key entity) with
  | none hdue _ => exact absurd h (persistDeltas_not_rejected hT hnames hc hdue)
  | @unbound x rest error hdue hbind hrun =>
    unfold persistDeltas at he ⊢
    rw [bind_of_error hrun] at he ⊢
    rw [← Except.error.inj he] at hrejects
    have hlarge := not_magnitude_of_bindDelta (r := s.registry) hr hkey hbind hrejects.1
    exact iff_of_true (untouched_modify_adding s entity _) ⟨x, rest, hdue, hlarge⟩
  | @handed x rest request hdue hbind hlt =>
    have hall := effects_lt_bind (s := s.adding entity) hlt fun _ =>
      keeps_persistEnd admits_grows c (s.workspace.add entity).1 (c.type.key entity)
    apply iff_of_false (not_untouched_of_lt (s := s) hall)
    rintro ⟨x', rest', hqueued, hlarge⟩
    have heq : x :: rest = x' :: rest' := hdue.symm.trans hqueued
    rw [← (List.cons.inj heq).1] at hlarge
    exact hlarge (magnitude_of_bindDelta hbind)

/-- A rejected insert whose key is right has no effect exactly when nothing watches its first event
and what is bound first cannot be bound. -/
theorem persist_rejected_iff (hT : c.type.LawfulCounters)
    (hnames : DistinctNames c.entityMeta.counters)
    (h : Rejected c.type s (c.persist entity s)) :
    Untouched s (c.persist entity s).2 ↔
      c.type.hasInterceptor .prePersist = false ∧ FirstUnbound c.type c.entityMeta entity := by
  rw [persist_apply] at h ⊢
  replace h := h.congr (t := s.adding entity) rfl rfl
  cases hwatched : c.type.hasInterceptor .prePersist with
  | true =>
    have hlt := h.effects_lt_of_watched hwatched fun _ => keeps_persistRest admits_grows c _
    exact iff_of_false (not_untouched_of_lt (s := s) hlt) fun hearly => nomatch hearly.1
  | false =>
    rw [bind_of_ok (trigger_unwatched _ _ _ _ hwatched)] at h ⊢
    rw [eq_self, true_and]
    unfold FirstUnbound
    split
    · next hclustered => exact persistRest_rejected_of_deltas hr hkey hT hnames hclustered h
    · next hplain =>
      exact persistRest_rejected_of_row hr hkey (Bool.eq_false_iff.2 hplain) h

end

/-! ### Updating -/

/-- Preparing an update fails only when the session refuses to. -/
theorem isRefused_of_preparedUpdate {em : EntityMeta} {properties : List PropertyMeta}
    {s u : Site σ E} {e : Stop} (h : Op.preparedUpdate em properties s = (.error e, u)) :
    isRefused s.session (u.trace.drop s.trace.length) = true := by
  unfold Op.preparedUpdate at h
  rw [get_bind_apply] at h
  dsimp only at h
  rw [bind_of_ok (modifyRegistry_apply _ _)] at h
  rcases hcached : (s.registry.updates.get (StatementKey.ofProperties em.className
    (properties.map fun pm => pm.name))).1 with _ | cached
  all_goals rw [hcached] at h
  · rcases bind_eq_error h with h | ⟨p, t, -, h⟩
    · rw [prepare_apply] at h
      obtain ⟨hanswer, rfl⟩ := Prod.mk.inj h
      rw [List.drop_left]
      simp [isRefused, Act.isRefused, hanswer, Except.isOk, Except.toBool]
    · cases h
  · cases h

section

variable {s u : Site σ E} {cell : Cell E}

theorem bindDirty_apply {statements : EntityStatements}
    (hstatements : s.registry.statements c.entityMeta = .ok statements) :
    c.bindDirty cell s = (Op.preparedUpdate c.entityMeta cell.dirty.properties >>= fun p =>
      (liftM (Registry.updateValues c.type c.entityMeta cell.entity cell.dirty.properties
        c.options) : Op σ E (List Value)) >>= fun values =>
          pure ((Request.bound p values (Levels.write c.options c.entityMeta)).withTimestamp
            c.options.timestamp)) s := by
  unfold bindDirty bindUpdate
  rw [get_bind_apply, lift_bind_of_ok hstatements]
  rw [show cell.dirty.properties.mergeSort (fun a b => decide (a.name ≤ b.name)) =
    cell.dirty.properties from cell.dirty.sortedByName_properties]

variable (hr : s.registry.isRegistered c.entityMeta.className = true)
include hr

/-- The update of a cell is rejected for a changed attribute or the key. -/
theorem not_encodes_of_bindDirty {e : Stop} (h : c.bindDirty cell s = (.error e, u))
    (haccepted : isRefused s.session (u.trace.drop s.trace.length) = false) :
    ¬ (c.type.ChangesEncode cell.entity cell.dirty.properties ∧
      c.entityMeta.KeyEncodes (c.type.key cell.entity)) := by
  obtain ⟨statements, hstatements⟩ := Registry.statements_of_isRegistered hr
  rw [bindDirty_apply hstatements] at h
  rcases bind_eq_error h with h | ⟨p, t, -, h⟩
  · rw [isRefused_of_preparedUpdate h] at haccepted
    cases haccepted
  · rw [← Registry.isOk_updateValues c.options]
    cases hvalues : Registry.updateValues c.type c.entityMeta cell.entity cell.dirty.properties
        c.options with
    | error e => exact Bool.false_ne_true
    | ok values =>
      rw [lift_bind_of_ok hvalues] at h
      cases h

theorem encodes_of_bindDirty {request : Request} (h : c.bindDirty cell s = (.ok request, u)) :
    c.type.ChangesEncode cell.entity cell.dirty.properties ∧
      c.entityMeta.KeyEncodes (c.type.key cell.entity) := by
  obtain ⟨statements, hstatements⟩ := Registry.statements_of_isRegistered hr
  rw [bindDirty_apply hstatements] at h
  obtain ⟨p, t, -, h⟩ := bind_eq_ok h
  rw [← Registry.isOk_updateValues c.options]
  cases hvalues : Registry.updateValues c.type c.entityMeta cell.entity cell.dirty.properties
      c.options with
  | error e =>
    rw [lift_bind_of_error hvalues] at h
    cases h
  | ok values => rfl

end

/-- What is bound first for a changed entity cannot be bound: its row, if a property changed. -/
structure RowUnbound (T : EntityType E) (em : EntityMeta) (cell : Cell E) : Prop where
  changed : cell.dirty.properties ≠ []
  unbound : ¬ (T.ChangesEncode cell.entity cell.dirty.properties ∧
    em.KeyEncodes (T.key cell.entity))

/-- What an update does after everything is written. -/
def updateEnd (c : Call E) (p : Proxy) : Op σ E Unit := do
  Op.trigger c.type p.handle .postUpdate
  Op.modifyCell p.handle fun cell => { cell with options := c.proxyOptions }

section

variable (c : Call E) (p : Proxy)

theorem keeps_updateEnd {R : Site σ E → Site σ E → Prop} (hR : Admits R fun _ _ => True) :
    Keeps R (c.updateEnd p) :=
  hR.bind (hR.trigger _ _ _) fun _ => hR.modifyCell _ _ fun _ => .inl rfl

theorem grows_updateRest : Keeps (Grows (σ := σ)) (c.updateRest p) :=
  composes_grows.bind (keeps_writeCounters admits_grows c c.writes_true _ _) fun _ =>
    keeps_updateEnd c p admits_grows

end

variable {p : Proxy} {s : Site σ E} {cell : Cell E}

/-- When no property changed, an update that is rejected has taken the deltas off their cells. -/
theorem not_untouched_of_updateRest (hT : c.type.LawfulCounters)
    (hnames : DistinctNames c.entityMeta.counters) (hc : s.workspace.cell? p.handle = some cell)
    (h : Rejected c.type s (c.updateRest p s)) : ¬ Untouched s (c.updateRest p s).2 := by
  have happly : c.updateRest p s = (c.writeCounters p.handle p.key >>= fun _ => c.updateEnd p) s :=
    rfl
  rw [happly] at h ⊢
  cases writeCounters_first hT hnames hc p.key with
  | none _ hrun =>
    rw [bind_of_ok hrun] at h
    have hnever : NeverRejects c.type s.registry (c.updateEnd p : Op σ E Unit) :=
      (NeverRejects.trigger p.handle _).bind fun _ => .modifyCell p.handle _
    replace h := h.congr (t := c.draining p.handle cell s) rfl rfl
    exact absurd h (hnever.not_rejected rfl)
  | unbound hdue _ hrun =>
    rw [bind_of_error hrun]
    intro huntouched
    have hkept := huntouched.cells hc
    have hdrained : (c.draining p.handle cell s).workspace.cell? p.handle = some (c.drained cell) :=
      Workspace.cell?_modify_self hc _
    exact drained_ne hT hnames hdue (Option.some.inj (hdrained.symm.trans hkept))
  | handed _ _ hlt =>
    exact not_untouched_of_lt (effects_lt_bind hlt fun _ => keeps_updateEnd c p admits_grows)

theorem update_apply (c : Call E) (p : Proxy) (s : Site σ E) :
    c.update p s = (Op.trigger c.type p.handle .preUpdate >>= fun _ =>
      c.writeDirty p >>= fun _ => c.updateRest p) s := rfl

/-- The part of an update after its first event: rejected without effect exactly when a property
changed and the row cannot be bound. -/
theorem writeDirty_rejected_iff (hT : c.type.LawfulCounters)
    (hnames : DistinctNames c.entityMeta.counters)
    (hr : s.registry.isRegistered c.entityMeta.className = true)
    (hc : s.workspace.cell? p.handle = some cell)
    (hcounters : ∀ pm ∈ cell.dirty.properties, pm.isCounter = false)
    (h : Rejected c.type s ((c.writeDirty p >>= fun _ => c.updateRest p) s)) :
    Untouched s ((c.writeDirty p >>= fun _ => c.updateRest p) s).2 ↔
      RowUnbound c.type c.entityMeta cell := by
  have hwrite := c.writeDirty_apply hc hcounters
  by_cases hempty : cell.dirty.properties = []
  · rw [if_pos hempty] at hwrite
    rw [bind_of_ok hwrite] at h ⊢
    exact iff_of_false (not_untouched_of_updateRest hT hnames hc h) fun hrow => hrow.changed hempty
  · rw [if_neg hempty] at hwrite
    have hprepares := c.prepares_bindDirty cell s
    rcases hbind : c.bindDirty cell s with ⟨e | request, u⟩
    · rw [hbind] at hprepares
      have hrun := hwrite.trans (bind_of_error hbind _)
      have haccepted := h.accepted
      rw [bind_of_error hrun] at haccepted ⊢
      exact iff_of_true (.of_prepares hprepares)
        ⟨hempty, not_encodes_of_bindDirty hr hbind haccepted⟩
    · rw [hbind] at hprepares
      have hlt : s.effects < (c.writeDirty p s).2.effects := by
        rw [hwrite, bind_of_ok hbind, ← (Untouched.of_prepares hprepares).effects_eq]
        exact effects_lt_bind (effects_lt_handOver .logged request u) fun _ =>
          admits_grows.modifyCell _ _ fun _ => .inr rfl
      have hall := effects_lt_bind hlt fun _ => grows_updateRest c p
      exact iff_of_false (not_untouched_of_lt hall) fun hrow =>
        hrow.unbound (encodes_of_bindDirty hr hbind)

/-- A rejected update has no effect exactly when nothing watches its first event, a property changed
and the row cannot be bound. -/
theorem update_rejected_iff (hT : c.type.LawfulCounters)
    (hnames : DistinctNames c.entityMeta.counters)
    (hr : s.registry.isRegistered c.entityMeta.className = true)
    (hcounters : ∀ cell, s.workspace.cell? p.handle = some cell →
      ∀ pm ∈ cell.dirty.properties, pm.isCounter = false)
    (h : Rejected c.type s (c.update p s)) :
    Untouched s (c.update p s).2 ↔ c.type.hasInterceptor .preUpdate = false ∧
      ∃ cell, s.workspace.cell? p.handle = some cell ∧ RowUnbound c.type c.entityMeta cell := by
  rw [update_apply] at h ⊢
  cases hwatched : c.type.hasInterceptor .preUpdate with
  | true =>
    have hkeeps : Keeps (Grows (σ := σ)) (c.writeDirty p >>= fun _ => c.updateRest p) :=
      composes_grows.bind (keeps_writeDirty admits_grows c c.writes_true
        (fun _ _ s => Grows.of_prepares (prepares_bindUpdate _ _ _ _ _ _ s)) p) fun _ =>
          grows_updateRest c p
    have hlt := h.effects_lt_of_watched hwatched fun _ => hkeeps
    exact iff_of_false (not_untouched_of_lt hlt) fun hearly => nomatch hearly.1
  | false =>
    rw [bind_of_ok (trigger_unwatched _ _ _ _ hwatched)] at h ⊢
    rw [eq_self, true_and]
    cases hc : s.workspace.cell? p.handle with
    | none =>
      -- Without the entity nothing is rejected: the library is told that it is not there.
      obtain ⟨e, he, hrejects⟩ := h.stop
      have hcell : Op.cell p.handle s = (.error noCell, s) := by rw [cell_apply, hc]
      have hrun : c.writeDirty p s = (.error noCell, s) := bind_of_error hcell _
      rw [bind_of_error hrun] at he
      rw [← Except.error.inj he] at hrejects
      exact absurd hrejects (not_rejects_noCell c.type)
    | some cell =>
      rw [writeDirty_rejected_iff hT hnames hr hc (hcounters cell hc) h]
      constructor
      · exact fun hrow => ⟨cell, rfl, hrow⟩
      · rintro ⟨cell', heq, hrow⟩
        rw [Option.some.inj heq]
        exact hrow

end Call

end WideColumn
