import WideColumn.Proofs.Counter.Drain
import WideColumn.Proofs.Counter.Statement
import WideColumn.Proofs.Session.Replay

/-!
# Steps of an immediate update

An update with an immediate outbox, step by step: the interceptors run on the entity of the cell,
the row is written if a property changed, the deltas are taken off the cells and sent one by one.
Each step is known by what it leaves in the cell and by what it adds to the trace (`StepsTo`).
-/

namespace WideColumn

open Op

variable {σ E : Type} [Session σ]

/-- A run on the cell of a handle: what it did, and the cell afterwards. -/
structure StepsTo (h : Handle) (s t : Site σ E) (c : Cell E) (acts : List Act) : Prop where
  trace : t.trace = s.trace ++ acts
  session : t.session = replay s.session acts
  cell : t.workspace.cell? h = some c
  outbox : t.outbox = s.outbox
  types : t.types = s.types
  entities : t.registry.entities = s.registry.entities
  sharedCounters : t.registry.sharedCounters = s.registry.sharedCounters

theorem StepsTo.trans {h : Handle} {s t u : Site σ E} {c c' : Cell E} {acts more : List Act}
    (hst : StepsTo h s t c acts) (htu : StepsTo h t u c' more) :
    StepsTo h s u c' (acts ++ more) where
  trace := by rw [htu.trace, hst.trace, List.append_assoc]
  session := by rw [htu.session, hst.session, replay_append]
  cell := htu.cell
  outbox := htu.outbox.trans hst.outbox
  types := htu.types.trans hst.types
  entities := htu.entities.trans hst.entities
  sharedCounters := htu.sharedCounters.trans hst.sharedCounters

theorem StepsTo.refl {h : Handle} {s : Site σ E} {c : Cell E}
    (hc : s.workspace.cell? h = some c) : StepsTo h s s c [] :=
  ⟨by simp, rfl, hc, rfl, rfl, rfl, rfl⟩

/-- Preparing leaves every cell as it was. -/
theorem StepsTo.of_prepares {h : Handle} {s t : Site σ E} {c : Cell E} (hst : Prepares s t)
    (hc : s.workspace.cell? h = some c) :
    ∃ texts : List String, StepsTo h s t c (texts.map .prepared) := by
  obtain ⟨texts, htrace, hsession⟩ := hst.asked
  refine ⟨texts, htrace, ?_, ?_, hst.outbox, hst.types, hst.entities, hst.sharedCounters⟩
  · rw [hsession, replay_prepared]
  · rw [hst.workspace]
    exact hc

/-- Changing the cell of a handle. -/
theorem stepsTo_modifyCell {h : Handle} {s : Site σ E} {c : Cell E}
    (hc : s.workspace.cell? h = some c) (f : Cell E → Cell E) :
    StepsTo h s (modifyCell h f s).2 (f c) [] := by
  rw [modifyCell_apply]
  exact ⟨by simp, rfl, Workspace.cell?_modify_self hc f, rfl, rfl, rfl, rfl⟩

/-! ### Interceptors -/

theorem EntityType.intercept_unwatched {T : EntityType E} {event : Event}
    (h : T.hasInterceptor event = false) (entity : E) :
    T.intercept entity event = ([], entity, none) := by
  have hnone : (T.interceptors.filter fun i => i.accepts event) = [] := by
    rw [List.filter_eq_nil_iff]
    intro i hi haccepts
    have hany : T.hasInterceptor event = true := List.any_eq_true.2 ⟨i, hi, haccepts⟩
    rw [h] at hany
    cases hany
  unfold intercept interceptAs
  rw [hnone]
  rfl

/-- How the interceptors of a cell ended. -/
def interceptAnswer (T : EntityType E) (entity : E) (event : Event) : Except Stop Unit :=
  match (T.intercept entity event).2.2 with
  | some e => .error (.failed e)
  | none => .ok ()

/-- The interceptors that follow a read run at once, on the entity of the cell; with an immediate
outbox all do. -/
theorem trigger_now {T : EntityType E} {h : Handle} {event : Event} {s : Site σ E} {c : Cell E}
    (hc : s.workspace.cell? h = some c)
    (hnow : event = .postLoad ∨ s.outbox.mode = .immediate) :
    (trigger T h event s).1 = interceptAnswer T c.entity event ∧
      StepsTo h s (trigger T h event s).2 { c with entity := (T.intercept c.entity event).2.1 }
        ((T.intercept c.entity event).1.map (.intercepted h)) := by
  unfold interceptAnswer
  cases hwatched : T.hasInterceptor event with
  | false =>
    rw [trigger_unwatched T h event s hwatched, EntityType.intercept_unwatched hwatched]
    exact ⟨rfl, .refl hc⟩
  | true =>
    have hrun : trigger T h event s = fire T h event s := by
      rcases hnow with rfl | hmode
      · exact trigger_postLoad h hwatched
      · exact trigger_immediate h hwatched hmode
    rw [hrun, fire_apply T event hc]
    refine ⟨rfl, rfl, ?_, Workspace.cell?_modify_self hc _, rfl, rfl, rfl, rfl⟩
    rw [replay_intercepted]
    rfl

theorem trigger_spec {T : EntityType E} {h : Handle} (event : Event) {s : Site σ E} {c : Cell E}
    (hc : s.workspace.cell? h = some c) (hmode : s.outbox.mode = .immediate) :
    (trigger T h event s).1 = interceptAnswer T c.entity event ∧
      StepsTo h s (trigger T h event s).2 { c with entity := (T.intercept c.entity event).2.1 }
        ((T.intercept c.entity event).1.map (.intercepted h)) :=
  trigger_now hc (.inr hmode)

/-! ### Sending -/

/-- What is done to send a write at once. -/
def sending (kind : BatchKind) (r : Request) : List Act :=
  [.pushed kind r, .logged (.sent r), .executed r.statement]

theorem stepsTo_afterPush (kind : BatchKind) (r : Request) {h : Handle} {s : Site σ E} {c : Cell E}
    (hc : s.workspace.cell? h = some c) : StepsTo h s (s.afterPush kind r) c (sending kind r) :=
  ⟨rfl, rfl, hc, rfl, rfl, rfl, rfl⟩

@[simp] theorem executedIn_sending (kind : BatchKind) (r : Request) :
    executedIn (sending kind r) = [r.statement] := rfl

@[simp] theorem groupsIn_sending (kind : BatchKind) (r : Request) :
    groupsIn (sending kind r) = [] := rfl

theorem acceptedIn_sending_of_ok {session : σ} {r : Request} {rows : List Row} (kind : BatchKind)
    (h : (Session.execute session r.statement).1 = .ok rows) :
    acceptedIn session (sending kind r) = [r.statement] := by
  simp [sending, acceptedIn, Act.replay, h, Except.isOk, Except.toBool]

theorem acceptedIn_sending_of_error {session : σ} {r : Request} {e : Stop} (kind : BatchKind)
    (h : (Session.execute session r.statement).1 = .error e) :
    acceptedIn session (sending kind r) = [] := by
  simp [sending, acceptedIn, Act.replay, h, Except.isOk, Except.toBool]

/-! ### The row -/

/-- The update of the changed properties of a cell. -/
def Call.bindDirty (c : Call E) (cell : Cell E) : Op σ E Request :=
  Op.bindUpdate c.type c.entityMeta cell.entity cell.dirty.properties c.options
    (Levels.write c.options c.entityMeta)

/-- The row of a cell is written when a property changed. -/
theorem Call.writeDirty_apply (c : Call E) {p : Proxy} {s : Site σ E} {cell : Cell E}
    (hc : s.workspace.cell? p.handle = some cell)
    (hcounters : ∀ pm ∈ cell.dirty.properties, pm.isCounter = false) :
    c.writeDirty p s =
      if cell.dirty.properties = [] then (.ok (), s)
      else (c.bindDirty cell >>= fun request => Op.push request >>= fun _ =>
        Op.modifyCell p.handle fun cell => { cell with dirty := .empty }) s := by
  have hfilter : (cell.dirty.properties.filter fun pm => !pm.isCounter) =
      cell.dirty.properties := by
    rw [List.filter_eq_self]
    intro pm hpm
    rw [hcounters pm hpm]
    rfl
  have hcell : Op.cell p.handle s = (.ok cell, s) := by rw [cell_apply, hc]
  unfold Call.writeDirty
  rw [bind_of_ok hcell, hfilter]
  by_cases hempty : cell.dirty.properties = []
  · rw [if_pos hempty, hempty]
    rfl
  · have hnonempty : (!cell.dirty.properties.isEmpty) = true := by
      cases h : cell.dirty.properties with
      | nil => exact absurd h hempty
      | cons pm rest => rfl
    rw [if_neg hempty, hnonempty, if_pos rfl]
    rfl

/-- Every way in which the row of a cell is written at once. -/
inductive Call.RowRun (c : Call E) (p : Proxy) (s : Site σ E) (cell : Cell E) :
    Except Stop Unit × Site σ E → Prop
  /-- Nothing changed. -/
  | unchanged : cell.dirty.properties = [] → RowRun c p s cell (.ok (), s)
  /-- The update could not be bound. -/
  | unbound {e : Stop} {u : Site σ E} : cell.dirty.properties ≠ [] → Prepares s u →
      c.bindDirty cell s = (.error e, u) → RowRun c p s cell (.error e, u)
  /-- The session refused the update. -/
  | refused {e : Stop} {r : Request} {u : Site σ E} : cell.dirty.properties ≠ [] → Prepares s u →
      c.bindDirty cell s = (.ok r, u) → (Session.execute u.session r.statement).1 = .error e →
      RowRun c p s cell (.error e, u.afterPush .logged r)
  /-- The update was executed, and the record of the changes is given up. -/
  | written {rows : List Row} {r : Request} {u : Site σ E} : cell.dirty.properties ≠ [] →
      Prepares s u → c.bindDirty cell s = (.ok r, u) →
      (Session.execute u.session r.statement).1 = .ok rows →
      RowRun c p s cell (modifyCell p.handle (fun cell => { cell with dirty := .empty })
        (u.afterPush .logged r))

theorem Call.prepares_bindDirty (c : Call E) (cell : Cell E) :
    Keeps (Prepares (σ := σ)) (c.bindDirty cell) := prepares_bindUpdate _ _ _ _ _ _

theorem Call.writeDirty_cases (c : Call E) {p : Proxy} {s : Site σ E} {cell : Cell E}
    (hc : s.workspace.cell? p.handle = some cell) (hmode : s.outbox.mode = .immediate)
    (hcounters : ∀ pm ∈ cell.dirty.properties, pm.isCounter = false) :
    c.RowRun p s cell (c.writeDirty p s) := by
  rw [c.writeDirty_apply hc hcounters]
  by_cases hempty : cell.dirty.properties = []
  · rw [if_pos hempty]
    exact .unchanged hempty
  · have hprepares := c.prepares_bindDirty cell s
    rw [if_neg hempty]
    rcases hbind : c.bindDirty cell s with ⟨e | r, u⟩
    · rw [hbind] at hprepares
      rw [bind_of_error hbind]
      exact .unbound hempty hprepares hbind
    · rw [hbind] at hprepares
      have hpush : push r u = _ :=
        handOver_immediate .logged r (by rw [hprepares.outbox, hmode])
      rw [bind_of_ok hbind]
      cases hanswer : (Session.execute u.session r.statement).1 with
      | error e =>
        rw [hanswer] at hpush
        rw [bind_of_error hpush]
        exact .refused hempty hprepares hbind hanswer
      | ok rows =>
        rw [hanswer] at hpush
        rw [bind_of_ok hpush]
        exact .written hempty hprepares hbind hanswer

/-! ### Deltas -/

theorem Call.sendDelta_of_error {c : Call E} {key : List Value} {pm : PropertyMeta} {delta : Int}
    {s : Site σ E} {e : Error} (h : c.bindDelta s.registry pm key delta = .error e) :
    c.sendDelta key pm delta s = (.error (.failed e), s) := by
  unfold Call.sendDelta
  rw [get_bind_apply, lift_bind_of_error h]

theorem Call.sendDelta_of_ok {c : Call E} {key : List Value} {pm : PropertyMeta} {delta : Int}
    {s : Site σ E} {r : Request} (h : c.bindDelta s.registry pm key delta = .ok r)
    (hmode : s.outbox.mode = .immediate) :
    c.sendDelta key pm delta s =
      ((Session.execute s.session r.statement).1.map fun _ => (), s.afterPush .counter r) := by
  have hpush : pushCounter r s = _ := handOver_immediate .counter r hmode
  unfold Call.sendDelta
  rw [get_bind_apply, lift_bind_of_ok h, discard_run, hpush]
  cases (Session.execute s.session r.statement).1 <;> rfl

/-- Send deltas one by one. -/
def Call.sendEach (c : Call E) (key : List Value) (deltas : List (PropertyMeta × Int)) :
    Op σ E PUnit :=
  deltas.forM fun x => c.sendDelta key x.1 x.2

/-- The deltas that are not sent: those from the first one on that cannot be sent. -/
def Call.unsent (c : Call E) (key : List Value) :
    List (PropertyMeta × Int) → Site σ E → List (PropertyMeta × Int)
  | [], _ => []
  | x :: rest, s =>
    match c.sendDelta key x.1 x.2 s with
    | (.ok _, t) => unsent c key rest t
    | (.error _, _) => x :: rest

theorem Call.sendDeltas_eq_sendEach (c : Call E) (key : List Value)
    (drained : List (PropertyMeta × List Int)) :
    (c.sendDeltas key drained : Op σ E Unit) = c.sendEach key (flatten drained) := by
  unfold Call.sendEach
  induction drained with
  | nil => rfl
  | cons x rest ih =>
    have hflatten : flatten (x :: rest) =
        (x.2.filter (· != 0)).map (fun delta => (x.1, delta)) ++ flatten rest := by
      simp [flatten]
    rw [hflatten, forM_append, ← ih, forM_map]
    rfl

/-- What sending deltas one by one does: those that are sent are accepted, one statement for each,
and the cell is left alone. -/
structure Call.SendsEach (c : Call E) (key : List Value) (h : Handle) (s : Site σ E) (cell : Cell E)
    (deltas sent : List (PropertyMeta × Int)) (acts : List Act) : Prop where
  split : deltas = sent ++ c.unsent key deltas s
  steps : StepsTo h s (c.sendEach key deltas s).2 cell acts
  groups : groupsIn acts = []
  accepted : c.deltaContents key sent = .ok ((acceptedIn s.session acts).map Statement.content)
  range : ∀ x ∈ sent, MagnitudeFits x.2
  executed : c.unsent key deltas s = [] → executedIn acts = acceptedIn s.session acts
  isOk : (c.sendEach key deltas s).1 = .ok () ↔ c.unsent key deltas s = []

section

variable {c : Call E} {key : List Value} {h : Handle} {cell : Cell E} {x : PropertyMeta × Int}
  {rest : List (PropertyMeta × Int)} {s : Site σ E}

/-- The first delta cannot be sent: then nothing is sent. -/
theorem Call.sendsEach_of_error {e : Stop} {t : Site σ E}
    (hsend : c.sendDelta key x.1 x.2 s = (.error e, t)) {acts : List Act}
    (hsteps : StepsTo h s t cell acts) (hgroups : groupsIn acts = [])
    (haccepted : acceptedIn s.session acts = []) :
    c.SendsEach key h s cell (x :: rest) [] acts := by
  have heach : c.sendEach key (x :: rest) s = (.error e, t) := bind_of_error hsend _
  have hunsent : c.unsent key (x :: rest) s = x :: rest := by rw [unsent, hsend]
  constructor
  case split => rw [hunsent, List.nil_append]
  case steps => rwa [heach]
  case groups => exact hgroups
  case accepted =>
    rw [haccepted]
    rfl
  case range => simp
  case executed =>
    intro hnone
    rw [hunsent] at hnone
    cases hnone
  case isOk =>
    rw [heach, hunsent]
    constructor <;> exact nofun

/-- The first delta is sent: then the others are. -/
theorem Call.SendsEach.cons {r : Request} {encoded : List Value}
    (hsend : c.sendDelta key x.1 x.2 s = (.ok (), s.afterPush .counter r))
    (haccepted : acceptedIn s.session (sending .counter r) = [r.statement])
    (hrange : MagnitudeFits x.2)
    (hencoded : Registry.encodedKey c.entityMeta key = .ok encoded)
    (hcontent : r.statement.content = deltaContent c encoded x.1 x.2)
    (hc : s.workspace.cell? h = some cell) {sent : List (PropertyMeta × Int)} {acts : List Act}
    (hrest : c.SendsEach key h (s.afterPush .counter r) cell rest sent acts) :
    c.SendsEach key h s cell (x :: rest) (x :: sent) (sending .counter r ++ acts) := by
  have heach : c.sendEach key (x :: rest) s = c.sendEach key rest (s.afterPush .counter r) :=
    bind_of_ok hsend _
  have hunsent : c.unsent key (x :: rest) s = c.unsent key rest (s.afterPush .counter r) := by
    rw [unsent, hsend]
  have hpush := stepsTo_afterPush .counter r hc
  constructor
  case split => rw [hunsent, List.cons_append, ← hrest.split]
  case steps =>
    rw [heach]
    exact hpush.trans hrest.steps
  case groups => rw [groupsIn_append, hrest.groups, groupsIn_sending, List.append_nil]
  case accepted =>
    have hdone := hrest.accepted
    rw [hpush.session] at hdone
    unfold deltaContents at hdone ⊢
    rw [acceptedIn_append, haccepted, List.mapM_cons, hdone, hencoded, List.map_append,
      List.map_singleton, hcontent]
    rfl
  case range =>
    intro y hy
    rcases List.mem_cons.1 hy with rfl | hy
    · exact hrange
    · exact hrest.range y hy
  case executed =>
    intro hnone
    rw [hunsent] at hnone
    rw [executedIn_append, acceptedIn_append, haccepted, hrest.executed hnone, hpush.session]
    rfl
  case isOk =>
    rw [heach, hunsent]
    exact hrest.isOk

end

theorem Call.sendEach_spec {c : Call E} {types : List (String × EntityMeta)}
    (hsole : SoleClass types c.entityMeta) (key : List Value)
    {h : Handle} {cell : Cell E} (deltas : List (PropertyMeta × Int)) {s : Site σ E}
    (hs : s.registry.Sound types) (hmode : s.outbox.mode = .immediate)
    (hc : s.workspace.cell? h = some cell) :
    ∃ sent acts, c.SendsEach key h s cell deltas sent acts := by
  induction deltas generalizing s with
  | nil =>
    exact ⟨[], [], rfl, .refl hc, rfl, rfl, by simp, fun _ => rfl, by simp [sendEach, unsent]⟩
  | cons x rest ih =>
    cases hbind : c.bindDelta s.registry x.1 key x.2 with
    | error e =>
      exact ⟨[], [], sendsEach_of_error (c.sendDelta_of_error hbind) (.refl hc) rfl rfl⟩
    | ok r =>
      have hsend := c.sendDelta_of_ok hbind hmode
      cases hanswer : (Session.execute s.session r.statement).1 with
      | error e =>
        rw [hanswer] at hsend
        exact ⟨[], _, sendsEach_of_error hsend (stepsTo_afterPush .counter r hc)
          (groupsIn_sending _ _) (acceptedIn_sending_of_error .counter hanswer)⟩
      | ok rows =>
        rw [hanswer] at hsend
        obtain ⟨hrange, encoded, hencoded, hcontent⟩ :=
          content_of_bindDelta hs hsole hbind
        obtain ⟨sent, acts, hrest⟩ := ih (s := s.afterPush .counter r) hs hmode hc
        exact ⟨x :: sent, _, .cons hsend (acceptedIn_sending_of_ok .counter hanswer) hrange
          hencoded hcontent hc hrest⟩

/-- Writing the deltas of a cell: they are taken off it, then they are sent. -/
theorem Call.writeCounters_apply (c : Call E) {h : Handle} {key : List Value} {s : Site σ E}
    {cell : Cell E} (hc : s.workspace.cell? h = some cell) :
    c.writeCounters h key s =
      c.sendEach key (flatten (drainCounters c.type c.entityMeta.counters cell.entity).1)
        (modifyCell h (fun cell' => { cell' with
          entity := (drainCounters c.type c.entityMeta.counters cell.entity).2 }) s).2 := by
  have hcell : Op.cell h s = (.ok cell, s) := by rw [cell_apply, hc]
  unfold Call.writeCounters
  rw [bind_of_ok hcell]
  rcases drainCounters c.type c.entityMeta.counters cell.entity with ⟨drained, entity⟩
  dsimp only
  rw [bind_of_ok (modifyCell_apply _ _ _), sendDeltas_eq_sendEach]
  rfl

end WideColumn
