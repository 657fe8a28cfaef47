import WideColumn.Proofs.Page
import WideColumn.Proofs.Update.Steps

/-!
# Immediate updates

What an update with an outbox of its own executes: one update of the changed properties, in the
order of their names, then one statement per queued delta, counter by counter, and nothing else.
Afterwards nothing is left to write. Main statement: `update_contract`.
-/

namespace WideColumn

open Op

variable {σ E : Type}

/-! ### The record of changes -/

namespace DirtySet

/-- Two records of the same properties are the same. -/
theorem ext_of_mem {dirty other : DirtySet}
    (h : ∀ pm, pm ∈ dirty.properties ↔ pm ∈ other.properties) : dirty = other := by
  have hnodup (d : DirtySet) : d.properties.Nodup := by
    apply d.sorted.imp
    rintro a b hlt rfl
    exact String.lt_irrefl _ hlt
  have hperm : dirty.properties.Perm other.properties :=
    (List.perm_ext_iff_of_nodup (hnodup _) (hnodup _)).2 h
  have heq : dirty.properties = other.properties := by
    apply hperm.eq_of_pairwise ?_ dirty.sorted other.sorted
    intro a b _ _ hab hba
    exact absurd hab (String.lt_asymm hba)
  cases dirty
  cases other
  simpa using heq

/-- The properties of a record are known by their names. -/
theorem eq_of_name_eq {dirty : DirtySet} {y z : PropertyMeta} (hy : y ∈ dirty.properties)
    (hz : z ∈ dirty.properties) (h : y.name = z.name) : y = z := by
  have hne {a b : PropertyMeta} (hlt : a.name < b.name) : a.name ≠ b.name := by
    intro heq
    rw [heq] at hlt
    exact String.lt_irrefl _ hlt
  refine List.Pairwise.forall_of_forall_of_flip (R := fun a b => a.name = b.name → a = b)
    (fun _ _ _ => rfl) ?_ ?_ hy hz h
  · exact dirty.sorted.imp fun hlt heq => absurd heq (hne hlt)
  · exact dirty.sorted.imp fun hlt heq => absurd heq.symm (hne hlt)

theorem mem_place {pm : PropertyMeta} {properties : List PropertyMeta} {x : PropertyMeta}
    (hnames : ∀ y ∈ properties, y.name = pm.name → y = pm) :
    x ∈ place pm properties ↔ x = pm ∨ x ∈ properties := by
  induction properties with
  | nil => simp [place]
  | cons other rest ih =>
    simp only [place]
    split
    · next heq =>
      have hother : other = pm := hnames other List.mem_cons_self heq.symm
      simp [hother]
    · split
      · simp
      · rw [List.mem_cons, List.mem_cons, ih fun y hy => hnames y (List.mem_cons_of_mem _ hy)]
        exact or_left_comm

/-- Marks of properties that are known by their names. -/
theorem mem_foldl_mark {marks : List PropertyMeta} {dirty : DirtySet} {x : PropertyMeta}
    (hnames : ∀ y ∈ dirty.properties ++ marks, ∀ z ∈ dirty.properties ++ marks,
      y.name = z.name → y = z) :
    x ∈ (marks.foldl mark dirty).properties ↔ x ∈ dirty.properties ∨ x ∈ marks := by
  induction marks generalizing dirty with
  | nil => simp
  | cons pm rest ih =>
    have hmark (y : PropertyMeta) :
        y ∈ (dirty.mark pm).properties ↔ y = pm ∨ y ∈ dirty.properties := by
      apply mem_place
      intro z hz hzpm
      exact hnames z (by simp [hz]) pm (by simp) hzpm
    rw [List.foldl_cons, ih, hmark, List.mem_cons]
    · grind
    · intro y hy z hz
      apply hnames
      · rw [List.mem_append, hmark] at hy
        grind
      · rw [List.mem_append, hmark] at hz
        grind

/-- In whatever order the properties of a record are marked, and however often, the record is the
same. -/
theorem foldl_mark_eq {marks : List PropertyMeta} {dirty : DirtySet}
    (h : ∀ pm, pm ∈ marks ↔ pm ∈ dirty.properties) : marks.foldl mark .empty = dirty := by
  apply ext_of_mem
  intro x
  rw [mem_foldl_mark]
  · simp [empty, h]
  · intro y hy z hz heq
    have hy : y ∈ dirty.properties := (h y).1 (by simpa [empty] using hy)
    have hz : z ∈ dirty.properties := (h z).1 (by simpa [empty] using hz)
    exact eq_of_name_eq hy hz heq

/-- A record stands in the order of the names. -/
theorem sortedByName_properties (dirty : DirtySet) :
    sortedByName dirty.properties = dirty.properties := by
  apply List.mergeSort_of_pairwise
  apply dirty.sorted.imp
  intro a b hlt
  simpa using Std.le_of_lt hlt

end DirtySet

/-! ### What an update says -/

namespace Call

/-- What the update of the given properties says, for the entity as it stands. -/
def rowContent (c : Call E) (entity : E) (properties : List PropertyMeta) :
    Except Error Content := do
  let values ← Registry.updateValues c.type c.entityMeta entity properties c.options
  return { text := Template.update c.entityMeta properties, values
           level := Levels.write c.options c.entityMeta, timestamp := c.options.timestamp }

/-- What is said about the row: nothing if no property changed. -/
def rowContents (c : Call E) (entity : E) (dirty : DirtySet) : Except Error (List Content) :=
  if dirty.properties = [] then .ok []
  else (c.rowContent entity dirty.properties).map fun content => [content]

/-- Everything that an update says: the changed properties, then the queued deltas. -/
def updateContents (c : Call E) (p : Proxy) (entity : E) (dirty : DirtySet) :
    Except Error (List Content) := do
  let row ← c.rowContents entity dirty
  let deltas ← c.deltaContents p.key (queued c.type c.entityMeta.counters entity)
  return row ++ deltas

theorem updateContents_eq_ok {c : Call E} {p : Proxy} {entity : E} {dirty : DirtySet}
    {row deltas : List Content} (hrow : c.rowContents entity dirty = .ok row)
    (hdeltas : c.deltaContents p.key (queued c.type c.entityMeta.counters entity) = .ok deltas) :
    c.updateContents p entity dirty = .ok (row ++ deltas) := by
  unfold updateContents
  rw [hrow, hdeltas]
  rfl

variable [Session σ]

/-- The update of a cell says what its record and its entity say, if no other class has the name of
its class. -/
theorem content_of_bindDirty [LawfulSession σ] {c : Call E} {types : List (String × EntityMeta)}
    (hsole : SoleClass types c.entityMeta) {s t : Site σ E} (hs : s.registry.Sound types)
    {cell : Cell E} {r : Request}
    (h : c.bindDirty cell s = (.ok r, t)) :
    c.rowContent cell.entity cell.dirty.properties = .ok r.statement.content := by
  unfold bindDirty bindUpdate at h
  rw [get_bind_apply] at h
  cases hstatements : s.registry.statements c.entityMeta with
  | error e =>
    rw [lift_bind_of_error hstatements] at h
    cases h
  | ok statements =>
    rw [lift_bind_of_ok hstatements] at h
    obtain ⟨p, u, hp, h⟩ := bind_eq_ok h
    have hsorted := properties_ofProperties_sortedByName c.entityMeta.className
      cell.dirty.properties
    have hquery := query_of_preparedUpdate hsorted hsole hs hp
    rw [DirtySet.sortedByName_properties] at hquery
    unfold rowContent
    rw [show cell.dirty.properties.mergeSort (fun a b => decide (a.name ≤ b.name)) =
      cell.dirty.properties from cell.dirty.sortedByName_properties] at h
    cases hvalues : Registry.updateValues c.type c.entityMeta cell.entity
      cell.dirty.properties c.options with
    | error e =>
      rw [lift_bind_of_error hvalues] at h
      cases h
    | ok values =>
      rw [lift_bind_of_ok hvalues] at h
      obtain ⟨heq, -⟩ := Prod.mk.inj h
      rw [← Except.ok.inj heq, ← hquery]
      rfl

end Call

/-! ### The row -/

/-- A cell whose interceptors ran. -/
def Cell.intercepted (cell : Cell E) (T : EntityType E) (event : Event) : Cell E :=
  { cell with entity := (T.intercept cell.entity event).2.1 }

variable [Session σ]

namespace Call

/-- An update up to the write of the row. -/
def updateRow (c : Call E) (p : Proxy) : Op σ E Unit := do
  Op.trigger c.type p.handle .preUpdate
  c.writeDirty p

/-- What an update does after the row is written. -/
def updateRest (c : Call E) (p : Proxy) : Op σ E Unit := do
  c.writeCounters p.handle p.key
  Op.trigger c.type p.handle .postUpdate
  Op.modifyCell p.handle fun cell => { cell with options := c.proxyOptions }

theorem update_eq (c : Call E) (p : Proxy) :
    (c.update p : Op σ E Unit) = c.updateRow p >>= fun _ => c.updateRest p := by
  unfold update updateRow updateRest
  rw [bind_assoc]

/-- The row of a cell is written: what was executed is what the record and the entity say. -/
structure RowWritten (c : Call E) (p : Proxy) (s t : Site σ E) (cell : Cell E)
    (types : List (String × EntityMeta)) (acts : List Act) : Prop where
  steps : StepsTo p.handle s t { cell with dirty := .empty } acts
  contents : c.rowContents cell.entity cell.dirty =
    .ok ((executedIn acts).map Statement.content)
  accepted : acceptedIn s.session acts = executedIn acts
  groups : groupsIn acts = []
  sound : t.registry.Sound types

/-- The row of a cell is not written: nothing was accepted, and the record stays. -/
structure RowFailed (p : Proxy) (s t : Site σ E) (cell : Cell E) (acts : List Act) : Prop where
  steps : StepsTo p.handle s t cell acts
  accepted : acceptedIn s.session acts = []
  executed : cell.dirty.properties = [] → executedIn acts = []
  groups : groupsIn acts = []

/-- Nothing is executed for a row on which nothing changed. -/
theorem RowWritten.executed_of_unchanged {c : Call E} {p : Proxy} {s t : Site σ E} {cell : Cell E}
    {types : List (String × EntityMeta)} {acts : List Act}
    (h : c.RowWritten p s t cell types acts) (hempty : cell.dirty.properties = []) :
    executedIn acts = [] := by
  have hcontents := h.contents
  unfold rowContents at hcontents
  rw [if_pos hempty] at hcontents
  exact List.map_eq_nil_iff.1 (Except.ok.inj hcontents).symm

/-- What was done before asks nothing of the session. -/
theorem RowWritten.after {c : Call E} {p : Proxy} {s t u : Site σ E} {cell : Cell E}
    {types : List (String × EntityMeta)} {acts more : List Act} (hquiet : Quiet acts)
    (hst : StepsTo p.handle s t cell acts) (htu : c.RowWritten p t u cell types more) :
    c.RowWritten p s u cell types (acts ++ more) where
  steps := hst.trans htu.steps
  contents := by
    rw [executedIn_append, hquiet.2.2, List.nil_append]
    exact htu.contents
  accepted := by
    rw [acceptedIn_append, executedIn_append, acceptedIn_of_quiet hquiet, hquiet.2.2,
      ← hst.session, htu.accepted]
  groups := by rw [groupsIn_append, hquiet.2.1, htu.groups, List.append_nil]
  sound := htu.sound

theorem RowFailed.after {p : Proxy} {s t u : Site σ E} {cell : Cell E} {acts more : List Act}
    (hquiet : Quiet acts) (hst : StepsTo p.handle s t cell acts) (htu : RowFailed p t u cell more) :
    RowFailed p s u cell (acts ++ more) where
  steps := hst.trans htu.steps
  accepted := by
    rw [acceptedIn_append, acceptedIn_of_quiet hquiet, ← hst.session, htu.accepted,
      List.append_nil]
  executed hempty := by
    rw [executedIn_append, hquiet.2.2, htu.executed hempty, List.append_nil]
  groups := by rw [groupsIn_append, hquiet.2.1, htu.groups, List.append_nil]

/-- Nothing but quiet acts were done. -/
theorem RowFailed.of_quiet {p : Proxy} {s t : Site σ E} {cell : Cell E} {acts : List Act}
    (hquiet : Quiet acts) (hst : StepsTo p.handle s t cell acts) : RowFailed p s t cell acts :=
  ⟨hst, acceptedIn_of_quiet hquiet _, fun _ => hquiet.2.2, hquiet.2.1⟩

section

variable [LawfulSession σ] {c : Call E} {types : List (String × EntityMeta)} {name : String}
  (hsole : SoleClass types c.entityMeta) (hmem : (name, c.entityMeta) ∈ types) {p : Proxy}
  {s : Site σ E} {cell : Cell E} (hs : s.registry.Sound types)
  (hmode : s.outbox.mode = .immediate) (hc : s.workspace.cell? p.handle = some cell)
  (hcounters : ∀ pm ∈ cell.dirty.properties, pm.isCounter = false)
include hsole hmem hs hmode hc hcounters

theorem writeDirty_spec :
    (∃ t acts, c.writeDirty p s = (.ok (), t) ∧ c.RowWritten p s t cell types acts) ∨
      ∃ e t acts, c.writeDirty p s = (.error e, t) ∧ RowFailed p s t cell acts := by
  have hsound := keepsSound_bindUpdate hmem c.type cell.entity cell.dirty.properties c.options
    (Levels.write c.options c.entityMeta) s hs
  have hrun := c.writeDirty_cases hc hmode hcounters
  generalize c.writeDirty p s = run at hrun
  cases hrun with
  | unchanged hempty =>
    have hdirty : cell.dirty = .empty := by
      apply DirtySet.ext_of_mem
      simp [hempty, DirtySet.empty]
    refine .inl ⟨s, [], rfl, ?_, ?_, rfl, rfl, hs⟩
    · rw [← hdirty]
      exact .refl hc
    · unfold rowContents
      rw [if_pos hempty]
      rfl
  | unbound hne hprepares hbind =>
    obtain ⟨texts, hsteps⟩ := StepsTo.of_prepares hprepares hc
    exact .inr ⟨_, _, _, rfl, .of_quiet (quiet_map_prepared texts) hsteps⟩
  | @refused e r u hne hprepares hbind hanswer =>
    obtain ⟨texts, hsteps⟩ := StepsTo.of_prepares hprepares hc
    have hpush := stepsTo_afterPush .logged r hsteps.cell
    have hfailed : RowFailed p u (u.afterPush .logged r) cell (sending .logged r) :=
      ⟨hpush, acceptedIn_sending_of_error _ hanswer, fun hempty => absurd hempty hne, rfl⟩
    exact .inr ⟨_, _, _, rfl, hfailed.after (quiet_map_prepared texts) hsteps⟩
  | @written rows r u hne hprepares hbind hanswer =>
    obtain ⟨texts, hsteps⟩ := StepsTo.of_prepares hprepares hc
    have hpush := stepsTo_afterPush .logged r hsteps.cell
    have hquiet := quiet_map_prepared texts
    have hwritten : c.RowWritten p u (modifyCell p.handle
        (fun cell => { cell with dirty := .empty }) (u.afterPush .logged r)).2 cell types
        (sending .logged r ++ []) := by
      refine ⟨hpush.trans (stepsTo_modifyCell hpush.cell _), ?_, ?_, rfl, ?_⟩
      · have hcontent := content_of_bindDirty hsole hs hbind
        unfold rowContents
        rw [if_neg hne, hcontent]
        rfl
      · rw [List.append_nil, acceptedIn_sending_of_ok _ hanswer, executedIn_sending]
      · unfold bindDirty at hbind
        rw [hbind] at hsound
        exact hsound
    exact .inl ⟨_, _, rfl, hwritten.after hquiet hsteps⟩

theorem updateRow_spec :
    (∃ t acts, c.updateRow p s = (.ok (), t) ∧
      c.RowWritten p s t (cell.intercepted c.type .preUpdate) types acts) ∨
    ∃ e t acts, c.updateRow p s = (.error e, t) ∧
      RowFailed p s t (cell.intercepted c.type .preUpdate) acts := by
  have hregistry := (sameStore_trigger c.type p.handle .preUpdate s).registry
  obtain ⟨hanswer, hfire⟩ := trigger_spec (T := c.type) .preUpdate hc hmode
  have hquiet := quiet_map_intercepted p.handle (c.type.intercept cell.entity .preUpdate).1
  unfold updateRow
  rcases htrigger : Op.trigger c.type p.handle .preUpdate s with ⟨e | _, u⟩
  · rw [htrigger] at hfire
    exact .inr ⟨e, u, _, bind_of_error htrigger _, .of_quiet hquiet hfire⟩
  · rw [htrigger] at hfire hregistry
    have hsound : u.registry.Sound types := by
      rw [hregistry]
      exact hs
    rw [bind_of_ok htrigger]
    rcases writeDirty_spec hsole hmem hsound (by rw [hfire.outbox, hmode]) hfire.cell hcounters
      with ⟨t, acts, hrun, hwritten⟩ | ⟨e, t, acts, hrun, hfailed⟩
    · exact .inl ⟨t, _, hrun, hwritten.after hquiet hfire⟩
    · exact .inr ⟨e, t, _, hrun, hfailed.after hquiet hfire⟩

end

/-! ### The deltas -/

/-- A cell whose queued deltas were taken off. -/
def drained (c : Call E) (cell : Cell E) : Cell E :=
  { cell with entity := (drainCounters c.type c.entityMeta.counters cell.entity).2 }

/-- The queued deltas of a cell. -/
def due (c : Call E) (cell : Cell E) : List (PropertyMeta × Int) :=
  queued c.type c.entityMeta.counters cell.entity

/-- The site after the queued deltas were taken off a cell. -/
def drain (c : Call E) (p : Proxy) (cell : Cell E) (s : Site σ E) : Site σ E :=
  (modifyCell p.handle (fun old => { old with entity := (c.drained cell).entity }) s).2

/-- The deltas that are taken off a cell but not sent. -/
def lost (c : Call E) (p : Proxy) (cell : Cell E) (s : Site σ E) : List (PropertyMeta × Int) :=
  c.unsent p.key (c.due cell) (c.drain p cell s)

/-- What an update does after the row is written, however it ends: no delta stays on the cell, and
those that are sent are accepted. -/
structure RestRun (c : Call E) (p : Proxy) (s : Site σ E) (cell cell' : Cell E)
    (run : Except Stop Unit × Site σ E) (sent : List (PropertyMeta × Int))
    (acts : List Act) : Prop where
  split : c.due cell = sent ++ c.lost p cell s
  steps : StepsTo p.handle s run.2 cell' acts
  dirty : cell'.dirty = cell.dirty
  pending (name : String) : c.type.pending cell'.entity name =
    if name ∈ c.entityMeta.counters.map (fun pm => pm.name) then []
    else c.type.pending cell.entity name
  accepted : c.deltaContents p.key sent = .ok ((acceptedIn s.session acts).map Statement.content)
  range : ∀ x ∈ sent, MagnitudeFits x.2
  groups : groupsIn acts = []
  executed : c.lost p cell s = [] → executedIn acts = acceptedIn s.session acts
  isOk : run.1 = .ok () → c.lost p cell s = []

theorem writeCounters_spec {c : Call E} {types : List (String × EntityMeta)}
    (hsole : SoleClass types c.entityMeta)
    (hT : c.type.LawfulCounters) (hnames : DistinctNames c.entityMeta.counters) {p : Proxy}
    {s : Site σ E} {cell : Cell E} (hs : s.registry.Sound types)
    (hmode : s.outbox.mode = .immediate) (hc : s.workspace.cell? p.handle = some cell) :
    ∃ sent acts,
      c.RestRun p s cell (c.drained cell) (c.writeCounters p.handle p.key s) sent acts := by
  obtain ⟨hflatten, hpending⟩ := drainCounters_spec hT hnames cell.entity
  have hdrain : StepsTo p.handle s (c.drain p cell s) (c.drained cell) [] :=
    stepsTo_modifyCell hc fun old => { old with entity := (c.drained cell).entity }
  obtain ⟨sent, acts, hsends⟩ := sendEach_spec hsole p.key (c.due cell)
    (s := c.drain p cell s) hs hmode hdrain.cell
  have hwrite : c.writeCounters p.handle p.key s =
      c.sendEach p.key (c.due cell) (c.drain p cell s) := by
    rw [writeCounters_apply c hc, hflatten]
    rfl
  refine ⟨sent, acts, ?_⟩
  rw [hwrite]
  constructor
  case split => exact hsends.split
  case steps => exact hdrain.trans hsends.steps
  case dirty => rfl
  case pending => exact hpending
  case accepted => exact hsends.accepted
  case range => exact hsends.range
  case groups => exact hsends.groups
  case executed => exact hsends.executed
  case isOk => exact hsends.isOk.1

/-- Nothing stays queued. -/
theorem RestRun.settled {c : Call E} {p : Proxy} {s : Site σ E} {cell cell' : Cell E}
    {run : Except Stop Unit × Site σ E} {sent : List (PropertyMeta × Int)} {acts : List Act}
    (h : c.RestRun p s cell cell' run sent acts) :
    ∀ pm ∈ c.entityMeta.counters, c.type.pending cell'.entity pm.name = [] := by
  intro pm hpm
  rw [h.pending, if_pos (List.mem_map.2 ⟨pm, hpm, rfl⟩)]

/-- More that asks nothing of the session, and leaves the record and the counters alone. -/
theorem RestRun.before {c : Call E} {p : Proxy} {s : Site σ E} {cell cell₁ cell₂ : Cell E}
    {first last : Except Stop Unit × Site σ E} {sent : List (PropertyMeta × Int)}
    {acts more : List Act} (h : c.RestRun p s cell cell₁ first sent acts)
    (hfirst : first.1 = .ok ()) (hquiet : Quiet more) (hsteps : StepsTo p.handle first.2 last.2 cell₂ more)
    (hdirty : cell₂.dirty = cell₁.dirty)
    (hpending : ∀ name, c.type.pending cell₂.entity name = c.type.pending cell₁.entity name) :
    c.RestRun p s cell cell₂ last sent (acts ++ more) where
  split := h.split
  steps := h.steps.trans hsteps
  dirty := hdirty.trans h.dirty
  pending name := by rw [hpending, h.pending]
  accepted := by
    rw [acceptedIn_append, acceptedIn_of_quiet hquiet, List.append_nil]
    exact h.accepted
  range := h.range
  groups := by rw [groupsIn_append, h.groups, hquiet.2.1, List.append_nil]
  executed hnone := by
    rw [acceptedIn_append, acceptedIn_of_quiet hquiet, executedIn_append, hquiet.2.2,
      List.append_nil, List.append_nil]
    exact h.executed hnone
  isOk _ := h.isOk hfirst

omit [Session σ] in
theorem pending_intercepted {T : EntityType E} (hkeeps : T.KeepsCounters) (cell : Cell E)
    (event : Event) (name : String) :
    T.pending (cell.intercepted T event).entity name = T.pending cell.entity name := by
  unfold EntityType.pending Cell.intercepted
  rw [hkeeps]

theorem updateRest_spec {c : Call E} {types : List (String × EntityMeta)}
    (hsole : SoleClass types c.entityMeta)
    (hT : c.type.LawfulCounters) (hkeeps : c.type.KeepsCounters)
    (hnames : DistinctNames c.entityMeta.counters) {p : Proxy}
    {s : Site σ E} {cell : Cell E} (hs : s.registry.Sound types)
    (hmode : s.outbox.mode = .immediate) (hc : s.workspace.cell? p.handle = some cell) :
    ∃ cell' sent acts, c.RestRun p s cell cell' (c.updateRest p s) sent acts := by
  obtain ⟨sent, acts, hwrite⟩ := writeCounters_spec hsole hT hnames hs hmode hc (p := p)
  unfold updateRest
  rcases hrun : c.writeCounters p.handle p.key s with ⟨e | _, t⟩
  · rw [hrun] at hwrite
    rw [bind_of_error hrun]
    exact ⟨_, sent, acts, hwrite⟩
  · rw [hrun] at hwrite
    rw [bind_of_ok hrun]
    obtain ⟨-, hfire⟩ := trigger_spec (T := c.type) .postUpdate hwrite.steps.cell
      (by rw [hwrite.steps.outbox, hmode])
    have hquiet := quiet_map_intercepted p.handle
      (c.type.intercept (c.drained cell).entity .postUpdate).1
    have hpending := pending_intercepted hkeeps (c.drained cell) .postUpdate
    rcases htrigger : Op.trigger c.type p.handle .postUpdate t with ⟨e | _, u⟩
    · rw [htrigger] at hfire
      rw [bind_of_error htrigger]
      exact ⟨_, sent, _, hwrite.before rfl hquiet hfire rfl hpending⟩
    · rw [htrigger] at hfire
      rw [bind_of_ok htrigger]
      have hmodify := stepsTo_modifyCell hfire.cell fun cell =>
        { cell with options := c.proxyOptions }
      exact ⟨_, sent, _, hwrite.before rfl (hquiet.append quiet_nil) (hfire.trans hmodify) rfl
        hpending⟩

/-- Every way in which an update ends: the row is not written, or it is and the deltas are taken
off. -/
theorem update_cases [LawfulSession σ] {c : Call E} {types : List (String × EntityMeta)}
    {name : String} (hsole : SoleClass types c.entityMeta) (hmem : (name, c.entityMeta) ∈ types)
    (hT : c.type.LawfulCounters) (hkeeps : c.type.KeepsCounters)
    (hnames : DistinctNames c.entityMeta.counters) {p : Proxy} {s : Site σ E} {cell : Cell E}
    (hs : s.registry.Sound types) (hmode : s.outbox.mode = .immediate)
    (hc : s.workspace.cell? p.handle = some cell)
    (hcounters : ∀ pm ∈ cell.dirty.properties, pm.isCounter = false) :
    (∃ e t acts, c.updateRow p s = (.error e, t) ∧ c.update p s = (.error e, t) ∧
      RowFailed p s t (cell.intercepted c.type .preUpdate) acts) ∨
    ∃ t acts cell' sent more, c.updateRow p s = (.ok (), t) ∧ c.update p s = c.updateRest p t ∧
      c.RowWritten p s t (cell.intercepted c.type .preUpdate) types acts ∧
      c.RestRun p t { cell.intercepted c.type .preUpdate with dirty := .empty } cell'
        (c.update p s) sent more := by
  rw [update_eq]
  rcases updateRow_spec hsole hmem hs hmode hc hcounters with
    ⟨t, acts, hrow, hwritten⟩ | ⟨e, t, acts, hrow, hfailed⟩
  · right
    obtain ⟨cell', sent, more, hrest⟩ := updateRest_spec hsole hT hkeeps hnames
      hwritten.sound (by rw [hwritten.steps.outbox, hmode]) hwritten.steps.cell (p := p)
    rw [bind_of_ok hrow]
    exact ⟨t, acts, cell', sent, more, hrow, rfl, hwritten, hrest⟩
  · left
    exact ⟨e, t, acts, hrow, bind_of_error hrow _, hfailed⟩

omit [Session σ] in
theorem due_intercepted {c : Call E} (hkeeps : c.type.KeepsCounters) (cell : Cell E)
    (event : Event) : c.due (cell.intercepted c.type event) = c.due cell := by
  unfold due queued
  rw [List.flatMap_def, List.flatMap_def]
  congr 1
  apply List.map_congr_left
  intro pm _
  rw [pending_intercepted hkeeps]

omit [Session σ] in
/-- Nothing is due when nothing is queued. -/
theorem due_of_settled {c : Call E} {cell : Cell E}
    (h : ∀ pm ∈ c.entityMeta.counters, c.type.pending cell.entity pm.name = []) :
    c.due cell = [] := by
  unfold due queued
  rw [List.flatMap_eq_nil_iff]
  intro pm hpm
  rw [h pm hpm]
  rfl

end Call

/-! ### The contract -/

namespace Manager

/-- What an update at once owes to the proxy of a cell. -/
structure UpdateContract (T : EntityType E) (em : EntityMeta) (options : Options) (p : Proxy)
    (cell : Cell E) (s : Site σ E) : Prop where
  /-- An update that succeeds executes what the record and the entity say, and nothing else. -/
  executed : (update T p options s).1 = .ok () → ∃ acts,
    (update T p options s).2.trace = s.trace ++ acts ∧ groupsIn acts = [] ∧
      (callOf T em options).updateContents p (T.intercept cell.entity .preUpdate).2.1 cell.dirty =
        .ok ((executedIn acts).map Statement.content)
  /-- The magnitudes that it binds are those of the deltas. -/
  range : (update T p options s).1 = .ok () →
    ∀ x ∈ Call.queued T em.counters cell.entity, MagnitudeFits x.2
  /-- Afterwards no property counts as changed and no delta is queued. -/
  settled : (update T p options s).1 = .ok () → ∃ cell',
    (update T p options s).2.workspace.cell? p.handle = some cell' ∧ cell'.dirty = .empty ∧
      ∀ pm ∈ em.counters, T.pending cell'.entity pm.name = []
  /-- Then another update executes nothing. -/
  again : (update T p options s).1 = .ok () → ∀ options', ∃ acts,
    (update T p options' (update T p options s).2).2.trace =
        (update T p options s).2.trace ++ acts ∧
      executedIn acts = [] ∧ groupsIn acts = []
  /-- In whatever order and however often the properties were marked, the record is the same. -/
  marks (marks : List PropertyMeta) : (∀ pm, pm ∈ marks ↔ pm ∈ cell.dirty.properties) →
    marks.foldl DirtySet.mark .empty = cell.dirty
  /-- When the row cannot be written, the update ends there and everything can be tried again. -/
  failed {e : Stop} : ((callOf T em options).updateRow p (atOnce s)).1 = .error e →
    (update T p options s).1 = .error e ∧ ∃ cell',
      (update T p options s).2.workspace.cell? p.handle = some cell' ∧ cell'.dirty = cell.dirty ∧
        ∀ name, T.pending cell'.entity name = T.pending cell.entity name

/-- A managed entity of a registered class, in a sound state in which no other class has its name.
The counter cells of the class are cells, and its interceptors leave them alone. -/
structure Ready (T : EntityType E) (em : EntityMeta) (p : Proxy) (cell : Cell E)
    (s : Site σ E) : Prop where
  sound : s.Sound
  sole : SoleClass s.types em
  lookup : s.types.lookup T.typeName = some em
  lawful : T.LawfulCounters
  keeps : T.KeepsCounters
  cell : s.workspace.cell? p.handle = some cell

namespace Ready

variable [LawfulSession σ] {T : EntityType E} {em : EntityMeta} {p : Proxy} {cell : Cell E}
  {s : Site σ E}

theorem update_cases (h : Ready T em p cell s) (options : Options) :
    (∃ e t acts, (callOf T em options).updateRow p (atOnce s) = (.error e, t) ∧
      (callOf T em options).update p (atOnce s) = (.error e, t) ∧
      Call.RowFailed p (atOnce s) t (cell.intercepted T .preUpdate) acts) ∨
    ∃ t acts cell' sent more, (callOf T em options).updateRow p (atOnce s) = (.ok (), t) ∧
      (callOf T em options).update p (atOnce s) = (callOf T em options).updateRest p t ∧
      (callOf T em options).RowWritten p (atOnce s) t (cell.intercepted T .preUpdate) s.types acts ∧
      (callOf T em options).RestRun p t { cell.intercepted T .preUpdate with dirty := .empty } cell'
        ((callOf T em options).update p (atOnce s)) sent more :=
  Call.update_cases (c := callOf T em options) (s := atOnce s) h.sole (mem_of_lookup h.lookup)
    h.lawful h.keeps (h.sound.built (mem_of_lookup h.lookup)).distinctNames_counters
    h.sound.registry rfl h.cell fun pm hpm => (h.sound.dirty h.cell pm hpm).2

/-- After an update the entity is still managed. -/
theorem update (h : Ready T em p cell s) (options : Options) {t : Site σ E} {acts : List Act}
    {cell' : Cell E}
    (hsteps : StepsTo p.handle (atOnce s) t cell' acts)
    (hrun : ((callOf T em options).update p (atOnce s)).2 = t) :
    Ready T em p cell' (Manager.update T p options s).2 := by
  have hsound := sound_immediately (sound_updateIn T options p) s h.sound
  refine ⟨hsound, ?_, ?_, h.lawful, h.keeps, ?_⟩
  · rw [update_apply h.lookup, hrun]
    show SoleClass t.types em
    rw [hsteps.types]
    exact h.sole
  · rw [update_apply h.lookup, hrun]
    show t.types.lookup T.typeName = some em
    rw [hsteps.types]
    exact h.lookup
  · rw [update_apply h.lookup, hrun]
    exact hsteps.cell

omit [Session σ] [LawfulSession σ] in
/-- What is due does not depend on what interceptors do before. -/
theorem due_eq (h : Ready T em p cell s) (options : Options) :
    (callOf T em options).due (cell.intercepted T .preUpdate) =
      Call.queued T em.counters cell.entity :=
  Call.due_intercepted (c := callOf T em options) h.keeps cell .preUpdate

/-- An update of a cell on which nothing changed executes nothing, however it ends. -/
theorem update_settled (h : Ready T em p cell s) (hdirty : cell.dirty = .empty)
    (hpending : ∀ pm ∈ em.counters, T.pending cell.entity pm.name = []) (options : Options) :
    ∃ acts, (Manager.update T p options s).2.trace = s.trace ++ acts ∧ executedIn acts = [] ∧
      groupsIn acts = [] := by
  have hdue := (h.due_eq options).trans
    (Call.due_of_settled (c := callOf T em options) hpending)
  have hempty : (cell.intercepted T .preUpdate).dirty.properties = [] := by
    show cell.dirty.properties = []
    rw [hdirty]
    rfl
  rw [update_apply h.lookup]
  rcases h.update_cases options with
    ⟨e, t, acts, -, hrun, hfailed⟩ | ⟨t, acts, cell', sent, more, -, -, hwritten, hrest⟩
  · rw [hrun]
    exact ⟨acts, hfailed.steps.trace, hfailed.executed hempty, hfailed.groups⟩
  · refine ⟨acts ++ more, (hwritten.steps.trans hrest.steps).trace, ?_, ?_⟩
    · -- With nothing due, nothing is sent and nothing is lost.
      obtain ⟨rfl, hlost⟩ := List.append_eq_nil_iff.1 (hrest.split.symm.trans hdue)
      have hnone : executedIn more = [] := by
        rw [hrest.executed hlost]
        exact List.map_eq_nil_iff.1 (Except.ok.inj hrest.accepted).symm
      rw [executedIn_append, hwritten.executed_of_unchanged hempty, hnone, List.append_nil]
    · rw [groupsIn_append, hwritten.groups, hrest.groups, List.append_nil]

omit [LawfulSession σ] in
/-- When the row is not written, the record and the queued deltas stay. -/
theorem contract_of_failed (h : Ready T em p cell s) {options : Options} {t : Site σ E}
    {acts : List Act} {e : Stop}
    (hrow : (callOf T em options).updateRow p (atOnce s) = (.error e, t))
    (hrun : (callOf T em options).update p (atOnce s) = (.error e, t))
    (hfailed : Call.RowFailed p (atOnce s) t (cell.intercepted T .preUpdate) acts) :
    UpdateContract T em options p cell s := by
  have happly := update_apply h.lookup p options
  rw [hrun] at happly
  have hnot : (Manager.update T p options s).1 ≠ .ok () := by
    rw [happly]
    exact nofun
  constructor
  case marks => exact fun marks hmem => DirtySet.foldl_mark_eq hmem
  case failed =>
    intro e' he
    rw [hrow] at he
    rw [happly]
    exact ⟨he, _, hfailed.steps.cell, rfl, Call.pending_intercepted h.keeps cell .preUpdate⟩
  all_goals exact fun hok => absurd hok hnot

/-- When the row is written, the record is given up and the deltas are taken off. -/
theorem contract_of_written (h : Ready T em p cell s) {options : Options} {t : Site σ E}
    {acts more : List Act} {cell' : Cell E} {sent : List (PropertyMeta × Int)}
    (hrow : (callOf T em options).updateRow p (atOnce s) = (.ok (), t))
    (hwritten : (callOf T em options).RowWritten p (atOnce s) t (cell.intercepted T .preUpdate)
      s.types acts)
    (hrest : (callOf T em options).RestRun p t
      { cell.intercepted T .preUpdate with dirty := .empty } cell'
      ((callOf T em options).update p (atOnce s)) sent more) :
    UpdateContract T em options p cell s := by
  have hdue := h.due_eq options
  have happly := update_apply h.lookup p options
  have hsteps := hwritten.steps.trans hrest.steps
  have hready := h.update options hsteps rfl
  have hsettled : ∀ pm ∈ em.counters, T.pending cell'.entity pm.name = [] := hrest.settled
  -- A success means that nothing is lost, so that everything queued is sent.
  have hsent : (Manager.update T p options s).1 = .ok () →
      Call.queued T em.counters cell.entity = sent ∧
        executedIn more = acceptedIn t.session more := by
    intro hok
    rw [happly] at hok
    have hlost := hrest.isOk hok
    have hsplit := hrest.split
    rw [hlost, List.append_nil] at hsplit
    exact ⟨hdue.symm.trans hsplit, hrest.executed hlost⟩
  constructor
  case executed =>
    intro hok
    obtain ⟨hqueued, hexecuted⟩ := hsent hok
    refine ⟨acts ++ more, ?_, ?_, ?_⟩
    · rw [happly]
      exact hsteps.trace
    · rw [groupsIn_append, hwritten.groups, hrest.groups, List.append_nil]
    · have hdeltas := hrest.accepted
      rw [← hqueued, ← hexecuted, ← hdue] at hdeltas
      rw [executedIn_append, List.map_append]
      exact Call.updateContents_eq_ok hwritten.contents hdeltas
  case range =>
    intro hok x hx
    rw [(hsent hok).1] at hx
    exact hrest.range x hx
  case settled =>
    intro _
    exact ⟨cell', hready.cell, hrest.dirty, hsettled⟩
  case again =>
    intro _ options'
    exact hready.update_settled hrest.dirty hsettled options'
  case marks => exact fun marks hmem => DirtySet.foldl_mark_eq hmem
  case failed =>
    intro e he
    rw [hrow] at he
    cases he

theorem contract (h : Ready T em p cell s) (options : Options) :
    UpdateContract T em options p cell s := by
  rcases h.update_cases options with
    ⟨e, t, acts, hrow, hrun, hfailed⟩ | ⟨t, acts, cell', sent, more, hrow, -, hwritten, hrest⟩
  · exact h.contract_of_failed hrow hrun hfailed
  · exact h.contract_of_written hrow hwritten hrest

end Ready

end Manager

/-! ### Pages -/

namespace Page

/-- A page with a new title and two queued deltas. -/
def edited : Batching Script Page :=
  visited (visited (titled (opened (manager .empty [plain]) plain first) plain first "Start")
    plain first 2) plain first (-1)

theorem reachable_edited : Reachable edited := by
  have hb : Reachable (manager .empty [plain]) := reachable_manager_type _ _ _ _
  have hopened := reachable_opened hb plain first
  exact reachable_visited (reachable_visited (reachable_titled hopened _ _ _) _ _ _) _ _ _

/-- Other pages, of a type with the same class name. -/
def archived : EntityType Page := type "archive.Page" "archive" []

/-- The first archived page, after a page of the other type. -/
def second : Proxy := proxy "archive" 1 (.bigint 2)

theorem reachable_manager_archived : Reachable (manager .empty [plain, archived]) := by
  apply reachable_manager
  intro T hT
  simp only [List.mem_cons, List.not_mem_nil, or_false] at hT
  rcases hT with rfl | rfl
  · exact built_type _ _ _
  · exact built_type _ _ _

end Page

end WideColumn
