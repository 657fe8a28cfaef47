import WideColumn.Proofs.Page
import WideColumn.Proofs.Window.Collect

/-!
# Runs of a manager with windows

Between two resets a window collects what is handed to it, and the end of the window sends it: the
deferred events run, then the regular writes go out as one group, then the counter writes as
another, and the first failure ends it. The invariant of a run (`Watched.Collected`) says that the
window holds exactly the writes handed over since the last reset. Main statement:
`Watched.contract`.
-/

namespace WideColumn

open Op

variable {σ E : Type}

/-! ### Resets -/

namespace WindowCall

/-- Whether the call ends the window. -/
def isEnd : WindowCall E → Bool
  | endBatch => true
  | _ => false

/-- Whether the call gives up or sends what is pending, whatever comes of it: the calls that open,
end or clean a window, and the ones that are refused because they carry a level. -/
def resets : WindowCall E → Bool
  | startBatch | startBatchAt _ | endBatch | cleanBatch => true
  | persist _ _ _ options | update _ _ _ options | remove _ _ _ options => options.hasLevel
  | find _ _ options | getProxy _ _ options => options.hasLevel
  | removeById _ _ _ | refresh _ _ _ => false

theorem eq_endBatch_or (call : WindowCall E) : call = .endBatch ∨ call.isEnd = false := by
  cases call <;> first | exact .inl rfl | exact .inr rfl

end WindowCall

namespace Batching

variable {α : Type}

theorem rejectLevel_apply (options : Options) (b : Batching σ E) :
    rejectLevel options b =
      if options.hasLevel then
        (.error (.failed Levels.batchConflict),
          { b with site.outbox := b.site.outbox.reset b.defaultLevel })
      else (.ok (), b) := by
  unfold rejectLevel
  split <;> rfl

/-- A refused level gives up the window. -/
theorem rejectLevel_bind_of_level {options : Options} (h : options.hasLevel = true)
    (f : Unit → BatchOp σ E α) (b : Batching σ E) :
    (rejectLevel options >>= f) b =
      (.error (.failed Levels.batchConflict),
        { b with site.outbox := b.site.outbox.reset b.defaultLevel }) := by
  apply bind_of_error
  rw [rejectLevel_apply, if_pos h]

/-- A call that is refused for its level only empties the outbox. -/
theorem site_of_level {options : Options} (h : options.hasLevel = true)
    (f : Unit → BatchOp σ E α) (b : Batching σ E) :
    ((rejectLevel options >>= f) b).2.site =
      { b.site with outbox := b.site.outbox.reset b.defaultLevel } := by
  rw [rejectLevel_bind_of_level h]

theorem rejectLevel_bind_of_no_level {options : Options} (h : options.hasLevel = false)
    (f : Unit → BatchOp σ E α) (b : Batching σ E) : (rejectLevel options >>= f) b = f () b := by
  apply bind_of_ok
  rw [rejectLevel_apply, h]
  rfl

/-- Reading the clock leaves the site alone. -/
theorem stamped_apply (now : Int) (options : Options) (b : Batching σ E) :
    ∃ options' last, stamped now options b = (.ok options', { b with lastTimestamp := last }) := by
  unfold stamped
  split
  · exact ⟨options, b.lastTimestamp, rfl⟩
  · exact ⟨_, _, rfl⟩

/-- A write with a timestamp is a write of the site. -/
theorem stamped_bind_apply (now : Int) (options : Options) (op : Options → Op σ E α)
    (b : Batching σ E) :
    ∃ options' last, (stamped now options >>= fun o => onSite (op o)) b =
      ((op options' b.site).1,
        { b with site := (op options' b.site).2, lastTimestamp := last }) := by
  obtain ⟨options', last, h⟩ := stamped_apply now options b
  refine ⟨options', last, ?_⟩
  rw [bind_of_ok h]
  rfl

/-- A write that is not refused for its level is a write of the site. -/
theorem unleveled_bind_apply {options : Options} (h : options.hasLevel = false) (now : Int)
    (op : Options → Op σ E α) (b : Batching σ E) :
    ∃ options' last, (rejectLevel options >>= fun _ =>
        stamped now options >>= fun o => onSite (op o)) b =
      ((op options' b.site).1,
        { b with site := (op options' b.site).2, lastTimestamp := last }) := by
  rw [rejectLevel_bind_of_no_level h]
  exact stamped_bind_apply now options op b

end Batching

section

variable [Session σ]

/-- What a call did: what it added to the trace. -/
def WindowCall.acts (call : WindowCall E) (b : Batching σ E) : List Act :=
  (call.run b).2.site.trace.drop b.site.trace.length

/-- A call that resets the window without ending it only empties the outbox. -/
theorem WindowCall.run_of_resets {call : WindowCall E} (hresets : call.resets = true)
    (hend : call.isEnd = false) (b : Batching σ E) :
    ∃ level, (call.run b).2.site = { b.site with outbox := b.site.outbox.reset level } := by
  cases call with
  | startBatch => exact ⟨_, rfl⟩
  | startBatchAt level => exact ⟨level, rfl⟩
  | endBatch => cases hend
  | cleanBatch => exact ⟨_, rfl⟩
  | persist now T entity options =>
    refine ⟨b.defaultLevel, ?_⟩
    show ((do let _ ← Batching.persist now T entity options : BatchOp σ E Unit) b).2.site = _
    rw [discard_apply]
    exact Batching.site_of_level hresets _ b
  | update now T p options => exact ⟨b.defaultLevel, Batching.site_of_level hresets _ b⟩
  | remove now T entity options => exact ⟨b.defaultLevel, Batching.site_of_level hresets _ b⟩
  | removeById now T key => cases hresets
  | find T key options =>
    refine ⟨b.defaultLevel, ?_⟩
    show ((do let _ ← Batching.find T key options : BatchOp σ E Unit) b).2.site = _
    rw [discard_apply]
    exact Batching.site_of_level hresets _ b
  | getProxy T key options =>
    refine ⟨b.defaultLevel, ?_⟩
    show ((do let _ ← Batching.getProxy T key options : BatchOp σ E Unit) b).2.site = _
    rw [discard_apply]
    exact Batching.site_of_level hresets _ b
  | refresh T p options => cases hresets

/-- What a manager with windows runs with the outbox of the site. -/
inductive RunsInWindow : {α : Type} → Op σ E α → Prop
  | persist (T : EntityType E) (entity : Tracked E) (options : Options) :
      RunsInWindow (Manager.persistIn T entity options)
  | update (T : EntityType E) (p : Proxy) (options : Options) :
      RunsInWindow (Manager.updateIn T p options)
  | remove (T : EntityType E) (entity : Tracked E) (options : Options) :
      RunsInWindow (Manager.removeIn T entity options)
  | removeById (T : EntityType E) (key : List Value) (options : Options) :
      RunsInWindow (Manager.removeByIdIn T key options)
  | find (T : EntityType E) (key : List Value) (options : Options) :
      RunsInWindow (Manager.findIn T key options)
  | getProxy (T : EntityType E) (key : List Value) (options : Options) :
      RunsInWindow (Manager.getProxyIn T key options)
  | refresh (T : EntityType E) (p : Proxy) (options : Options) :
      RunsInWindow (Manager.refreshIn T p options)

/-- A call that does not reset the window is refused and changes nothing, or it is an operation of
the site. -/
theorem WindowCall.site_of_not_resets {call : WindowCall E} (hresets : call.resets = false)
    (b : Batching σ E) : (call.run b).2.site = b.site ∨
      ∃ (α : Type) (op : Op σ E α), RunsInWindow op ∧ (call.run b).2.site = (op b.site).2 := by
  have write {α : Type} {now : Int} {options : Options} (hlevel : options.hasLevel = false)
      {op : Options → Op σ E α} (hop : ∀ o, RunsInWindow (op o)) {site : Site σ E}
      (hsite : site = ((Batching.rejectLevel options >>= fun _ =>
        Batching.stamped now options >>= fun o => Batching.onSite (op o)) b).2.site) :
      ∃ (α : Type) (op : Op σ E α), RunsInWindow op ∧ site = (op b.site).2 := by
    obtain ⟨options', last, hrun⟩ := Batching.unleveled_bind_apply hlevel now op b
    exact ⟨α, op options', hop options', by rw [hsite, hrun]⟩
  have read {α : Type} {options : Options} (hlevel : options.hasLevel = false) {op : Op σ E α}
      (hop : RunsInWindow op) {site : Site σ E}
      (hsite : site = ((Batching.rejectLevel options >>= fun _ =>
        Batching.onSite op) b).2.site) :
      ∃ (α : Type) (op : Op σ E α), RunsInWindow op ∧ site = (op b.site).2 := by
    rw [Batching.rejectLevel_bind_of_no_level hlevel] at hsite
    exact ⟨α, op, hop, hsite⟩
  cases call with
  | startBatch => cases hresets
  | startBatchAt level => cases hresets
  | endBatch => cases hresets
  | cleanBatch => cases hresets
  | persist now T entity options =>
    exact .inr (write hresets (.persist T entity)
      (congrArg Batching.site (discard_apply (Batching.persist now T entity options) b)))
  | update now T p options => exact .inr (write hresets (.update T p) rfl)
  | remove now T entity options => exact .inr (write hresets (.remove T entity) rfl)
  | removeById now T key =>
    obtain ⟨options', last, hrun⟩ := Batching.stamped_bind_apply now .none
      (fun o => Manager.removeByIdIn T key o) b
    exact .inr ⟨_, _, .removeById T key options', congrArg (fun run => run.2.site) hrun⟩
  | find T key options =>
    exact .inr (read hresets (.find T key options)
      (congrArg Batching.site (discard_apply (Batching.find T key options) b)))
  | getProxy T key options =>
    exact .inr (read hresets (.getProxy T key options)
      (congrArg Batching.site (discard_apply (Batching.getProxy T key options) b)))
  | refresh T p options =>
    have hsite : ((WindowCall.refresh T p options).run b).2.site =
        (Batching.refresh T p options b).2.site :=
      congrArg Batching.site (discard_apply (Batching.refresh T p options) b)
    rw [hsite]
    unfold Batching.refresh
    split
    · exact .inl rfl
    · exact .inr ⟨_, _, .refresh T p options, rfl⟩

/-- A call that does not reset the window only adds to it. -/
theorem WindowCall.run_of_not_resets {call : WindowCall E} (hresets : call.resets = false)
    {b : Batching σ E} (hmode : b.site.outbox.mode = .batching)
    (hselects : b.site.registry.Selects) :
    ∃ acts, CollectsActs b.site (call.run b).2.site acts := by
  rcases call.site_of_not_resets hresets b with hsite | ⟨α, op, hop, hsite⟩ <;> rw [hsite]
  · exact ⟨[], .of_quiet quiet_nil (by simp) ⟨_, rfl⟩ rfl⟩
  · cases hop with
    | persist T entity options => exact collects_persistIn T options hmode hselects entity
    | update T p options => exact collects_updateIn T options hmode hselects p
    | remove T entity options => exact collects_removeIn T options hmode hselects entity
    | removeById T key options => exact collects_removeByIdIn T options hmode hselects key
    | find T key options => exact collects_findIn T options hmode hselects key
    | getProxy T key options => exact collects_getProxyIn T options hmode hselects key
    | refresh T p options => exact collects_refreshIn T options hmode hselects p

end

/-! ### Ending a window -/

/-- The group that requests of one kind are sent as; no request is no group. -/
def groupOf (kind : BatchKind) (requests : List Request) (level : Level) : List Group :=
  if requests.isEmpty then [] else [⟨kind, requests.map Request.statement, level⟩]

/-- What the session answers to a group; there is nothing to answer to an empty one. -/
def groupAnswer [Session σ] (kind : BatchKind) (requests : List Request) (level : Level)
    (session : σ) : Except Stop Unit :=
  if requests.isEmpty then .ok ()
  else (Session.executeBatch session kind (requests.map Request.statement) level).1

/-- Run the events that a window put off, after it was reset. -/
def Batching.fireDeferred (b : Batching σ E) : Except Stop PUnit × Site σ E :=
  (b.site.outbox.events.forM fun d => fire d.type d.handle d.event : Op σ E PUnit)
    { b.site with outbox := b.site.outbox.reset b.defaultLevel }

/-- What the end of a window sends, given what was handed over: nothing if a deferred event fails,
nothing after the first group if the session refuses it. -/
def Batching.endGroups [Session σ] (b : Batching σ E) (regular counter : List Request) :
    List Group :=
  match b.fireDeferred.1 with
  | .error _ => []
  | .ok _ =>
    groupOf .logged regular b.site.outbox.level ++
      match groupAnswer .logged regular b.site.outbox.level b.site.session with
      | .error _ => []
      | .ok _ => groupOf .counter counter b.site.outbox.level

/-- A run that only looked, and left the session, the outbox and the registry alone. -/
structure LooksOn (s t : Site σ E) : Prop where
  trace : ∃ acts, t.trace = s.trace ++ acts ∧ Quiet acts
  session : t.session = s.session
  outbox : t.outbox = s.outbox
  entities : t.registry.entities = s.registry.entities

theorem composes_looksOn : Composes (LooksOn (σ := σ) (E := E)) where
  refl s := ⟨⟨[], by simp, quiet_nil⟩, rfl, rfl, rfl⟩
  trans hst htu := by
    obtain ⟨acts, ht, hacts⟩ := hst.trace
    obtain ⟨more, hu, hmore⟩ := htu.trace
    exact {
      trace := ⟨acts ++ more, by rw [hu, ht, List.append_assoc], hacts.append hmore⟩
      session := htu.session.trans hst.session
      outbox := htu.outbox.trans hst.outbox
      entities := htu.entities.trans hst.entities }

theorem looksOn_fire (T : EntityType E) (h : Handle) (event : Event) :
    Keeps (LooksOn (σ := σ)) (fire T h event) := by
  intro s
  cases hc : s.workspace.cell? h with
  | none =>
    rw [fire_of_no_cell T event hc]
    exact composes_looksOn.refl s
  | some c =>
    rw [fire_apply T event hc]
    exact ⟨⟨_, rfl, quiet_map_intercepted h _⟩, rfl, rfl, rfl⟩

/-- What sending did: it sent the groups, and handed over and executed nothing. -/
structure Sends (s t : Site σ E) (groups : List Group) : Prop where
  trace : ∃ acts, t.trace = s.trace ++ acts ∧ groupsIn acts = groups ∧ executedIn acts = [] ∧
    ∀ kind, pushedIn kind acts = []
  outbox : t.outbox = s.outbox
  entities : t.registry.entities = s.registry.entities

theorem Sends.trans {s t u : Site σ E} {groups more : List Group} (hst : Sends s t groups)
    (htu : Sends t u more) : Sends s u (groups ++ more) := by
  obtain ⟨acts, ht, hgroups, hexecuted, hpushed⟩ := hst.trace
  obtain ⟨acts', hu, hgroups', hexecuted', hpushed'⟩ := htu.trace
  refine ⟨⟨acts ++ acts', ?_, ?_, ?_, fun kind => ?_⟩, htu.outbox.trans hst.outbox,
    htu.entities.trans hst.entities⟩
  · rw [hu, ht, List.append_assoc]
  · rw [groupsIn_append, hgroups, hgroups']
  · rw [executedIn_append, hexecuted, hexecuted', List.append_nil]
  · rw [pushedIn_append, hpushed, hpushed', List.append_nil]

theorem LooksOn.sends {s t : Site σ E} (h : LooksOn s t) : Sends s t [] := by
  obtain ⟨acts, htrace, hquiet⟩ := h.trace
  exact ⟨⟨acts, htrace, hquiet.2.1, hquiet.2.2, hquiet.1⟩, h.outbox, h.entities⟩

variable [Session σ]

/-- The lines of the log before a group. -/
def groupLines (kind : BatchKind) (requests : List Request) (level : Level) : List Act :=
  .logged (.batchStart kind requests.length) ::
    (requests.map (fun r => .logged (.sent r)) ++ [.logged (.batchEnd kind level)])

omit [Session σ] in
theorem quiet_groupLines (kind : BatchKind) (requests : List Request) (level : Level) :
    Quiet (groupLines kind requests level) := by
  have hsent : ∀ rs : List Request, Quiet (rs.map fun r => .logged (.sent r)) := by
    intro rs
    induction rs with
    | nil => exact quiet_nil
    | cons r rs ih => exact ⟨ih.1, ih.2.1, ih.2.2⟩
  have hend : Quiet [.logged (.batchEnd kind level)] := ⟨fun _ => rfl, rfl, rfl⟩
  have hrest := (hsent requests).append hend
  exact ⟨hrest.1, hrest.2.1, hrest.2.2⟩

theorem sendGroup_apply {kind : BatchKind} {requests : List Request} {level : Level}
    (hlevel : ∀ r ∈ requests, r.level = level) (hne : requests.isEmpty = false) (s : Site σ E) :
    sendGroup kind requests level s =
      ((Session.executeBatch s.session kind (requests.map Request.statement) level).1,
        { s with
          trace := s.trace ++ (groupLines kind requests level ++
            [.sentBatch kind (requests.map Request.statement) level])
          session :=
            (Session.executeBatch s.session kind (requests.map Request.statement) level).2 }) := by
  have hstatements :
      (requests.map fun r => r.statement.withLevel level) = requests.map Request.statement := by
    apply List.map_congr_left
    intro r hr
    rw [← hlevel r hr]
    rfl
  unfold sendGroup
  rw [hne, Bool.not_false, if_pos rfl, bind_of_ok (record_apply _ _),
    bind_of_ok (forM_record _ _ _), bind_of_ok (record_apply _ _), executeBatch_apply,
    hstatements]
  simp only [groupLines, List.append_assoc, List.cons_append, List.nil_append]

/-- A group is sent as a whole, each statement at the level of the group. -/
theorem sendGroup_spec (kind : BatchKind) {requests : List Request} {level : Level}
    (hlevel : ∀ r ∈ requests, r.level = level) (s : Site σ E) :
    (sendGroup kind requests level s).1 = groupAnswer kind requests level s.session ∧
      Sends s (sendGroup kind requests level s).2 (groupOf kind requests level) := by
  unfold groupAnswer groupOf
  cases hempty : requests.isEmpty with
  | true =>
    unfold sendGroup
    rw [hempty]
    exact ⟨rfl, ⟨[], by simp, rfl, rfl, fun _ => rfl⟩, rfl, rfl⟩
  | false =>
    have hlines := quiet_groupLines kind requests level
    rw [sendGroup_apply hlevel hempty]
    refine ⟨rfl, ⟨_, rfl, ?_, ?_, fun k => ?_⟩, rfl, rfl⟩
    · rw [groupsIn_append, hlines.2.1]
      rfl
    · rw [executedIn_append, hlines.2.2]
      rfl
    · rw [pushedIn_append, hlines.1]
      rfl

/-- Sending what a window collected at its level. -/
theorem sendAll_spec {pending : Outbox E}
    (hregular : ∀ r ∈ pending.regular, r.level = pending.level)
    (hcounter : ∀ r ∈ pending.counter, r.level = pending.level) (s : Site σ E) :
    Sends s (sendAll pending s).2
      (match ((pending.events.forM fun d => fire d.type d.handle d.event : Op σ E PUnit) s).1 with
        | .error _ => []
        | .ok _ =>
          groupOf .logged pending.regular pending.level ++
            match groupAnswer .logged pending.regular pending.level s.session with
            | .error _ => []
            | .ok _ => groupOf .counter pending.counter pending.level) := by
  have hfire : LooksOn s
      ((pending.events.forM fun d => fire d.type d.handle d.event : Op σ E PUnit) s).2 :=
    composes_looksOn.forM (fun d _ => looksOn_fire d.type d.handle d.event) s
  unfold sendAll
  rcases hrun : (pending.events.forM fun d => fire d.type d.handle d.event : Op σ E PUnit) s with
    ⟨_ | _, t⟩
  · rw [bind_of_error hrun]
    rw [hrun] at hfire
    exact hfire.sends
  · rw [bind_of_ok hrun]
    rw [hrun] at hfire
    obtain ⟨hanswer, hsends⟩ := sendGroup_spec .logged hregular t
    rw [hfire.session] at hanswer
    rw [← List.nil_append (groupOf _ _ _ ++ _)]
    apply hfire.sends.trans
    rcases hgroup : sendGroup .logged pending.regular pending.level t with ⟨_ | _, u⟩
    · rw [bind_of_error hgroup]
      rw [hgroup] at hanswer hsends
      rw [← hanswer, List.append_nil]
      exact hsends
    · rw [bind_of_ok hgroup]
      rw [hgroup] at hanswer hsends
      rw [← hanswer]
      exact hsends.trans (sendGroup_spec .counter hcounter u).2

/-! ### Runs -/

omit [Session σ] in
theorem acts_eq {s t : Site σ E} {acts : List Act} (h : t.trace = s.trace ++ acts) :
    t.trace.drop s.trace.length = acts := by
  rw [h, List.drop_left]

/-- A call that gives up the window does nothing else. -/
theorem WindowCall.acts_of_resets {call : WindowCall E} (hresets : call.resets = true)
    (hend : call.isEnd = false) (b : Batching σ E) : call.acts b = [] := by
  obtain ⟨level, hsite⟩ := call.run_of_resets hresets hend b
  apply acts_eq
  rw [hsite, List.append_nil]

/-- The statements of all groups of one kind, oldest first. -/
def sentIn (kind : BatchKind) (acts : List Act) : List Statement :=
  ((groupsIn acts).filter fun g => g.kind = kind).flatMap Group.statements

omit [Session σ] in
theorem sentIn_append (kind : BatchKind) (acts more : List Act) :
    sentIn kind (acts ++ more) = sentIn kind acts ++ sentIn kind more := by
  unfold sentIn
  rw [groupsIn_append, List.filter_append, List.flatMap_append]

/-- A manager with windows, and what was done since it was made and since its window was last
reset. -/
structure Watched (σ E : Type) where
  manager : Batching σ E
  all : List Act
  since : List Act

/-- What may happen to a manager with windows: a call, or any change of the entities in play. -/
inductive WindowMove (E : Type) where
  | call (call : WindowCall E)
  | edit (change : Workspace E → Workspace E)

namespace Watched

/-- A new manager with windows over the site of a manager. -/
def ofSite (site : Site σ E) : Watched σ E := ⟨.ofSite site, [], []⟩

/-- One move. -/
def move (w : Watched σ E) : WindowMove E → Watched σ E
  | .call call =>
    { manager := (call.run w.manager).2
      all := w.all ++ call.acts w.manager
      since := if call.resets then [] else w.since ++ call.acts w.manager }
  | .edit change =>
    { w with manager.site.workspace := change w.manager.site.workspace }

/-- Moves one after the other. -/
def run (w : Watched σ E) (moves : List (WindowMove E)) : Watched σ E := moves.foldl move w

/-- The window holds exactly the writes handed over since it was last reset, at its level, and no
write was sent in two groups or is still pending after it was sent. -/
structure Collected (w : Watched σ E) : Prop where
  mode : w.manager.site.outbox.mode = .batching
  selects : w.manager.site.registry.Selects
  regular : w.manager.site.outbox.regular = pushedIn .logged w.since
  counter : w.manager.site.outbox.counter = pushedIn .counter w.since
  level : ∀ kind, ∀ r ∈ pushedIn kind w.since, r.level = w.manager.site.outbox.level
  once : ∀ kind, (sentIn kind w.all ++ (pushedIn kind w.since).map Request.statement).Sublist
    ((pushedIn kind w.all).map Request.statement)

omit [Session σ] in
theorem collected_ofSite {site : Site σ E} (h : site.registry.Selects) :
    (ofSite site).Collected where
  mode := rfl
  selects := h
  regular := rfl
  counter := rfl
  level kind r hr := by cases hr
  once kind := List.Sublist.refl _

variable {w : Watched σ E} (hw : w.Collected)
include hw

/-- A call that does not reset the window. -/
theorem Collected.acts_of_not_resets {call : WindowCall E} (hresets : call.resets = false) :
    CollectsActs w.manager.site (call.run w.manager).2.site (call.acts w.manager) := by
  obtain ⟨acts, hacts⟩ := call.run_of_not_resets hresets hw.mode hw.selects
  have heq : call.acts w.manager = acts := acts_eq hacts.trace
  rw [heq]
  exact hacts

/-- The end of a window sends the groups of what was handed over since it was last reset. -/
theorem Collected.sends_endBatch :
    Sends { w.manager.site with outbox := w.manager.site.outbox.reset w.manager.defaultLevel }
      (WindowCall.endBatch.run w.manager).2.site
      (w.manager.endGroups (pushedIn .logged w.since) (pushedIn .counter w.since)) := by
  have hregular : ∀ r ∈ w.manager.site.outbox.regular, r.level = w.manager.site.outbox.level := by
    rw [hw.regular]
    exact hw.level .logged
  have hcounter : ∀ r ∈ w.manager.site.outbox.counter, r.level = w.manager.site.outbox.level := by
    rw [hw.counter]
    exact hw.level .counter
  have hsends := sendAll_spec hregular hcounter
    { w.manager.site with outbox := w.manager.site.outbox.reset w.manager.defaultLevel }
  unfold Batching.endGroups Batching.fireDeferred
  rw [← hw.regular, ← hw.counter]
  exact hsends

/-- The acts of the end of a window: its groups, and nothing executed. -/
theorem Collected.acts_endBatch :
    (WindowCall.endBatch.run w.manager).2.site.trace =
        w.manager.site.trace ++ WindowCall.endBatch.acts w.manager ∧
      groupsIn (WindowCall.endBatch.acts w.manager) =
        w.manager.endGroups (pushedIn .logged w.since) (pushedIn .counter w.since) ∧
      executedIn (WindowCall.endBatch.acts w.manager) = [] := by
  obtain ⟨acts, htrace, hgroups, hexecuted, -⟩ := hw.sends_endBatch.trace
  have hacts : WindowCall.endBatch.acts w.manager = acts := acts_eq htrace
  rw [hacts]
  exact ⟨htrace, hgroups, hexecuted⟩

/-- The groups that the end of a window sends are parts of what was handed over since the last
reset. -/
theorem Collected.sentIn_endBatch_sublist (kind : BatchKind) :
    (sentIn kind (WindowCall.endBatch.acts w.manager)).Sublist
      ((pushedIn kind w.since).map Request.statement) := by
  have hgroup (k : BatchKind) (requests : List Request) (level : Level) :
      ((groupOf k requests level).filter fun g => g.kind = kind).flatMap Group.statements =
        if k = kind then requests.map Request.statement else [] := by
    unfold groupOf
    by_cases hempty : requests = []
    · simp [hempty]
    · by_cases hk : k = kind <;> simp [hempty, hk]
  unfold sentIn
  rw [hw.acts_endBatch.2.1]
  unfold Batching.endGroups
  split
  · exact List.nil_sublist _
  · rw [List.filter_append, List.flatMap_append, hgroup]
    cases groupAnswer .logged (pushedIn .logged w.since) w.manager.site.outbox.level
      w.manager.site.session with
    | error e => cases kind <;> simp
    | ok _ =>
      rw [hgroup]
      cases kind <;> simp

/-- After a call that resets the window its outbox is empty. -/
theorem Collected.outbox_of_resets {call : WindowCall E} (hresets : call.resets = true) :
    ∃ level, (call.run w.manager).2.site.outbox = w.manager.site.outbox.reset level := by
  rcases call.eq_endBatch_or with rfl | hend
  · exact ⟨_, hw.sends_endBatch.outbox⟩
  · obtain ⟨level, hsite⟩ := call.run_of_resets hresets hend w.manager
    rw [hsite]
    exact ⟨level, rfl⟩

/-- What a call that resets the window sends is part of what was handed over since the last
reset. -/
theorem Collected.sentIn_of_resets {call : WindowCall E} (hresets : call.resets = true)
    (kind : BatchKind) :
    (sentIn kind (call.acts w.manager)).Sublist ((pushedIn kind w.since).map Request.statement) := by
  rcases call.eq_endBatch_or with rfl | hend
  · exact hw.sentIn_endBatch_sublist kind
  · rw [call.acts_of_resets hresets hend]
    exact List.nil_sublist _

/-- A call adds to the trace what it did. -/
theorem Collected.trace_run (call : WindowCall E) :
    (call.run w.manager).2.site.trace = w.manager.site.trace ++ call.acts w.manager := by
  cases hresets : call.resets with
  | false => exact (hw.acts_of_not_resets hresets).trace
  | true =>
    rcases call.eq_endBatch_or with rfl | hend
    · exact hw.acts_endBatch.1
    · obtain ⟨level, hsite⟩ := call.run_of_resets hresets hend w.manager
      rw [call.acts_of_resets hresets hend, hsite, List.append_nil]

/-- No call gives up statements of the registry. -/
theorem Collected.entities_run (call : WindowCall E) :
    (call.run w.manager).2.site.registry.entities = w.manager.site.registry.entities := by
  cases hresets : call.resets with
  | false => exact (hw.acts_of_not_resets hresets).entities
  | true =>
    rcases call.eq_endBatch_or with rfl | hend
    · exact hw.sends_endBatch.entities
    · obtain ⟨level, hsite⟩ := call.run_of_resets hresets hend w.manager
      rw [hsite]

theorem Collected.selects_run (call : WindowCall E) :
    (call.run w.manager).2.site.registry.Selects := by
  unfold Registry.Selects
  rw [hw.entities_run call]
  exact hw.selects

/-- A call that adds to the window keeps the invariant. -/
theorem Collected.move_of_not_resets {call : WindowCall E} (hresets : call.resets = false) :
    (w.move (.call call)).Collected := by
  have hacts := hw.acts_of_not_resets hresets
  have hsince : (w.move (.call call)).since = w.since ++ call.acts w.manager := by
    simp [Watched.move, hresets]
  have hnone (kind : BatchKind) : sentIn kind (call.acts w.manager) = [] := by
    unfold sentIn
    rw [hacts.readsOnly.groups]
    rfl
  constructor
  case mode => exact hacts.mode.trans hw.mode
  case selects => exact hw.selects_run call
  case regular =>
    rw [hsince, pushedIn_append, ← hw.regular]
    exact hacts.regular
  case counter =>
    rw [hsince, pushedIn_append, ← hw.counter]
    exact hacts.counter
  case level =>
    intro kind r hr
    rw [hsince, pushedIn_append] at hr
    show r.level = (call.run w.manager).2.site.outbox.level
    rw [hacts.level]
    rcases List.mem_append.1 hr with hr | hr
    · exact hw.level kind r hr
    · exact hacts.pushed kind r hr
  case once =>
    intro kind
    rw [hsince]
    show (sentIn kind (w.all ++ call.acts w.manager) ++ _).Sublist
      ((pushedIn kind (w.all ++ call.acts w.manager)).map Request.statement)
    rw [sentIn_append, hnone, List.append_nil, pushedIn_append, pushedIn_append, List.map_append,
      List.map_append, ← List.append_assoc]
    exact (hw.once kind).append_right _

/-- A call that resets the window keeps the invariant: what it sends was handed over since the last
reset, and nothing is left of it. -/
theorem Collected.move_of_resets {call : WindowCall E} (hresets : call.resets = true) :
    (w.move (.call call)).Collected := by
  have hsince : (w.move (.call call)).since = [] := by simp [Watched.move, hresets]
  obtain ⟨level, houtbox⟩ := hw.outbox_of_resets hresets
  have hmove : (w.move (.call call)).manager.site.outbox = w.manager.site.outbox.reset level :=
    houtbox
  constructor
  case mode =>
    rw [hmove]
    exact hw.mode
  case selects => exact hw.selects_run call
  case regular =>
    rw [hsince, hmove]
    rfl
  case counter =>
    rw [hsince, hmove]
    rfl
  case level =>
    intro kind r hr
    rw [hsince] at hr
    cases hr
  case once =>
    intro kind
    rw [hsince]
    show (sentIn kind (w.all ++ call.acts w.manager) ++ []).Sublist
      ((pushedIn kind (w.all ++ call.acts w.manager)).map Request.statement)
    rw [List.append_nil, sentIn_append, pushedIn_append, List.map_append]
    have hmore : (sentIn kind w.all ++ sentIn kind (call.acts w.manager)).Sublist
        ((pushedIn kind w.all).map Request.statement) :=
      ((hw.sentIn_of_resets hresets kind).append_left _).trans (hw.once kind)
    exact hmore.trans (List.sublist_append_left _ _)

/-- Every move keeps the invariant. -/
theorem Collected.move (move : WindowMove E) : (w.move move).Collected := by
  cases move with
  | edit change => exact ⟨hw.mode, hw.selects, hw.regular, hw.counter, hw.level, hw.once⟩
  | call call =>
    cases hresets : call.resets with
    | false => exact hw.move_of_not_resets hresets
    | true => exact hw.move_of_resets hresets

omit hw in
theorem Collected.run (hw : w.Collected) (moves : List (WindowMove E)) :
    (w.run moves).Collected := by
  induction moves generalizing w with
  | nil => exact hw
  | cons move moves ih => exact ih (hw.move move)

end Watched

/-! ### The contract of a window -/

/-- What one more call does after a run. -/
structure Watched.Contract (w : Watched σ E) (call : WindowCall E) : Prop where
  /-- The acts of the call are what it adds to the trace. -/
  trace : (call.run w.manager).2.site.trace = w.manager.site.trace ++ call.acts w.manager
  /-- Only the end of a window writes. -/
  readsOnly : call.isEnd = false → ReadsOnly (call.acts w.manager)
  /-- The end of a window sends what was handed over since the last reset, in at most two groups,
  and nothing else. -/
  groups : call.isEnd = true →
    groupsIn (call.acts w.manager) =
        w.manager.endGroups (pushedIn .logged w.since) (pushedIn .counter w.since) ∧
      executedIn (call.acts w.manager) = []
  /-- Nothing that was handed over is part of two groups. -/
  once : ∀ kind, (sentIn kind (w.all ++ call.acts w.manager)).Sublist
    ((pushedIn kind (w.all ++ call.acts w.manager)).map Request.statement)
  /-- After a reset nothing is pending. -/
  empty : call.resets = true → (call.run w.manager).2.site.outbox.regular = [] ∧
    (call.run w.manager).2.site.outbox.counter = [] ∧
    (call.run w.manager).2.site.outbox.events = []

theorem Watched.Collected.contract {w : Watched σ E} (hw : w.Collected) (call : WindowCall E) :
    w.Contract call := by
  constructor
  case trace => exact hw.trace_run call
  case readsOnly =>
    intro hend
    cases hresets : call.resets with
    | false => exact (hw.acts_of_not_resets hresets).readsOnly
    | true =>
      rw [call.acts_of_resets hresets hend]
      exact quiet_nil.readsOnly
  case groups =>
    intro hend
    obtain rfl := call.eq_endBatch_or.resolve_right (by simp [hend])
    exact hw.acts_endBatch.2
  case once =>
    intro kind
    exact (List.sublist_append_left _ _).trans ((hw.move (.call call)).once kind)
  case empty =>
    intro hresets
    obtain ⟨level, houtbox⟩ := hw.outbox_of_resets hresets
    rw [houtbox]
    exact ⟨rfl, rfl, rfl⟩

/-- Whatever was done with a manager with windows, and whatever the session answered: a window sends
what was handed over since it was last reset, when it ends, and nothing twice. -/
theorem window_contract [LawfulSession σ] {b : Batching σ E} (hb : Reachable b)
    (moves : List (WindowMove E)) (call : WindowCall E) :
    ((Watched.ofSite b.site).run moves).Contract call :=
  ((Watched.collected_ofSite hb.sound.registry.selects).run moves).contract call

/-! ### Pages -/

namespace Page

/-- A page is written with a visit, and another page is removed. -/
def moves : List (WindowMove Page) :=
  [.call (.persist 7 plain (.bare ⟨.bigint 1, .text "Start", Counter.empty.incrBy 2⟩) .none),
    .call (.remove 7 plain (.bare ⟨.bigint 2, .null, .empty⟩) .none)]

/-- The window with the two pages, before it ends. -/
def collecting : Watched Script Page :=
  (Watched.ofSite (manager .empty [plain]).site).run moves

/-- The window sends the insert and the delete together, then the visit and the delete of the
counter. -/
theorem window_contract_collecting :
    collecting.Contract .endBatch ∧
      (groupsIn (WindowCall.endBatch.acts collecting.manager)).map
          (fun g => (g.kind, g.statements.length)) =
        [(.logged, 2), (.counter, 2)] :=
  ⟨window_contract (reachable_manager_type _ _ _ _) moves .endBatch, by decide +kernel⟩

end Page

end WideColumn
