import WideColumn.Proofs.Event.Loading

/-!
# The contract of events

Along any run of a manager with windows, the events of its writes are recorded in the order of the
calls and run when the window ends, each once. The invariant of a run (`Recording.Kept`) says that
the outbox holds exactly the events recorded since the window was last reset, and that what ran so
far, with what is still held, is a part of what was recorded. Main statement:
`event_contract`.
-/

namespace WideColumn

open Op

variable {σ E : Type} [Session σ]

/-! ### Runs -/

/-- The interceptors that ran, those that follow a read left out. -/
def lateIn (acts : List Act) : List (Handle × Notice) :=
  (interceptedIn acts).filter fun x => x.2.event ≠ .postLoad

theorem lateIn_append (acts more : List Act) :
    lateIn (acts ++ more) = lateIn acts ++ lateIn more := by
  unfold lateIn
  rw [interceptedIn_append, List.filter_append]

/-- A manager with windows, and what was done since it was made. -/
structure Recording (σ E : Type) where
  manager : Batching σ E
  acts : List Act
  /-- The events that were put off. -/
  recorded : List (Deferred E)
  /-- Those that were put off since the window was last reset. -/
  since : List (Deferred E)
  /-- The events that were come to at the end of a window, with the notices of their
  interceptors. -/
  fired : List (Deferred E × List Notice)
  /-- The proxies that were updated. -/
  updated : List Proxy

/-- What may happen to a manager with windows: a call, or a change of an entity by its owner. -/
inductive Recording.Move (E : Type) where
  | call (call : WindowCall E)
  | edit (h : Handle) (f : Cell E → Cell E)

namespace Recording

/-- A new manager with windows over the site of a manager. -/
def ofSite (site : Site σ E) : Recording σ E := ⟨.ofSite site, [], [], [], [], []⟩

/-- The events that a call puts off. -/
def recordedBy (w : Recording σ E) (call : WindowCall E) : List (Deferred E) :=
  if call.resets then []
  else (call.run w.manager).2.site.outbox.events.drop w.manager.site.outbox.events.length

/-- The events that have to run when the window ends now, run. -/
def firing (w : Recording σ E) : Firing E := .of w.since w.manager.site.workspace

/-- One move. -/
def move (w : Recording σ E) : Move E → Recording σ E
  | .call call =>
    { manager := (call.run w.manager).2
      acts := w.acts ++ call.acts w.manager
      recorded := w.recorded ++ w.recordedBy call
      since := if call.resets then [] else w.since ++ w.recordedBy call
      fired := w.fired ++ if call.isEnd then w.firing.fired else []
      updated := w.updated ++ call.updated }
  | .edit h f =>
    { w with manager.site.workspace := w.manager.site.workspace.modify h f }

/-- Moves one after the other. -/
def run (w : Recording σ E) (moves : List (Move E)) : Recording σ E := moves.foldl move w

end Recording

/-! ### The end of a window -/

/-- The notices that running events leaves behind. -/
def noticesOf (fired : List (Deferred E × List Notice)) : List (Handle × Notice) :=
  fired.flatMap fun (d, notices) => notices.map fun notice => (d.handle, notice)

theorem noticesOf_append (fired more : List (Deferred E × List Notice)) :
    noticesOf (fired ++ more) = noticesOf fired ++ noticesOf more := List.flatMap_append

omit [Session σ] in
theorem Firing.interceptedIn_acts (f : Firing E) : interceptedIn f.acts = noticesOf f.fired := by
  unfold Firing.acts noticesOf
  generalize f.fired = fired
  induction fired with
  | nil => rfl
  | cons x rest ih =>
    rw [List.flatMap_cons, List.flatMap_cons, interceptedIn_append, ih,
      interceptedIn_map_intercepted]

/-- What the end of a window comes to: the events recorded since the last reset ran in order, each
on the entity of its handle, and nothing is sent if one fails. -/
structure Recording.Ends (w : Recording σ E) (run : Except Stop Unit × Batching σ E) : Prop where
  fires : w.manager.Fires w.firing run
  inOrder : w.firing.events <+: w.since
  all : w.firing.error = none → w.firing.events = w.since
  notices : ∀ d notices, (d, notices) ∈ w.firing.fired →
    (∀ notice ∈ notices, notice.event = d.event) ∧
      notices.map Notice.interceptor <+: d.type.watchers d.event ∧
      (w.firing.error = none → notices.map Notice.interceptor = d.type.watchers d.event)
  entity : ∀ h, run.2.site.workspace.entity? h =
    (w.manager.site.workspace.entity? h).map fun entity =>
      (w.firing.events.filter fun d => d.handle = h).foldl (fun e d => d.apply e) entity
  /-- Only an interceptor fails, unless a proxy without an entity was updated. -/
  failure : (∀ p ∈ w.updated, w.manager.site.workspace.Has p.handle) →
    ∀ e, w.firing.error = some e → ∃ d entity error, w.firing.events.getLast? = some d ∧
      (d.type.intercept entity d.event).2.2 = some error ∧ e = .failed error

namespace Recording

/-- The outbox holds the events that were recorded since the window was last reset, and everything
that ran was recorded once for every time that it ran. -/
structure Kept (w : Recording σ E) : Prop where
  mode : w.manager.site.outbox.mode = .batching
  pending : w.manager.site.outbox.events = w.since
  late : ∀ d ∈ w.since, d.event ≠ .postLoad
  inPlay : ∀ d ∈ w.since, w.manager.site.workspace.Has d.handle ∨
    ∃ p ∈ w.updated, d.handle = p.handle
  ran : lateIn w.acts = noticesOf w.fired
  once : (w.fired.map Prod.fst ++ w.since).Sublist w.recorded

omit [Session σ] in
theorem kept_ofSite (site : Site σ E) : (ofSite site).Kept where
  mode := rfl
  pending := rfl
  late d hd := by cases hd
  inPlay d hd := by cases hd
  ran := rfl
  once := List.Sublist.refl _

variable {w : Recording σ E} (hw : w.Kept)
include hw

/-- The end of a window. -/
theorem Kept.ends : w.Ends (WindowCall.endBatch.run w.manager) := by
  have hfires := w.manager.endBatch_fires
  rw [hw.pending] at hfires
  refine ⟨hfires, (Firing.events_of _ _).1, (Firing.events_of _ _).2,
    fun d notices h => Firing.notices_of h, fun h => ?_, fun hupdated e he => ?_⟩
  · have hworkspace : (WindowCall.endBatch.run w.manager).2.site.workspace = w.firing.workspace :=
      hfires.workspace
    rw [hworkspace]
    exact Firing.entity?_of _ _ h
  · obtain ⟨d, hlast, hfailed⟩ := Firing.failure_of he
    have hd : d ∈ w.since := (Firing.events_of _ _).1.subset (List.mem_of_getLast? hlast)
    have hhas : w.manager.site.workspace.Has d.handle := by
      rcases hw.inPlay d hd with hhas | ⟨p, hp, heq⟩
      · exact hhas
      · rw [heq]
        exact hupdated p hp
    obtain ⟨entity, error, herror, heq⟩ := hfailed hhas
    exact ⟨d, entity, error, hlast, herror, heq⟩

/-- The interceptors that the end of a window runs, and no others. -/
theorem Kept.lateIn_endBatch :
    lateIn (WindowCall.endBatch.acts w.manager) = noticesOf w.firing.fired := by
  obtain ⟨rest, htrace, hrest, -⟩ := hw.ends.fires.trace
  have hacts : WindowCall.endBatch.acts w.manager = w.firing.acts ++ rest := acts_eq htrace
  rw [hacts]
  unfold lateIn
  rw [interceptedIn_append, hrest, List.append_nil, Firing.interceptedIn_acts,
    List.filter_eq_self]
  intro x hx
  obtain ⟨⟨d, notices⟩, hfired, hx⟩ := List.mem_flatMap.1 hx
  obtain ⟨notice, hnotice, rfl⟩ := List.mem_map.1 hx
  have hevent := (hw.ends.notices d notices hfired).1 notice hnotice
  have hd : d ∈ w.since := hw.ends.inOrder.subset (List.mem_map_of_mem hfired)
  simpa [hevent] using hw.late d hd

/-- A call that does not end the window runs no other interceptors than those that follow a
read. -/
theorem Kept.lateIn_of_not_end {call : WindowCall E} (hend : call.isEnd = false) :
    lateIn (call.acts w.manager) = [] := by
  unfold lateIn
  rw [List.filter_eq_nil_iff]
  intro x hx
  simpa using call.intercepted_postLoad hend hw.mode x hx

/-- What a call puts off is added to the outbox. -/
theorem Kept.recordedBy {call : WindowCall E} (hresets : call.resets = false) :
    (call.run w.manager).2.site.outbox.events = w.since ++ w.recordedBy call ∧
      call.Records w.manager (w.recordedBy call) ∧
      ∀ d ∈ w.recordedBy call, d.event ≠ .postLoad ∧
        ((call.run w.manager).2.site.workspace.Has d.handle ∨
          ∃ p ∈ call.updated, d.handle = p.handle) := by
  obtain ⟨events, hevents, hrecords, hlate⟩ := call.records hresets hw.mode
  have hrecorded : w.recordedBy call = events := by
    unfold Recording.recordedBy
    rw [hresets, hevents, List.drop_left]
    rfl
  rw [hrecorded, ← hw.pending]
  exact ⟨hevents, hrecords, hlate⟩

/-- A call that adds to the window keeps the invariant. -/
theorem Kept.move_of_not_resets {call : WindowCall E} (hresets : call.resets = false) :
    (w.move (.call call)).Kept := by
  have hend : call.isEnd = false := by cases call <;> first | rfl | cases hresets
  have hwaits := call.waits hend w.manager
  obtain ⟨hevents, -, hrecorded⟩ := hw.recordedBy hresets
  have hsince : (w.move (.call call)).since = w.since ++ w.recordedBy call := by
    simp [move, hresets]
  have hfired : (w.move (.call call)).fired = w.fired := by simp [move, hend]
  constructor
  case mode => exact hwaits.mode.trans hw.mode
  case pending =>
    rw [hsince]
    exact hevents
  case late =>
    intro d hd
    rw [hsince] at hd
    rcases List.mem_append.1 hd with hd | hd
    · exact hw.late d hd
    · exact (hrecorded d hd).1
  case inPlay =>
    intro d hd
    rw [hsince] at hd
    rcases List.mem_append.1 hd with hd | hd
    · rcases hw.inPlay d hd with hhas | ⟨p, hp, heq⟩
      · exact .inl (Nat.lt_of_lt_of_le hhas hwaits.size)
      · exact .inr ⟨p, List.mem_append_left _ hp, heq⟩
    · rcases (hrecorded d hd).2 with hhas | ⟨p, hp, heq⟩
      · exact .inl hhas
      · exact .inr ⟨p, List.mem_append_right _ hp, heq⟩
  case ran =>
    rw [hfired, ← hw.ran]
    show lateIn (w.acts ++ call.acts w.manager) = _
    rw [lateIn_append, hw.lateIn_of_not_end hend, List.append_nil]
  case once =>
    rw [hfired, hsince, ← List.append_assoc]
    exact hw.once.append_right _

/-- A call that resets the window keeps the invariant: what ran was recorded since the last reset,
and nothing is left of it. -/
theorem Kept.move_of_resets {call : WindowCall E} (hresets : call.resets = true) :
    (w.move (.call call)).Kept := by
  have hsince : (w.move (.call call)).since = [] := by simp [Recording.move, hresets]
  have hrecorded : (w.move (.call call)).recorded = w.recorded := by
    simp [Recording.move, Recording.recordedBy, hresets]
  obtain ⟨level, houtbox⟩ := call.outbox_of_resets hresets w.manager
  have hmove : (w.move (.call call)).manager.site.outbox = w.manager.site.outbox.reset level :=
    houtbox
  constructor
  case mode =>
    rw [hmove]
    exact hw.mode
  case pending =>
    rw [hmove, hsince]
    rfl
  case late =>
    intro d hd
    rw [hsince] at hd
    cases hd
  case inPlay =>
    intro d hd
    rw [hsince] at hd
    cases hd
  case ran =>
    show lateIn (w.acts ++ call.acts w.manager) =
      noticesOf (w.fired ++ if call.isEnd then w.firing.fired else [])
    rw [lateIn_append, noticesOf_append, hw.ran]
    -- of the calls that reset the window only its end runs what is dropped
    rcases call.eq_endBatch_or with rfl | hend
    · rw [hw.lateIn_endBatch]
      rfl
    · rw [hw.lateIn_of_not_end hend, hend]
      rfl
  case once =>
    rw [hsince, hrecorded, List.append_nil]
    show ((w.fired ++ if call.isEnd then w.firing.fired else []).map Prod.fst).Sublist w.recorded
    rw [List.map_append]
    refine List.Sublist.trans (List.Sublist.append_left ?_ _) hw.once
    split
    · exact hw.ends.inOrder.sublist
    · exact List.nil_sublist _

/-- Every move keeps the invariant. -/
theorem Kept.move (move : Move E) : (w.move move).Kept := by
  cases move with
  | edit h f =>
    refine ⟨hw.mode, hw.pending, hw.late, fun d hd => ?_, hw.ran, hw.once⟩
    refine (hw.inPlay d hd).imp_left fun hhas => ?_
    exact Nat.lt_of_lt_of_eq hhas (Workspace.size_modify _ h f).symm
  | call call =>
    cases hresets : call.resets with
    | false => exact hw.move_of_not_resets hresets
    | true => exact hw.move_of_resets hresets

omit hw in
theorem Kept.run (hw : w.Kept) (moves : List (Move E)) : (w.run moves).Kept := by
  induction moves generalizing w with
  | nil => exact hw
  | cons move moves ih => exact ih (hw.move move)

end Recording

/-! ### The contract -/

/-- What a run and one more call do about events. -/
structure Recording.Contract (w : Recording σ E) (call : WindowCall E) : Prop where
  /-- So far exactly the interceptors of the events in `fired` ran, reads apart. -/
  ran : lateIn w.acts = noticesOf w.fired
  /-- No event ran more often than it was recorded, and what is pending did not run yet. -/
  once : (w.fired.map Prod.fst ++ w.since).Sublist w.recorded
  /-- Before the end of the window no interceptor runs but those that follow a read. -/
  waits : call.isEnd = false → ∀ x ∈ interceptedIn (call.acts w.manager), x.2.event = .postLoad
  /-- A write records its first event and its last one. -/
  records : call.resets = false → call.Records w.manager (w.recordedBy call)
  /-- The end of the window runs the events recorded since the last reset, before it sends. -/
  ends : call.isEnd = true → w.Ends (call.run w.manager)
  /-- After a reset nothing is left to run. -/
  abandons : call.resets = true → (call.run w.manager).2.site.outbox.events = []
  /-- The interceptors that follow a read ran before the entity is handed out. -/
  reads : call.Reads w.manager

theorem Recording.Kept.contract {w : Recording σ E} (hw : w.Kept) (call : WindowCall E) :
    w.Contract call where
  ran := hw.ran
  once := hw.once
  waits hend := call.intercepted_postLoad hend hw.mode
  records hresets := (hw.recordedBy hresets).2.1
  ends hend := by
    obtain rfl := call.eq_endBatch_or.resolve_right (by simp [hend])
    exact hw.ends
  abandons hresets := by
    obtain ⟨level, houtbox⟩ := call.outbox_of_resets hresets w.manager
    rw [houtbox]
    rfl
  reads := call.reads w.manager

/-- Reads of a manager without a window. -/
structure Site.ReadsAtOnce (s : Site σ E) : Prop where
  find : ∀ T key options, FindLoads T s (Manager.find T key options s)
  refresh : ∀ T p options, RefreshLoads T p s (Manager.refresh T p options s)

/-- Whatever is done with a manager with windows: the events of its writes run when the window ends,
in the order in which they were recorded, each once and on the entity that the proxy stands for, and
none of them runs if the window is given up. The interceptors that follow a read run at once, inside
a window and outside. -/
theorem event_contract (site : Site σ E) :
    (∀ moves call, ((Recording.ofSite site).run moves).Contract call) ∧ site.ReadsAtOnce := by
  refine ⟨fun moves call => ?_, ?_⟩
  · exact ((Recording.kept_ofSite site).run moves).contract call
  · exact {
      find := fun T key options => Manager.findLoads_find T options site key
      refresh := fun T p options => Manager.refreshLoads_refresh T options site p }

namespace Page

/-- An interceptor that counts the events of an insert as visits. -/
def tally : Interceptor Page :=
  ⟨"tally", "site.Page", [.prePersist, .postPersist],
    fun page _ => ({ page with hits := page.hits.incrBy 1 }, none)⟩

/-- A window in which a page was written. -/
def tallied : Recording Script Page :=
  let T := type "site.Page" "pages" [tally]
  (Recording.ofSite (manager .empty [T]).site).run
    [.call (.persist 7 T (.bare ⟨.bigint 1, .text "Start", .empty⟩) .none)]

/-- Both events wait for the end of the window, and the proxy reads what they did. -/
example :
    tallied.since.map Deferred.event = [.prePersist, .postPersist] ∧
      tallied.fired.length = 0 ∧
      ((tallied.run [.call .endBatch]).manager.site.workspace.entity? first.handle).map
          (fun page => page.hits.takePending.1) = some [1, 1] := by
  decide +kernel

end Page

end WideColumn
