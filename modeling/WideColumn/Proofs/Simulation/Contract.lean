import WideColumn.Proofs.Page
import WideColumn.Proofs.Simulation.Run

/-!
# Batching changes when statements are sent

The same writes are run once at once and once inside a window, which is then ended. With a session
that accepts everything and interceptors that never fail and leave the mapped data alone, each write
has the same answer, the groups of the window say what the statements of the immediate run said, in
the same order, and the entities end with the same mapped data and the same record of changes.
Main statement: `batching_contract`.
-/

namespace WideColumn

open Op

variable {σ E : Type} {types : List (EntityType E)}

/-! ### The end of the window -/

/-- The events that a window put off succeed, and what they do does not show. -/
theorem Harmless.fireAll (hharmless : Harmless types) {events : List (Deferred E)} {s : Site σ E}
    (hevents : ∀ d ∈ events, d.type ∈ types ∧ d.handle.index < s.workspace.cells.size) :
    ((events.forM fun d => Op.fire d.type d.handle d.event : Op σ E PUnit) s).1 = .ok () ∧
      SameWorkspace types s.workspace
        ((events.forM fun d => Op.fire d.type d.handle d.event : Op σ E PUnit) s).2.workspace := by
  induction events generalizing s with
  | nil => exact ⟨rfl, .refl _⟩
  | cons d rest ih =>
    obtain ⟨hT, hlt⟩ := hevents d List.mem_cons_self
    obtain ⟨c, hfire, hsame⟩ := hharmless.fire hT d.event hlt
    obtain ⟨hok, hrest⟩ := ih (s := afterFire d.type d.handle d.event c s) fun d' hd' => by
      rw [hsame.size]
      exact hevents d' (List.mem_cons_of_mem _ hd')
    rw [forM_cons, bind_of_ok hfire]
    exact ⟨hok, hsame.trans hrest⟩

/-- A group without the levels and the timestamps of its statements. -/
def Group.payload (g : Group) : BatchKind × List (String × List Value) :=
  (g.kind, g.statements.map Statement.payload)

theorem payload_groupOf {kind : BatchKind} {requests requests' : List Request}
    (h : requests'.map Request.payload = requests.map Request.payload) (level level' : Level) :
    (groupOf kind requests' level').map Group.payload =
      (groupOf kind requests level).map Group.payload := by
  have hpayload (rs : List Request) :
      (rs.map Request.statement).map Statement.payload = rs.map Request.payload := by
    rw [List.map_map]
    exact List.map_congr_left fun r _ => r.payload_statement
  have hempty : requests'.isEmpty = requests.isEmpty := by
    rw [← List.isEmpty_map (f := Request.payload), h, List.isEmpty_map]
  unfold groupOf
  rw [hempty]
  split
  · rfl
  · exact congrArg (fun payloads => [(kind, payloads)])
      ((hpayload requests').trans (h.trans (hpayload requests).symm))

variable [Session σ]

/-- A session that accepts everything answers every group with success. -/
theorem Accepts.groupAnswer {session : σ} (h : Accepts session) (kind : BatchKind)
    (requests : List Request) (level : Level) : groupAnswer kind requests level session = .ok () := by
  unfold WideColumn.groupAnswer
  split
  · rfl
  · exact h.executeBatch kind _ level

/-- It takes a group, which leaves the entities alone. -/
theorem Accepts.sendGroup {s : Site σ E} (h : Accepts s.session) (kind : BatchKind)
    {requests : List Request} {level : Level} (hlevel : ∀ r ∈ requests, r.level = level) :
    ∃ t, Op.sendGroup kind requests level s = (.ok (), t) ∧ t.workspace = s.workspace ∧
      Accepts t.session := by
  cases hempty : requests.isEmpty with
  | true =>
    unfold Op.sendGroup
    rw [hempty]
    exact ⟨s, rfl, rfl, h⟩
  | false =>
    rw [sendGroup_apply hlevel hempty, h.executeBatch]
    exact ⟨_, rfl, rfl, h.replay (.sentBatch kind _ level)⟩

/-- The end of a window on alike sites succeeds and sends all that is pending, and the entities stay
the same as on the other site. -/
theorem Alike.endBatch {start : List Act} {n : Nat} {s : Site σ E} {b : Batching σ E}
    (h : Alike types start n s b.site) (hharmless : Harmless types)
    (hwindow : b.site.outbox.IsWindow) :
    (Batching.endBatch b).1 = .ok () ∧
      SameWorkspace types s.workspace (Batching.endBatch b).2.site.workspace ∧
      b.endGroups (b.site.outbox.pending .logged) (b.site.outbox.pending .counter) =
        groupOf .logged (b.site.outbox.pending .logged) b.site.outbox.level ++
          groupOf .counter (b.site.outbox.pending .counter) b.site.outbox.level := by
  -- The window is reset before anything is sent.
  let reset := { b.site with outbox := b.site.outbox.reset b.defaultLevel }
  have hend : Batching.endBatch b =
      ((sendAll b.site.outbox reset).1, { b with site := (sendAll b.site.outbox reset).2 }) := rfl
  have hevents : ∀ d ∈ b.site.outbox.events,
      d.type ∈ types ∧ d.handle.index < reset.workspace.cells.size := fun d hd => by
    rw [h.workspace.size]
    exact h.events d hd
  obtain ⟨hok, hsame⟩ : b.fireDeferred.1 = .ok () ∧
      SameWorkspace types reset.workspace b.fireDeferred.2.workspace := hharmless.fireAll hevents
  have hlooks : LooksOn reset b.fireDeferred.2 :=
    composes_looksOn.forM (fun d _ => looksOn_fire d.type d.handle d.event) reset
  rcases hfire : b.fireDeferred with ⟨answer, fired⟩
  rw [hfire] at hok hsame hlooks
  subst hok
  have haccepts : Accepts fired.session := hlooks.session ▸ h.accepts'
  obtain ⟨logged, hlogged, hlogged', hrest⟩ :=
    haccepts.sendGroup .logged (hwindow.level .logged)
  obtain ⟨counter, hcounter, hcounter', -⟩ := hrest.sendGroup .counter (hwindow.level .counter)
  have hsend : sendAll b.site.outbox reset = (.ok (), counter) := by
    have hfired : (b.site.outbox.events.forM fun d => Op.fire d.type d.handle d.event :
      Op σ E PUnit) reset = (.ok (), fired) := hfire
    unfold sendAll
    rw [bind_of_ok hfired]
    exact (bind_of_ok hlogged _).trans hcounter
  rw [hend, hsend]
  refine ⟨rfl, ?_, ?_⟩
  · show SameWorkspace types s.workspace counter.workspace
    rw [hcounter', hlogged']
    exact h.workspace.trans hsame
  · unfold Batching.endGroups
    rw [hfire, h.accepts'.groupAnswer]

/-! ### The contract -/

/-- Writes at once, with the answer of each. -/
def direct (calls : List (Asked E)) (s : Site σ E) : List (Except Stop (Option Proxy)) × Site σ E :=
  runEach (calls.map Asked.atOnce) s

/-- Writes in a new window, with the answer of each, before the window ends. -/
def windowed (calls : List (Asked E)) (level : Level) (b : Batching σ E) :
    List (Except Stop (Option Proxy)) × Batching σ E :=
  runEach (calls.map Asked.inWindow) (Batching.startBatchAt level b).2

/-- Writes at once and in a window do the same, but for the time at which statements are sent. -/
structure SameWrites (types : List (EntityType E)) (calls : List (Asked E)) (level : Level)
    (b : Batching σ E) : Prop where
  /-- Each write has the same answer. -/
  answers : (windowed calls level b).1 = (direct calls b.site).1
  /-- The window ends without an error. -/
  ended : (Batching.endBatch (windowed calls level b).2).1 = .ok ()
  /-- At once every write is executed when it is handed over, and nothing is sent in a group. The
  window sends two groups, unless they are empty: they say what was handed over at once as regular
  writes, and as counter writes. -/
  groups : ∃ acts sent, (direct calls b.site).2.trace = b.site.trace ++ acts ∧
    executedIn acts = (handedIn acts).map Request.statement ∧ groupsIn acts = [] ∧
    (Batching.endBatch (windowed calls level b).2).2.site.trace =
      (windowed calls level b).2.site.trace ++ sent ∧
    executedIn sent = [] ∧
    (groupsIn sent).map Group.payload =
      (groupOf .logged (pushedIn .logged acts) level ++
        groupOf .counter (pushedIn .counter acts) level).map Group.payload
  /-- The entities have the same keys, attributes, counters, changes and loaded properties. -/
  entities : SameWorkspace types (direct calls b.site).2.workspace
    (Batching.endBatch (windowed calls level b).2).2.site.workspace

/-- A fresh window on the site of a manager, before anything is written. -/
theorem Alike.of_window {b : Batching σ E} (hwindow : b.site.outbox.IsWindow)
    (haccepts : Accepts b.site.session) (level : Level) :
    Alike types b.site.trace 0 (Manager.atOnce b.site) (Batching.startBatchAt level b).2.site := by
  have hreset : b.site.outbox.reset level = .ofMode .batching level := by
    unfold Outbox.reset
    rw [hwindow.mode]
  have hsite : (Batching.startBatchAt level b).2.site =
      { b.site with outbox := .ofMode .batching level } := by
    rw [← hreset]
    rfl
  rw [hsite]
  exact {
    immediate := rfl
    batching := rfl
    types_eq := rfl
    registry := .refl _
    workspace := .refl _
    size := Nat.zero_le _
    accepts := haccepts
    accepts' := haccepts
    mirrored := .of_empty b.site.trace level
    events := fun _ hd => nomatch hd }

/-- In every reachable state, writes without levels do the same at once and in a window that is then
ended, for a session that accepts everything and interceptors that never fail and leave the mapped
data alone. -/
theorem batching_contract [LawfulSession σ] {b : Batching σ E} (hb : Reachable b) (level : Level)
    (haccepts : Accepts b.site.session) (hcounters : MappedCounters types)
    (hharmless : Harmless types) {calls : List (Asked E)}
    (hcalls : ∀ a ∈ calls, a.type ∈ types ∧ a.options.hasLevel = false)
    (hcells : HaveCells calls b.site) : SameWrites types calls level b := by
  obtain ⟨hanswers, halike⟩ := alike_runEach hcounters hharmless hcalls hcells
    (Alike.of_window hb.isWindow haccepts level)
  have hwindow : (windowed calls level b).2.site.outbox.IsWindow :=
    ((hb.window (.startBatchAt level)).runEach calls).isWindow
  obtain ⟨hok, hsame, hall⟩ := halike.endBatch hharmless hwindow
  obtain ⟨acts, htrace, hexecuted, hgroups, hpending⟩ := halike.mirrored
  obtain ⟨sent, hsent, hsentGroups, hnothing, -⟩ := (Batching.sends_endBatch hwindow).trace
  refine ⟨hanswers, hok, ⟨acts, sent, htrace, hexecuted, hgroups, hsent, hnothing, ?_⟩, hsame⟩
  rw [hsentGroups]
  refine (congrArg _ hall).trans ?_
  rw [List.map_append, List.map_append, payload_groupOf (hpending .logged) level,
    payload_groupOf (hpending .counter) level]

/-! ### Pages -/

namespace Page

theorem mappedCounters_type (typeName tableName : String)
    (interceptors : List (Interceptor Page)) :
    MappedCounters [type typeName tableName interceptors] := by
  intro T hT page page' name counter hsame T' hT'
  rw [List.mem_singleton.1 hT', List.mem_singleton.1 hT]
  obtain ⟨hvalues, hkey, hcounter⟩ := hsame _ List.mem_cons_self
  simp only [type] at hvalues hkey hcounter ⊢
  by_cases hname : name = "hits" <;> simp_all

/-- Pages whose whole life is watched. -/
def watched : EntityType Page := type "site.Page" "pages" [watcher "site.Page" Event.every]

/-- A page whose title was changed and that was read twice. -/
def drafted : Batching Script Page :=
  visited (titled (opened (manager .empty [watched]) watched first) watched first "Start") watched
    first 2

/-- The page is updated, another one is written, a proxy is refused as a new page, and pages are
removed by their proxy and by their key. -/
def writes : List (Asked Page) :=
  [⟨7, watched, .none, .update first⟩,
    ⟨7, watched, .none, .persist (.bare ⟨.bigint 2, .text "About", Counter.empty.incrBy 1⟩)⟩,
    ⟨7, watched, .none, .persist (.proxy first)⟩,
    ⟨8, watched, .none, .remove (.proxy first)⟩,
    ⟨9, watched, .none, .removeById [.bigint 3]⟩]

/-- The window sends the update, the insert and the deletes together, then the two visits and the
deletes of counters. -/
theorem batching_contract_drafted :
    SameWrites [watched] writes .quorum drafted ∧
      (groupsIn (Batching.endBatch (windowed writes .quorum drafted).2).2.site.trace).map
          (fun g => (g.kind, g.statements.length)) = [(.logged, 4), (.counter, 4)] := by
  have hreachable : Reachable drafted :=
    reachable_visited (reachable_titled (reachable_opened (reachable_manager_type _ _ _ _) _ _)
      _ _ _) _ _ _
  have hcells {s : Site Script Page} (h : (s.workspace.cell? first.handle).isSome = true) :
      HaveCells writes s := by
    simp [writes, HaveCells, Asked.HasCell, Option.isSome_iff_exists.1 h]
  have hcalls : ∀ a ∈ writes, a.type ∈ [watched] ∧ a.options.hasLevel = false := by
    simp [writes, Options.none, Options.hasLevel]
  refine ⟨batching_contract hreachable .quorum (.of_script (by decide +kernel))
    (mappedCounters_type _ _ _) (.of_idle ?_) hcalls (hcells (by decide +kernel)), by decide +kernel⟩
  intro T hT i hi
  rw [List.mem_singleton.1 hT] at hi ⊢
  rw [List.mem_singleton.1 hi]
  exact ⟨rfl, fun _ _ => rfl⟩

end Page

end WideColumn
