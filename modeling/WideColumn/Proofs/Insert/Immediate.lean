import WideColumn.Proofs.Counter.Table
import WideColumn.Proofs.Registry.Registration
import WideColumn.Proofs.Rejection.Contract
import WideColumn.Proofs.Update.Immediate

/-!
# Immediate inserts

What a new entity executes when it is accepted at once: the insert of its row, unless it is one of a
counter table, then one statement for each queued delta that changes something. A counter table has
no insert, and a delta of zero is not sent. So a new row of a counter table is written if and only
if a delta is queued on it that is not zero, while it is accepted whenever anything is queued. Main
statement: `persist_contract`.
-/

namespace WideColumn

open Op

variable {σ E : Type}

/-! ### What an insert says -/

namespace Call

/-- What the insert of an entity says. -/
def insertContent (c : Call E) (entity : E) : Except Error Content := do
  let values ← Registry.insertValues c.type c.entityMeta entity c.options
  return { text := Template.insert c.entityMeta, values
           level := Levels.write c.options c.entityMeta, timestamp := c.options.timestamp }

/-- What is said about a new row before its deltas: nothing in a counter table. -/
def newRowContents (c : Call E) (entity : E) : Except Error (List Content) :=
  if c.entityMeta.isClusteredCounter then .ok []
  else (c.insertContent entity).map fun content => [content]

/-- The deltas that a new entity sends: those taken off its cells that are not zero. -/
def newDeltas (c : Call E) (entity : E) : List (PropertyMeta × Int) :=
  flatten (drainCounters c.type c.entityMeta.counters entity).1

/-- Everything that is said about a new entity. -/
def persistContents (c : Call E) (entity : E) : Except Error (List Content) := do
  let row ← c.newRowContents entity
  let deltas ← c.deltaContents (c.type.key entity) (c.newDeltas entity)
  return row ++ deltas

/-- The statement writes the row of a key: it is an insert that starts with the key, or in a counter
table the statement of a delta that is not zero. -/
def WritesRow (c : Call E) (key : List Value) (statement : Statement) : Prop :=
  ∃ encoded, Registry.encodedKey c.entityMeta key = .ok encoded ∧
    if c.entityMeta.isClusteredCounter then
      ∃ pm ∈ c.entityMeta.counters, ∃ delta ≠ 0, statement.content = deltaContent c encoded pm delta
    else
      statement.query = Template.insert c.entityMeta ∧ ∃ rest, statement.values = encoded ++ rest

theorem insertContent_eq_ok {c : Call E} {entity : E} {content : Content}
    (h : c.insertContent entity = .ok content) :
    content.text = Template.insert c.entityMeta ∧ ∃ encoded rest,
      Registry.encodedKey c.entityMeta (c.type.key entity) = .ok encoded ∧
        content.values = encoded ++ rest := by
  obtain ⟨values, hvalues, h⟩ := except_bind_eq_ok h
  obtain ⟨encoded, hencoded, hvalues⟩ := except_bind_eq_ok hvalues
  obtain ⟨attributes, -, hvalues⟩ := except_bind_eq_ok hvalues
  rw [← Except.ok.inj h]
  refine ⟨rfl, encoded, attributes ++ [ttlValue c.options], hencoded, ?_⟩
  rw [← List.append_assoc]
  exact (Except.ok.inj hvalues).symm

/-- What is taken off the cells is of counters of the class, and not zero. -/
theorem mem_newDeltas {c : Call E} {entity : E} {x : PropertyMeta × Int}
    (h : x ∈ c.newDeltas entity) : x.1 ∈ c.entityMeta.counters ∧ x.2 ≠ 0 := by
  obtain ⟨⟨pm, deltas⟩, hdrained, hx⟩ := List.mem_flatMap.1 h
  obtain ⟨delta, hdelta, rfl⟩ := List.mem_map.1 hx
  exact ⟨mem_of_mem_drainCounters hdrained, by simpa using (List.mem_filter.1 hdelta).2⟩

/-- What is taken off the cells is what is queued on them. -/
theorem newDeltas_eq_queued {c : Call E} (hT : c.type.LawfulCounters)
    (hnames : DistinctNames c.entityMeta.counters) (entity : E) :
    c.newDeltas entity = queued c.type c.entityMeta.counters entity :=
  (drainCounters_spec hT hnames entity).1

theorem queued_ne_nil_iff {T : EntityType E} {properties : List PropertyMeta} {entity : E} :
    queued T properties entity ≠ [] ↔
      ∃ pm ∈ properties, ∃ delta ∈ T.pending entity pm.name, delta ≠ 0 := by
  unfold queued
  constructor
  · intro hne
    obtain ⟨x, hx⟩ := List.exists_mem_of_ne_nil _ hne
    obtain ⟨pm, hpm, hx⟩ := List.mem_flatMap.1 hx
    obtain ⟨delta, hdelta, -⟩ := List.mem_map.1 hx
    obtain ⟨hqueued, hne⟩ := List.mem_filter.1 hdelta
    exact ⟨pm, hpm, delta, hqueued, by simpa using hne⟩
  · rintro ⟨pm, hpm, delta, hqueued, hne⟩
    refine List.ne_nil_of_mem (a := (pm, delta)) (List.mem_flatMap.2 ⟨pm, hpm, ?_⟩)
    exact List.mem_map.2 ⟨delta, List.mem_filter.2 ⟨hqueued, by simpa using hne⟩, rfl⟩

theorem persistContents_eq_ok {c : Call E} {entity : E} {row deltas : List Content}
    (hrow : c.newRowContents entity = .ok row)
    (hdeltas : c.deltaContents (c.type.key entity) (c.newDeltas entity) = .ok deltas) :
    c.persistContents entity = .ok (row ++ deltas) := by
  unfold persistContents
  rw [hrow, hdeltas]
  rfl

end Call

/-! ### Runs that were accepted -/

variable [Session σ]

/-- A run on the cell of a handle that executed statements one by one; all of them were accepted, and
this is what they say. -/
structure Executes (h : Handle) (s t : Site σ E) (c : Cell E) (acts : List Act)
    (contents : List Content) : Prop where
  steps : StepsTo h s t c acts
  contents : (executedIn acts).map Statement.content = contents
  accepted : acceptedIn s.session acts = executedIn acts
  groups : groupsIn acts = []

namespace Executes

variable {h : Handle} {s t u : Site σ E} {c c' : Cell E} {acts more : List Act}
  {contents others : List Content}

theorem trans (hst : Executes h s t c acts contents) (htu : Executes h t u c' more others) :
    Executes h s u c' (acts ++ more) (contents ++ others) where
  steps := hst.steps.trans htu.steps
  contents := by rw [executedIn_append, List.map_append, hst.contents, htu.contents]
  accepted := by
    rw [acceptedIn_append, executedIn_append, hst.accepted, ← hst.steps.session, htu.accepted]
  groups := by rw [groupsIn_append, hst.groups, htu.groups, List.append_nil]

theorem of_quiet (hsteps : StepsTo h s t c acts) (hquiet : Quiet acts) :
    Executes h s t c acts [] where
  steps := hsteps
  contents := by rw [hquiet.2.2, List.map_nil]
  accepted := by rw [acceptedIn_of_quiet hquiet, hquiet.2.2]
  groups := hquiet.2.1

/-- What is done afterwards asks nothing of the session. -/
theorem before (hst : Executes h s t c acts contents) (hquiet : Quiet more)
    (htu : StepsTo h t u c' more) : Executes h s u c' (acts ++ more) contents := by
  have hrun := hst.trans (of_quiet htu hquiet)
  rwa [List.append_nil] at hrun

/-- What was done before asks nothing of the session. -/
theorem after (hquiet : Quiet acts) (hst : StepsTo h s t c acts)
    (htu : Executes h t u c' more contents) : Executes h s u c' (acts ++ more) contents :=
  (of_quiet hst hquiet).trans htu

theorem push {r : Request} {rows : List Row} (kind : BatchKind)
    (hanswer : (Session.execute s.session r.statement).1 = .ok rows)
    (hc : s.workspace.cell? h = some c) :
    Executes h s (s.afterPush kind r) c (sending kind r) [r.statement.content] where
  steps := stepsTo_afterPush kind r hc
  contents := rfl
  accepted := by rw [acceptedIn_sending_of_ok kind hanswer, executedIn_sending]
  groups := groupsIn_sending kind r

/-- Deltas that are all sent. -/
theorem sendEach {call : Call E} {types : List (String × EntityMeta)}
    (hsole : SoleClass types call.entityMeta) (hs : s.registry.Sound types)
    (hmode : s.outbox.mode = .immediate) (hc : s.workspace.cell? h = some c) {key : List Value}
    {deltas : List (PropertyMeta × Int)} (hrun : call.sendEach key deltas s = (.ok (), t)) :
    ∃ acts contents, call.deltaContents key deltas = .ok contents ∧
      Executes h s t c acts contents := by
  obtain ⟨sent, acts, hsends⟩ := Call.sendEach_spec hsole key deltas hs hmode hc
  have hsteps := hsends.steps
  have hnone := hsends.isOk.1 (by rw [hrun])
  have hall := hsends.split
  rw [hnone, List.append_nil] at hall
  have hexecuted := hsends.executed hnone
  have hcontents := hsends.accepted
  rw [← hall, ← hexecuted] at hcontents
  rw [hrun] at hsteps
  exact ⟨acts, _, hcontents, hsteps, rfl, hexecuted.symm, hsends.groups⟩

end Executes

/-! ### The steps of an insert -/

namespace Call

variable {c : Call E} {s t : Site σ E} {p : Proxy} {types : List (String × EntityMeta)}

section

variable {h : Handle} {cell : Cell E} (hmode : s.outbox.mode = .immediate)
  (hc : s.workspace.cell? h = some cell)
include hmode hc

/-- The row is written as the entity stands, and the registry is left alone. -/
theorem executes_insertRow
    (hserves : c.entityMeta.isClusteredCounter = false → s.registry.ServesRows c.entityMeta)
    (hrun : c.insertRow h s = (.ok (), t)) :
    ∃ acts contents, c.newRowContents cell.entity = .ok contents ∧
      Executes h s t cell acts contents ∧ t.registry = s.registry := by
  unfold newRowContents
  cases hclustered : c.entityMeta.isClusteredCounter with
  | true =>
    unfold insertRow at hrun
    rw [if_pos hclustered] at hrun
    obtain ⟨-, rfl⟩ := Prod.mk.inj hrun
    exact ⟨[], [], rfl, .of_quiet (.refl hc) quiet_nil, rfl⟩
  | false =>
    obtain ⟨prepared, hquery, hbind⟩ := (hserves hclustered).insert
    rw [insertRow_apply hclustered hc, hbind] at hrun
    unfold insertContent
    cases hvalues : Registry.insertValues c.type c.entityMeta cell.entity c.options with
    | error e =>
      rw [hvalues] at hrun
      cases hrun
    | ok values =>
      rw [hvalues, Except.map, lift_bind_of_ok rfl] at hrun
      generalize hr : (Request.bound prepared values
        (Levels.write c.options c.entityMeta)).withTimestamp c.options.timestamp = r at hrun
      have hpush : push r s = _ := handOver_immediate .logged r hmode
      rw [discard_run, hpush] at hrun
      cases hanswer : (Session.execute s.session r.statement).1 with
      | error e =>
        rw [hanswer] at hrun
        cases hrun
      | ok rows =>
        rw [hanswer] at hrun
        obtain ⟨-, rfl⟩ := Prod.mk.inj hrun
        refine ⟨_, _, ?_, .push .logged hanswer hc, rfl⟩
        rw [← hr, ← hquery]
        rfl

variable (hsole : SoleClass types c.entityMeta) (hs : s.registry.Sound types)
include hsole hs

theorem executes_writeCounters {key : List Value}
    (hrun : c.writeCounters h key s = (.ok (), t)) : ∃ cell' acts contents,
      c.deltaContents key (c.newDeltas cell.entity) = .ok contents ∧
        Executes h s t cell' acts contents := by
  rw [writeCounters_apply c hc] at hrun
  have hdrain := stepsTo_modifyCell hc fun cell' =>
    { cell' with entity := (drainCounters c.type c.entityMeta.counters cell.entity).2 }
  obtain ⟨acts, contents, hcontents, hsent⟩ :=
    Executes.sendEach (s := (modifyCell h _ s).2) hsole hs hmode hdrain.cell hrun
  exact ⟨_, _, contents, hcontents, hsent.after quiet_nil hdrain⟩

theorem executes_persistDeltas {key : List Value}
    (hrun : c.persistDeltas h key s = (.ok p, t)) :
    p = ⟨h, c.entityMeta, key⟩ ∧ ∃ cell' acts contents,
      c.deltaContents key (c.newDeltas cell.entity) = .ok contents ∧
        Executes h s t cell' acts contents := by
  obtain ⟨_, u, hcounters, hrun⟩ := bind_eq_ok hrun
  obtain ⟨_, acts, contents, hcontents, hsent⟩ :=
    executes_writeCounters hmode hc hsole hs hcounters
  obtain ⟨_, v, htrigger, hrun⟩ := bind_eq_ok hrun
  have hfired := (trigger_spec (T := c.type) .postPersist hsent.steps.cell
    (by rw [hsent.steps.outbox, hmode])).2
  rw [htrigger] at hfired
  have hmanaged := stepsTo_modifyCell hfired.cell fun cell =>
    { cell with loaded := c.entityMeta.properties.map fun pm => pm.name
                options := c.proxyOptions }
  have hall := (hsent.before (quiet_map_intercepted h _) hfired).before quiet_nil hmanaged
  obtain ⟨hp, rfl⟩ := Prod.mk.inj hrun
  exact ⟨(Except.ok.inj hp).symm, _, _, contents, hcontents, hall⟩

/-- An entity whose interceptors ran is written, and nothing else is executed. -/
theorem executes_persistRest
    (hserves : c.entityMeta.isClusteredCounter = false → s.registry.ServesRows c.entityMeta)
    (hrun : c.persistRest h s = (.ok p, t)) :
    p = ⟨h, c.entityMeta, c.type.key cell.entity⟩ ∧ ∃ cell' acts contents,
      c.persistContents cell.entity = .ok contents ∧ Executes h s t cell' acts contents := by
  rw [persistRest_apply hc] at hrun
  obtain ⟨_, u, hrow, hrun⟩ := bind_eq_ok hrun
  obtain ⟨first, row, hrowContents, hwritten, hregistry⟩ := executes_insertRow hmode hc hserves hrow
  obtain ⟨hp, cell', acts, deltas, hdeltas, hsent⟩ :=
    executes_persistDeltas (by rw [hwritten.steps.outbox, hmode]) hwritten.steps.cell hsole
      (hregistry ▸ hs : u.registry.Sound types) hrun
  exact ⟨hp, cell', _, _, persistContents_eq_ok hrowContents hdeltas, hwritten.trans hsent⟩

end

/-- A new entity that is accepted is written as its interceptors left it. -/
theorem executes_persist (hmode : s.outbox.mode = .immediate)
    (hsole : SoleClass types c.entityMeta) (hs : s.registry.Sound types)
    (hserves : c.entityMeta.isClusteredCounter = false → s.registry.ServesRows c.entityMeta)
    {entity : E} (hrun : c.persist entity s = (.ok p, t)) :
    p.key = c.type.key (c.type.intercept entity .prePersist).2.1 ∧ ∃ h cell acts contents,
      c.persistContents (c.type.intercept entity .prePersist).2.1 = .ok contents ∧
        Executes h (s.adding entity) t cell acts contents := by
  have hcell := Workspace.cell?_add_self s.workspace entity
  have hfired := (trigger_spec (T := c.type) (s := s.adding entity) .prePersist hcell hmode).2
  have hregistry := (sameStore_trigger c.type (s.workspace.add entity).1 .prePersist
    (s.adding entity)).registry
  rw [persist_apply] at hrun
  obtain ⟨_, u, htrigger, hrun⟩ := bind_eq_ok hrun
  rw [htrigger] at hfired hregistry
  have hsame : u.registry = s.registry := hregistry
  obtain ⟨rfl, cell, acts, contents, hcontents, hwritten⟩ :=
    executes_persistRest (by rw [hfired.outbox]; exact hmode) hfired.cell hsole (hsame ▸ hs)
      (fun hrows => hsame ▸ hserves hrows) hrun
  exact ⟨rfl, _, cell, _, contents, hcontents,
    hwritten.after (quiet_map_intercepted _ _) hfired⟩

end Call

/-! ### The contract -/

namespace Call

variable {c : Call E} {entity : E} {statements : List Statement}
  (h : c.persistContents entity = .ok (statements.map Statement.content))
include h

omit [Session σ] in
/-- A class with inserts starts with one. -/
theorem exists_insert_of_persistContents (hem : c.entityMeta.isClusteredCounter = false) :
    ∃ statement ∈ statements, c.WritesRow (c.type.key entity) statement := by
  obtain ⟨row, hrow, h⟩ := except_bind_eq_ok h
  obtain ⟨deltas, -, h⟩ := except_bind_eq_ok h
  unfold newRowContents at hrow
  rw [hem, if_neg Bool.false_ne_true] at hrow
  cases hinsert : c.insertContent entity with
  | error e =>
    rw [hinsert] at hrow
    cases hrow
  | ok content =>
    rw [hinsert] at hrow
    have hcontents : content :: deltas = statements.map Statement.content := by
      rw [← Except.ok.inj h, ← Except.ok.inj hrow]
      rfl
    obtain ⟨statement, rest, rfl, rfl, -⟩ := List.map_eq_cons_iff.1 hcontents.symm
    obtain ⟨htext, encoded, values, hencoded, hvalues⟩ := insertContent_eq_ok hinsert
    refine ⟨statement, List.mem_cons_self, encoded, hencoded, ?_⟩
    rw [hem, if_neg Bool.false_ne_true]
    exact ⟨htext, values, hvalues⟩

section

variable (hem : c.entityMeta.isClusteredCounter = true)
include hem

omit [Session σ] in
/-- An entity of a counter table says nothing but its deltas. -/
theorem deltaContents_of_persistContents :
    c.deltaContents (c.type.key entity) (c.newDeltas entity) =
      .ok (statements.map Statement.content) := by
  obtain ⟨row, hrow, h⟩ := except_bind_eq_ok h
  obtain ⟨deltas, hdeltas, h⟩ := except_bind_eq_ok h
  unfold newRowContents at hrow
  rw [if_pos hem] at hrow
  rw [hdeltas, ← Except.ok.inj h, ← Except.ok.inj hrow]
  rfl

omit [Session σ] in
theorem eq_nil_of_persistContents (hnone : c.newDeltas entity = []) : statements = [] := by
  have hdeltas := deltaContents_of_persistContents h hem
  rw [hnone] at hdeltas
  exact List.map_eq_nil_iff.1 (Except.ok.inj hdeltas).symm

omit [Session σ] in
/-- An entity of a counter table is written if and only if it sends a delta. -/
theorem exists_delta_iff_of_persistContents :
    (∃ statement ∈ statements, c.WritesRow (c.type.key entity) statement) ↔
      c.newDeltas entity ≠ [] := by
  cases hnew : c.newDeltas entity with
  | nil =>
    rw [eq_nil_of_persistContents h hem hnew]
    simp
  | cons x rest =>
    have hdeltas := deltaContents_of_persistContents h hem
    unfold deltaContents at hdeltas
    rw [hnew, List.mapM_cons] at hdeltas
    obtain ⟨content, hcontent, hdeltas⟩ := except_bind_eq_ok hdeltas
    obtain ⟨others, -, hdeltas⟩ := except_bind_eq_ok hdeltas
    obtain ⟨encoded, hencoded, hcontent⟩ := except_bind_eq_ok hcontent
    obtain ⟨statement, more, rfl, hstatement, -⟩ :=
      List.map_eq_cons_iff.1 (Except.ok.inj hdeltas).symm
    have hx : x ∈ c.newDeltas entity := by simp [hnew]
    obtain ⟨hcounter, hne⟩ := mem_newDeltas hx
    refine iff_of_true ⟨statement, List.mem_cons_self, encoded, hencoded, ?_⟩ (by simp)
    rw [if_pos hem]
    exact ⟨x.1, hcounter, x.2, hne, hstatement.trans (Except.ok.inj hcontent).symm⟩

end

end Call

namespace Manager

/-- What an insert at once does. -/
def persistActs (T : EntityType E) (entity : E) (options : Options) (s : Site σ E) : List Act :=
  (persist T (.bare entity) options s).2.trace.drop s.trace.length

/-- What an insert at once owes to an entity that it accepts. -/
structure PersistContract (T : EntityType E) (em : EntityMeta) (entity : E) (options : Options)
    (s : Site σ E) : Prop where
  /-- The statements that are executed are those of the entity as its interceptors left it; every one
  is accepted, and no group is sent. -/
  executed {p : Proxy} : (persist T (.bare entity) options s).1 = .ok p →
    (callOf T em options).persistContents (T.intercept entity .prePersist).2.1 =
        .ok ((executedIn (persistActs T entity options s)).map Statement.content) ∧
      acceptedIn s.session (persistActs T entity options s) =
        executedIn (persistActs T entity options s) ∧
      groupsIn (persistActs T entity options s) = []
  /-- The proxy is bound to the key that the interceptors left. -/
  key {p : Proxy} : (persist T (.bare entity) options s).1 = .ok p →
    p.key = T.key (T.intercept entity .prePersist).2.1
  /-- The row of this key is written if and only if the class has inserts, or some delta that the
  interceptors left is not zero. -/
  written {p : Proxy} : (persist T (.bare entity) options s).1 = .ok p →
    ((∃ statement ∈ executedIn (persistActs T entity options s),
        (callOf T em options).WritesRow p.key statement) ↔
      em.isClusteredCounter = false ∨ ∃ pm ∈ em.counters,
        ∃ delta ∈ T.pending (T.intercept entity .prePersist).2.1 pm.name, delta ≠ 0)
  /-- Otherwise nothing is executed at all. -/
  silent {p : Proxy} : (persist T (.bare entity) options s).1 = .ok p →
    em.isClusteredCounter = true →
    (∀ pm ∈ em.counters, ∀ delta ∈ T.pending (T.intercept entity .prePersist).2.1 pm.name,
      delta = 0) → executedIn (persistActs T entity options s) = []
  /-- In a counter table only entities are accepted on which something is queued, be it zero. -/
  checked {p : Proxy} : (persist T (.bare entity) options s).1 = .ok p →
    ¬ Write.LacksDeltas T em entity

section

variable {T : EntityType E} {em : EntityMeta} {entity : E} {options : Options} {s : Site σ E}
  {p : Proxy} (hem : s.types.lookup T.typeName = some em)
include hem

/-- An insert at once that is accepted passed the check of counter tables. -/
theorem persist_eq_ok (hok : (persist T (.bare entity) options s).1 = .ok p) :
    ¬ Write.LacksDeltas T em entity ∧ ∃ t, (callOf T em options).persist entity (atOnce s) =
      (.ok p, t) ∧ (persist T (.bare entity) options s).2 = { t with outbox := s.outbox } := by
  unfold persist at hok ⊢
  rw [immediately_apply] at hok ⊢
  rcases hrun : persistIn T (.bare entity) options (atOnce s) with ⟨answer, t⟩
  rw [hrun] at hok
  obtain rfl : answer = .ok p := hok
  have hlookup : (atOnce s).types.lookup T.typeName = some em := hem
  unfold persistIn at hrun
  rw [bind_of_ok (entityMeta_of_lookup hlookup)] at hrun
  obtain ⟨_, u, hcheck, hrun⟩ := bind_eq_ok hrun
  obtain ⟨hchecked, rfl⟩ := lift_eq_ok hcheck
  obtain ⟨_, v, hkey, hrun⟩ := bind_eq_ok hrun
  obtain ⟨-, rfl⟩ := lift_eq_ok hkey
  rw [bind_of_ok (call_atOnce hem)] at hrun
  exact ⟨Write.not_lacksDeltas_of_ok hchecked, t, hrun, rfl⟩

variable (hsole : SoleClass s.types em) (hs : s.Sound) (hcomplete : s.Complete)
include hsole hs hcomplete

/-- What an insert at once does when it is accepted. -/
theorem executes_persist (hok : (persist T (.bare entity) options s).1 = .ok p) :
    p.key = T.key (T.intercept entity .prePersist).2.1 ∧
      (callOf T em options).persistContents (T.intercept entity .prePersist).2.1 =
        .ok ((executedIn (persistActs T entity options s)).map Statement.content) ∧
      acceptedIn s.session (persistActs T entity options s) =
        executedIn (persistActs T entity options s) ∧
      groupsIn (persistActs T entity options s) = [] := by
  obtain ⟨-, t, hrun, hsite⟩ := persist_eq_ok hem hok
  have hentry : SoleEntry s em := ⟨hs, hcomplete, ⟨_, mem_of_lookup hem⟩, hsole⟩
  obtain ⟨hkey, h, cell, acts, contents, hcontents, hwritten⟩ :=
    Call.executes_persist (s := atOnce s) rfl hsole hs.registry hentry.servesRows hrun
  have hacts : persistActs T entity options s = acts := by
    apply acts_eq
    rw [hsite]
    exact hwritten.steps.trace
  rw [hacts, hwritten.contents]
  exact ⟨hkey, hcontents, hwritten.accepted, hwritten.groups⟩

end

/-- An insert at once into a registered class keeps the contract, in every reachable state in which
no other class has the name of its class. -/
theorem persist_contract [LawfulSession σ] {b : Batching σ E} (hb : Reachable b)
    {T : EntityType E} {em : EntityMeta} (hsole : SoleClass b.site.types em)
    (hem : b.site.types.lookup T.typeName = some em) (hT : T.LawfulCounters) (entity : E)
    (options : Options) : PersistContract T em entity options b.site := by
  have hrun {p : Proxy} (hok : (persist T (.bare entity) options b.site).1 = .ok p) :=
    executes_persist hem hsole hb.sound hb.isComplete hok
  have hnames := (hb.sound.built (mem_of_lookup hem)).distinctNames_counters
  have hsends : (callOf T em options).newDeltas (T.intercept entity .prePersist).2.1 ≠ [] ↔
      ∃ pm ∈ em.counters,
        ∃ delta ∈ T.pending (T.intercept entity .prePersist).2.1 pm.name, delta ≠ 0 := by
    rw [Call.newDeltas_eq_queued (c := callOf T em options) hT hnames]
    exact Call.queued_ne_nil_iff
  constructor
  case executed => exact fun hok => (hrun hok).2
  case key => exact fun hok => (hrun hok).1
  case written =>
    intro p hok
    obtain ⟨hkey, hcontents, -⟩ := hrun hok
    rw [hkey, ← hsends]
    cases hclustered : em.isClusteredCounter with
    | false =>
      exact iff_of_true (Call.exists_insert_of_persistContents hcontents hclustered) (.inl rfl)
    | true =>
      refine (Call.exists_delta_iff_of_persistContents hcontents hclustered).trans ?_
      simp
  case silent =>
    intro p hok hclustered hzero
    apply Call.eq_nil_of_persistContents (hrun hok).2.1 hclustered
    by_contra hne
    obtain ⟨pm, hpm, delta, hdelta, hnot⟩ := hsends.1 hne
    exact hnot (hzero pm hpm delta hdelta)
  case checked => exact fun hok => (persist_eq_ok hem hok).1

end Manager

/-! ### Visits -/

namespace Visits

theorem lawfulCounters_type (typeName tableName : String) :
    (type typeName tableName).LawfulCounters where
  counter?_setCounter {visits name old new} h := by
    simp only [type] at h ⊢
    split
    · rfl
    · next hne => simp [hne] at h
  counter?_setCounter_of_ne {visits name other} new h := by
    simp only [type]
    by_cases hother : other = "hits"
    · have hname : name ≠ "hits" := by
        rw [← hother]
        exact h
      simp [hname]
    · simp [hother]

theorem reachable_manager_bySite : Reachable (manager [bySite]) := by
  have hran : Ran (OwnEdit fun _ => entityMeta "visits_by_site") (manager [bySite]) [] := by
    apply ran_manager
    intro T hT
    rw [List.mem_singleton.1 hT]
    exact built_type _ _
  exact (hran.mono fun _ _ => OwnEdit.proxyEdit).reachable

theorem soleClass_manager_bySite :
    SoleClass (manager [bySite]).site.types (entityMeta "visits_by_site") := by
  unfold SoleClass
  decide +kernel

theorem lookup_manager_bySite :
    (manager [bySite]).site.types.lookup bySite.typeName = some (entityMeta "visits_by_site") := by
  decide +kernel

/-- The visits of a site on a day, with queued deltas. -/
def queuing (deltas : List Int) : Visits := ⟨.text "home", .bigint 1, ⟨none, deltas⟩⟩

/-- New visits, written at once. -/
def inserted (deltas : List Int) : Except Stop Proxy × Site Script Visits :=
  Manager.persist bySite (.bare (queuing deltas)) .none (manager [bySite]).site

/-- The statements that are executed for new visits. -/
def insertedTexts (deltas : List Int) : List String :=
  (executedIn (Manager.persistActs bySite (queuing deltas) .none (manager [bySite]).site)).map
    Statement.query

/-- Of two queued deltas the one that is not zero is sent. -/
theorem persist_contract_queuing :
    Manager.PersistContract bySite (entityMeta "visits_by_site") (queuing [0, 5]) .none
        (manager [bySite]).site ∧
      (inserted [0, 5]).1.isOk = true ∧ insertedTexts [0, 5] =
        ["UPDATE visits_by_site SET hits=hits+:hits WHERE site=:site AND day=:day;"] :=
  ⟨Manager.persist_contract reachable_manager_bySite soleClass_manager_bySite lookup_manager_bySite
    (lawfulCounters_type _ _) _ _, by decide +kernel, by decide +kernel⟩

/-- Visits on which only a zero is queued are accepted, and not written. -/
theorem not_written_of_accepted :
    ¬ ∀ (b : Batching Script Visits) (T : EntityType Visits) (em : EntityMeta) (visits : Visits)
      (options : Options) (p : Proxy), Reachable b → SoleClass b.site.types em →
      b.site.types.lookup T.typeName = some em → T.LawfulCounters →
      (Manager.persist T (.bare visits) options b.site).1 = .ok p →
      ∃ statement ∈ executedIn (Manager.persistActs T visits options b.site),
        (Manager.callOf T em options).WritesRow p.key statement := by
  intro h
  obtain ⟨p, hok⟩ := exists_eq_ok_of_isOk (show (inserted [0]).1.isOk = true by decide +kernel)
  have hnone : insertedTexts [0] = [] := by decide +kernel
  obtain ⟨statement, hmem, -⟩ := h _ _ _ _ _ p reachable_manager_bySite
    soleClass_manager_bySite lookup_manager_bySite (lawfulCounters_type _ _) hok
  rw [List.map_eq_nil_iff.1 hnone] at hmem
  cases hmem

end Visits

end WideColumn
