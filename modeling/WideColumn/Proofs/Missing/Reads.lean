import WideColumn.Proofs.Loaded.Operations

/-!
# Reads of what is missing

What completing a proxy runs. For each attribute that is read on demand, and then for each counter,
unless it counts as loaded, a request is bound and executed, and what is received is put into the
entity. The reads follow the declared order and end at the first that fails (`Call.Attempt`), and
they change nothing but the session, the trace and the cell of the proxy (`Call.complete_apply`).
-/

namespace WideColumn

open Op

variable {σ E : Type}

/-- What is read on demand, and then the counters, without what counts as loaded. -/
def EntityMeta.missing (em : EntityMeta) (loaded : List String) : List PropertyMeta :=
  (em.onDemand ++ em.counters).filter fun pm => !loaded.contains pm.name

theorem EntityMeta.isCounter_of_mem_onDemand {em : EntityMeta} {pm : PropertyMeta}
    (hpm : pm ∈ em.onDemand) : pm.isCounter = false := by
  have hplain := (List.mem_filter.1 (List.mem_filter.1 hpm).1).2
  simpa using (Bool.and_eq_true_iff.1 hplain).2

/-- What was read is not missing any more. -/
theorem filter_missing_append {properties : List PropertyMeta} {loaded : List String}
    {name : String} (hname : name ∉ properties.map fun pm => pm.name) :
    (properties.filter fun pm => !(loaded ++ [name]).contains pm.name) =
      properties.filter fun pm => !loaded.contains pm.name := by
  refine List.filter_congr fun pm hpm => ?_
  have hne : pm.name ≠ name := fun heq => hname (heq ▸ List.mem_map_of_mem hpm)
  simp [hne]

/-! ### One read and several -/

namespace Call

/-- The request that reads an attribute or a counter of a key. -/
def missingRequest (c : Call E) (r : Registry) (key : List Value) (pm : PropertyMeta) :
    Except Error Request :=
  if pm.isCounter then c.readCounterRequest r pm key
  else r.bindSelectField c.entityMeta pm key (Levels.readProperty c.options pm c.entityMeta)

/-- The entity with what was received for an attribute or a counter. -/
def fill (c : Call E) (pm : PropertyMeta) (rows : List Row) (entity : E) : Except Error E :=
  if pm.isCounter then
    let column := if c.entityMeta.isClusteredCounter then pm.name else Template.counterValue
    let value := (firstValue rows column >>= Value.int?).map Int64.toInt
    .ok (setCounterLoaded c.type pm.name value entity)
  else
    pm.decode ((firstValue rows pm.name).getD .null) >>= c.type.write entity pm.name

variable [Session σ]

/-- Reads that all succeed: the session and the cell before, what is read, the requests, the session
and the cell afterwards. -/
inductive Fills (c : Call E) (r : Registry) (key : List Value) :
    σ → Cell E → List PropertyMeta → List Request → σ → Cell E → Prop
  | nil {session : σ} {cell : Cell E} : Fills c r key session cell [] [] session cell
  | cons {session session' : σ} {cell cell' : Cell E} {pm : PropertyMeta} {request : Request}
      {rows : List Row} {entity : E} {rest : List PropertyMeta} {requests : List Request} :
      c.missingRequest r key pm = .ok request →
      (Session.execute session request.statement).1 = .ok rows →
      c.fill pm rows cell.entity = .ok entity →
      Fills c r key (Session.execute session request.statement).2
        { cell with entity, loaded := cell.loaded ++ [pm.name] } rest requests session' cell' →
      Fills c r key session cell (pm :: rest) (request :: requests) session' cell'

/-- A read that fails: the session before, the entity, what is read, the requests that were
executed, the error and the session afterwards. -/
inductive Fails (c : Call E) (r : Registry) (key : List Value) (session : σ) (entity : E)
    (pm : PropertyMeta) : List Request → Stop → σ → Prop
  | binding {e : Error} : c.missingRequest r key pm = .error e →
      Fails c r key session entity pm [] (.failed e) session
  | execution {request : Request} {stop : Stop} : c.missingRequest r key pm = .ok request →
      (Session.execute session request.statement).1 = .error stop →
      Fails c r key session entity pm [request] stop (Session.execute session request.statement).2
  /-- What was received cannot be decoded, or the entity refuses it. -/
  | filling {request : Request} {rows : List Row} {e : Error} :
      c.missingRequest r key pm = .ok request →
      (Session.execute session request.statement).1 = .ok rows →
      c.fill pm rows entity = .error e →
      Fails c r key session entity pm [request] (.failed e)
        (Session.execute session request.statement).2

/-- Reads of properties in their order, until one fails. -/
inductive Attempt (c : Call E) (r : Registry) (key : List Value) (session : σ) (cell : Cell E) :
    List PropertyMeta → Except Stop Unit → List Request → σ → Cell E → Prop
  | done {missing : List PropertyMeta} {requests : List Request} {session' : σ} {cell' : Cell E} :
      c.Fills r key session cell missing requests session' cell' →
      Attempt c r key session cell missing (.ok ()) requests session' cell'
  | stopped {read rest : List PropertyMeta} {pm : PropertyMeta} {requests more : List Request}
      {stop : Stop} {session' session'' : σ} {cell' : Cell E} :
      c.Fills r key session cell read requests session' cell' →
      c.Fails r key session' cell'.entity pm more stop session'' →
      Attempt c r key session cell (read ++ pm :: rest) (.error stop) (requests ++ more)
        session'' cell'

variable {c : Call E} {r : Registry} {key : List Value} {session session' : σ}
  {cell cell' : Cell E} {pm : PropertyMeta} {request : Request} {rows : List Row} {entity : E}
  {missing : List PropertyMeta} {answer : Except Stop Unit} {requests : List Request}

/-- One read that succeeds, and then some more. -/
theorem Attempt.cons (hrequest : c.missingRequest r key pm = .ok request)
    (hrows : (Session.execute session request.statement).1 = .ok rows)
    (hentity : c.fill pm rows cell.entity = .ok entity)
    (hrest : c.Attempt r key (Session.execute session request.statement).2
      { cell with entity, loaded := cell.loaded ++ [pm.name] } missing answer requests session'
      cell') :
    c.Attempt r key session cell (pm :: missing) answer (request :: requests) session' cell' := by
  cases hrest with
  | done hfills => exact .done (.cons hrequest hrows hentity hfills)
  | stopped hfills hfails => exact .stopped (.cons hrequest hrows hentity hfills) hfails

/-- The first read fails. -/
theorem Attempt.of_fails {stop : Stop}
    (h : c.Fails r key session cell.entity pm requests stop session') :
    c.Attempt r key session cell (pm :: missing) (.error stop) requests session' cell :=
  .stopped .nil h

end Call

/-! ### Sites after reads -/

/-- What reads add to the trace. -/
def readActs (requests : List Request) : List Act :=
  requests.flatMap fun r => [.logged (.sent r), .executed r.statement]

/-- A site after reads that brought about a session and the cell of a handle. -/
def Site.afterReads (s : Site σ E) (h : Handle) (requests : List Request) (session : σ)
    (cell : Cell E) : Site σ E :=
  { s with session, trace := s.trace ++ readActs requests
           workspace := s.workspace.modify h fun _ => cell }

namespace Site

variable {s : Site σ E} {h : Handle} {cell : Cell E}

theorem afterReads_nil (hcell : s.workspace.cell? h = some cell) :
    s.afterReads h [] s.session cell = s := by
  unfold afterReads
  rw [Workspace.modify_const hcell]
  simp [readActs]

theorem afterReads_afterReads (requests more : List Request) (session session' : σ)
    (cell cell' : Cell E) :
    (s.afterReads h requests session cell).afterReads h more session' cell' =
      s.afterReads h (requests ++ more) session' cell' := by
  simp [afterReads, readActs, Workspace.modify_modify]

theorem cell?_afterReads (hcell : s.workspace.cell? h = some cell) (requests : List Request)
    (session : σ) (cell' : Cell E) :
    (s.afterReads h requests session cell').workspace.cell? h = some cell' :=
  Workspace.cell?_modify_self hcell _

end Site

/-! ### Runs -/

namespace Call

section

variable {c : Call E} {p : Proxy} {pm : PropertyMeta} {cell : Cell E}

theorem modifyCell_congr {s : Site σ E} {h : Handle} (hcell : s.workspace.cell? h = some cell)
    {f g : Cell E → Cell E} (hfg : f cell = g cell) :
    Op.modifyCell h f s = Op.modifyCell h g s := by
  rw [modifyCell_apply, modifyCell_apply, Workspace.modify_congr hcell hfg]

/-- Put what was received for a property into the entity of a proxy. -/
def takeMissing (c : Call E) (p : Proxy) (pm : PropertyMeta) (rows : List Row) : Op σ E Unit := do
  let entity ← c.fill pm rows (← Op.cell p.handle).entity
  Op.modifyCell p.handle fun cell => { cell with entity }

theorem takeValue_apply {s : Site σ E} (hcell : s.workspace.cell? p.handle = some cell)
    (hpm : pm.isCounter = false) (rows : List Row) :
    c.takeValue p pm rows s = c.takeMissing p pm rows s := by
  have hread : Op.cell p.handle s = (.ok cell, s) := by rw [cell_apply, hcell]
  unfold takeValue takeMissing fill
  rw [bind_of_ok hread, hpm]
  cases pm.decode ((firstValue rows pm.name).getD .null) with
  | error e => rfl
  | ok value =>
    rw [lift_bind_of_ok rfl, bind_of_ok hread]
    rfl

theorem takeCounter_apply {s : Site σ E} (hcell : s.workspace.cell? p.handle = some cell)
    (hpm : pm.isCounter = true) (rows : List Row) :
    c.takeCounter p pm rows s = c.takeMissing p pm rows s := by
  have hread : Op.cell p.handle s = (.ok cell, s) := by rw [cell_apply, hcell]
  unfold takeCounter takeMissing fill
  rw [bind_of_ok hread, hpm]
  dsimp only
  rw [if_pos rfl, lift_bind_of_ok rfl]
  exact modifyCell_congr hcell rfl

end

variable [Session σ] {c : Call E} {p : Proxy} {pm : PropertyMeta} {s : Site σ E} {cell : Cell E}

/-- A read in which the session has a part. -/
theorem executeRequest_afterReads (hcell : s.workspace.cell? p.handle = some cell) (r : Request) :
    executeRequest r s = ((Session.execute s.session r.statement).1,
      s.afterReads p.handle [r] (Session.execute s.session r.statement).2 cell) := by
  rw [executeRequest_apply]
  unfold Site.afterReads
  rw [Workspace.modify_const hcell]
  rfl

omit [Session σ] in
/-- What was received is put into the entity, and counts as loaded. -/
theorem takeMissing_bind (hcell : s.workspace.cell? p.handle = some cell)
    (hpm : pm.name ∉ cell.loaded) (request : Request) (session : σ) (rows : List Row) :
    (c.takeMissing p pm rows >>= fun _ => markLoaded p pm.name)
        (s.afterReads p.handle [request] session cell) =
      match c.fill pm rows cell.entity with
      | .ok entity => (.ok (), s.afterReads p.handle [request] session
          { cell with entity, loaded := cell.loaded ++ [pm.name] })
      | .error e => (.error (.failed e), s.afterReads p.handle [request] session cell) := by
  have hread : Op.cell p.handle (s.afterReads p.handle [request] session cell) =
      (.ok cell, s.afterReads p.handle [request] session cell) := by
    rw [cell_apply, Site.cell?_afterReads hcell]
  have hadd : addName pm.name cell.loaded = cell.loaded ++ [pm.name] := by
    unfold addName
    rw [if_neg (by simpa using hpm)]
  unfold takeMissing
  rw [bind_assoc, bind_of_ok hread, bind_assoc]
  cases c.fill pm rows cell.entity with
  | error e => rfl
  | ok entity =>
    rw [lift_bind_of_ok rfl]
    rw [← hadd]
    unfold markLoaded
    rw [bind_of_ok (modifyCell_apply _ _ _), modifyCell_apply]
    simp only [Site.afterReads, Workspace.modify_modify]

/-- A read succeeds, or it fails and leaves the cell as it is. -/
theorem fetch_cases {request : Except Error Request} {take : List Row → Op σ E Unit}
    (hcell : s.workspace.cell? p.handle = some cell) (hpm : pm.name ∉ cell.loaded)
    (hrequest : request = c.missingRequest s.registry p.key pm)
    (htake : ∀ rows (t : Site σ E), t.workspace.cell? p.handle = some cell →
      take rows t = c.takeMissing p pm rows t) :
    (∃ r rows entity, c.missingRequest s.registry p.key pm = .ok r ∧
        (Session.execute s.session r.statement).1 = .ok rows ∧
        c.fill pm rows cell.entity = .ok entity ∧
        fetch p pm request take s = (.ok (), s.afterReads p.handle [r]
          (Session.execute s.session r.statement).2
          { cell with entity, loaded := cell.loaded ++ [pm.name] })) ∨
      ∃ requests stop session,
        c.Fails s.registry p.key s.session cell.entity pm requests stop session ∧
          fetch p pm request take s =
            (.error stop, s.afterReads p.handle requests session cell) := by
  subst hrequest
  unfold fetch ask
  rw [bind_assoc]
  cases hr : c.missingRequest s.registry p.key pm with
  | error e =>
    refine .inr ⟨[], .failed e, s.session, .binding hr, ?_⟩
    rw [lift_bind_of_error rfl, Site.afterReads_nil hcell]
  | ok r =>
    have hexecute := executeRequest_afterReads hcell r
    rw [lift_bind_of_ok rfl, bind_assoc]
    cases hrows : (Session.execute s.session r.statement).1 with
    | error stop =>
      rw [hrows] at hexecute
      rw [bind_of_error hexecute]
      exact .inr ⟨[r], stop, _, .execution hr hrows, rfl⟩
    | ok rows =>
      rw [hrows] at hexecute
      have hput := takeMissing_bind (c := c) hcell hpm r
        (Session.execute s.session r.statement).2 rows
      rw [bind_apply, ← htake rows _ (Site.cell?_afterReads hcell _ _ _), ← bind_apply] at hput
      rw [bind_of_ok hexecute, hput]
      cases hfill : c.fill pm rows cell.entity with
      | error e => exact .inr ⟨[r], .failed e, _, .filling hr hrows hfill, rfl⟩
      | ok entity => exact .inl ⟨r, rows, entity, rfl, hrows, hfill, rfl⟩

/-- Read an attribute or a counter of a proxy. -/
def readMissing (c : Call E) (p : Proxy) (pm : PropertyMeta) : Op σ E Unit :=
  if pm.isCounter then c.readCounter p pm else c.readProperty p pm

theorem readMissing_apply (s : Site σ E) : c.readMissing p pm s =
    fetch p pm (c.missingRequest s.registry p.key pm)
      (if pm.isCounter then c.takeCounter p pm else c.takeValue p pm) s := by
  unfold readMissing missingRequest
  cases pm.isCounter with
  | true => exact readCounter_eq_fetch s
  | false => exact readProperty_apply s

omit [Session σ] in
theorem take_apply {s : Site σ E} (hcell : s.workspace.cell? p.handle = some cell)
    (rows : List Row) :
    (if pm.isCounter then c.takeCounter p pm else c.takeValue p pm) rows s =
      c.takeMissing p pm rows s := by
  cases hpm : pm.isCounter with
  | true => exact takeCounter_apply hcell hpm rows
  | false => exact takeValue_apply hcell hpm rows

/-- Properties are read in their order, without those that count as loaded, until a read fails. -/
theorem attempt_forUnloaded {properties : List PropertyMeta} (hnames : DistinctNames properties)
    (hcell : s.workspace.cell? p.handle = some cell) : ∃ answer requests session cell',
      c.Attempt s.registry p.key s.session cell
        (properties.filter fun pm => !cell.loaded.contains pm.name) answer requests session cell' ∧
      forUnloaded p properties (c.readMissing p) s =
        (answer, s.afterReads p.handle requests session cell') := by
  unfold forUnloaded
  induction properties generalizing s cell with
  | nil => exact ⟨_, [], s.session, cell, .done .nil, by rw [Site.afterReads_nil hcell]; rfl⟩
  | cons pm rest ih =>
    obtain ⟨hfresh, hrest⟩ := List.nodup_cons.1 hnames
    have hfresh : pm.name ∉ rest.map fun pm => pm.name := hfresh
    have hread : Op.cell p.handle s = (.ok cell, s) := by rw [cell_apply, hcell]
    rw [forM_cons, bind_assoc, bind_of_ok hread]
    cases hloaded : cell.loaded.contains pm.name with
    | true =>
      rw [List.filter_cons_of_neg (by rw [hloaded]; decide)]
      simp only [Bool.not_true, Bool.false_eq_true, if_false, pure_bind]
      exact ih hrest hcell
    | false =>
      rw [List.filter_cons_of_pos (by rw [hloaded]; decide)]
      simp only [Bool.not_false, if_true]
      have hmissing : pm.name ∉ cell.loaded := by simpa using hloaded
      rcases fetch_cases hcell hmissing rfl fun rows t ht => take_apply ht rows with
        ⟨r, rows, entity, hr, hrows, hfill, hrun⟩ | ⟨requests, stop, session, hfails, hrun⟩
      · rw [← readMissing_apply] at hrun
        rw [bind_of_ok hrun]
        obtain ⟨answer, requests, session, cell', hattempt, hrun'⟩ :=
          ih hrest (Site.cell?_afterReads hcell [r] (Session.execute s.session r.statement).2
            { cell with entity, loaded := cell.loaded ++ [pm.name] })
        rw [Site.afterReads_afterReads] at hrun'
        rw [filter_missing_append hfresh] at hattempt
        exact ⟨answer, r :: requests, session, cell', hattempt.cons hr hrows hfill, hrun'⟩
      · rw [← readMissing_apply] at hrun
        rw [bind_of_error hrun]
        exact ⟨_, requests, session, cell, .of_fails hfails, rfl⟩

/-- Completing a proxy reads what is missing. -/
theorem complete_eq_forUnloaded (c : Call E) (p : Proxy) : (c.complete p : Op σ E Unit) =
    forUnloaded p (c.entityMeta.onDemand ++ c.entityMeta.counters) (c.readMissing p) := by
  have lazily : forUnloaded p c.entityMeta.onDemand (c.readMissing p) =
      (forUnloaded p c.entityMeta.onDemand (c.readProperty p) : Op σ E Unit) :=
    forM_congr fun pm hpm => by
      have hcounter : pm.isCounter = false := EntityMeta.isCounter_of_mem_onDemand hpm
      unfold readMissing
      rw [hcounter]
      rfl
  have counting : forUnloaded p c.entityMeta.counters (c.readMissing p) =
      (forUnloaded p c.entityMeta.counters (c.readCounter p) : Op σ E Unit) :=
    forM_congr fun pm hpm => by
      have hcounter : pm.isCounter = true := (List.mem_filter.1 hpm).2
      unfold readMissing
      rw [hcounter]
      rfl
  unfold complete
  rw [← lazily, ← counting]
  exact (forM_append _ _ _).symm

/-- What completing a proxy does. -/
theorem complete_apply (hnames : DistinctNames (c.entityMeta.onDemand ++ c.entityMeta.counters))
    (hcell : s.workspace.cell? p.handle = some cell) : ∃ answer requests session cell',
      c.Attempt s.registry p.key s.session cell (c.entityMeta.missing cell.loaded) answer requests
        session cell' ∧
      c.complete p s = (answer, s.afterReads p.handle requests session cell') := by
  rw [complete_eq_forUnloaded]
  exact attempt_forUnloaded hnames hcell

end Call

end WideColumn
