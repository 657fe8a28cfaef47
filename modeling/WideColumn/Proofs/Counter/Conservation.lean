import WideColumn.Proofs.Update.Immediate

/-!
# What becomes of queued deltas

An update takes all queued deltas off their cells before it sends the first of them. So when one of
them cannot be sent, it and those after it are on no cell and in no statement any more. Along a run
of counter changes and updates, what was queued is what was accepted, what is still queued, and what
was lost in this way. Main statement: `counter_contract`.
-/

namespace WideColumn

open Op

variable {σ E : Type}

/-- The sum of the deltas of the counter of a name. -/
def deltaSum (name : String) (deltas : List (PropertyMeta × Int)) : Int :=
  Counter.total (deltas.map fun x => if x.1.name = name then x.2 else 0)

@[simp] theorem deltaSum_nil (name : String) : deltaSum name [] = 0 := rfl

theorem deltaSum_append (name : String) (deltas more : List (PropertyMeta × Int)) :
    deltaSum name (deltas ++ more) = deltaSum name deltas + deltaSum name more := by
  unfold deltaSum
  rw [List.map_append, Counter.total_append]

/-- The sum of what statements do to the counter of a name, of the row of a key. -/
def acceptedSum (em : EntityMeta) (key : List Value) (name : String)
    (statements : List Statement) : Int :=
  Counter.total (statements.map fun statement => statement.content.deltaOf em key name)

theorem acceptedSum_append (em : EntityMeta) (key : List Value) (name : String)
    (statements more : List Statement) :
    acceptedSum em key name (statements ++ more) =
      acceptedSum em key name statements + acceptedSum em key name more := by
  unfold acceptedSum
  rw [List.map_append, Counter.total_append]

/-- The sum of the deltas that are queued on a cell. -/
def EntityType.pendingSum (T : EntityType E) (entity : E) (name : String) : Int :=
  Counter.total (T.pending entity name)

/-! ### Sums of deltas -/

theorem total_filter_ne_zero (deltas : List Int) :
    Counter.total (deltas.filter (· != 0)) = Counter.total deltas := by
  induction deltas with
  | nil => rfl
  | cons delta rest ih =>
    by_cases hzero : delta = 0
    · simp [hzero, ih]
    · simp [hzero, ih]

theorem deltaSum_map (pm : PropertyMeta) (name : String) (deltas : List Int) :
    deltaSum name (deltas.map fun delta => (pm, delta)) =
      if pm.name = name then Counter.total deltas else 0 := by
  unfold deltaSum
  by_cases hname : pm.name = name
  · simp [hname, Function.comp_def]
  · induction deltas with
    | nil => simp
    | cons delta rest ih => simpa [hname] using ih

/-- What is queued for a counter is what its cell holds. -/
theorem deltaSum_queued {T : EntityType E} {properties : List PropertyMeta}
    (hnames : DistinctNames properties) (entity : E) {pm : PropertyMeta} (hpm : pm ∈ properties) :
    deltaSum pm.name (Call.queued T properties entity) = T.pendingSum entity pm.name := by
  have hnone (others : List PropertyMeta) (h : ∀ other ∈ others, other.name ≠ pm.name) :
      deltaSum pm.name (Call.queued T others entity) = 0 := by
    induction others with
    | nil => rfl
    | cons other rest ih =>
      have hother := h other List.mem_cons_self
      have hrest := ih fun x hx => h x (List.mem_cons_of_mem _ hx)
      unfold Call.queued at hrest ⊢
      rw [List.flatMap_cons, deltaSum_append, deltaSum_map, if_neg hother, hrest]
      omega
  induction properties with
  | nil => cases hpm
  | cons first rest ih =>
    obtain ⟨hfresh, hrest⟩ := List.nodup_cons.1 hnames
    have hsplit : deltaSum pm.name (Call.queued T (first :: rest) entity) =
        (if first.name = pm.name then T.pendingSum entity first.name else 0) +
          deltaSum pm.name (Call.queued T rest entity) := by
      unfold Call.queued
      rw [List.flatMap_cons, deltaSum_append, deltaSum_map, total_filter_ne_zero]
      rfl
    rw [hsplit]
    rcases List.mem_cons.1 hpm with rfl | hmem
    · have hothers : ∀ other ∈ rest, other.name ≠ pm.name := by
        intro other hother heq
        exact hfresh (List.mem_map.2 ⟨other, hother, heq⟩)
      rw [if_pos rfl, hnone rest hothers]
      omega
    · have hne : first.name ≠ pm.name := by
        intro heq
        exact hfresh (List.mem_map.2 ⟨pm, hmem, heq.symm⟩)
      rw [if_neg hne, ih hrest hmem]
      omega

/-- The statements of deltas do what the deltas say. -/
theorem acceptedSum_of_deltaContents {c : Call E} {key : List Value} (name : String)
    {deltas : List (PropertyMeta × Int)} {statements : List Statement}
    (h : c.deltaContents key deltas = .ok (statements.map Statement.content))
    (hrange : ∀ x ∈ deltas, MagnitudeFits x.2) :
    acceptedSum c.entityMeta key name statements = deltaSum name deltas := by
  induction deltas generalizing statements with
  | nil =>
    have hnil : statements = [] := List.map_eq_nil_iff.1 (Except.ok.inj h).symm
    rw [hnil]
    rfl
  | cons x rest ih =>
    unfold Call.deltaContents at h
    rw [List.mapM_cons] at h
    obtain ⟨content, hcontent, h⟩ := except_bind_eq_ok h
    obtain ⟨contents, hcontents, h⟩ := except_bind_eq_ok h
    obtain ⟨encoded, hencoded, hcontent⟩ := except_bind_eq_ok hcontent
    cases statements with
    | nil => cases h
    | cons statement others =>
      obtain ⟨hfirst, hothers⟩ := List.cons.inj (Except.ok.inj h)
      rw [hothers] at hcontents
      have hrest := ih hcontents fun y hy => hrange y (List.mem_cons_of_mem _ hy)
      have hdelta : statement.content.deltaOf c.entityMeta key name =
          if x.1.name = name then x.2 else 0 := by
        rw [← hfirst, ← Except.ok.inj hcontent]
        exact deltaOf_deltaContent hencoded x.1 name (hrange x List.mem_cons_self)
      unfold acceptedSum deltaSum at hrest ⊢
      rw [List.map_cons, Counter.total_cons, hdelta, hrest, List.map_cons, Counter.total_cons]

/-- The update of a row starts with its time to live, so it does nothing to counters. -/
theorem deltaOf_rowContent {c : Call E} {entity : E} {properties : List PropertyMeta}
    {content : Content} (em : EntityMeta) (target : List Value) (name : String)
    (h : c.rowContent entity properties = .ok content) : content.deltaOf em target name = 0 := by
  obtain ⟨values, hvalues, h⟩ := except_bind_eq_ok h
  obtain ⟨attributes, -, hvalues⟩ := except_bind_eq_ok hvalues
  obtain ⟨key, -, hvalues⟩ := except_bind_eq_ok hvalues
  rw [← Except.ok.inj h, ← Except.ok.inj hvalues]
  rfl

/-- The update of a row changes no counter. -/
theorem acceptedSum_of_rowContents {c : Call E} {entity : E} {dirty : DirtySet} (key : List Value)
    (name : String) {statements : List Statement}
    (h : c.rowContents entity dirty = .ok (statements.map Statement.content)) :
    acceptedSum c.entityMeta key name statements = 0 := by
  unfold Call.rowContents at h
  split at h
  · have hnil : statements = [] := List.map_eq_nil_iff.1 (Except.ok.inj h).symm
    rw [hnil]
    rfl
  · cases hrow : c.rowContent entity dirty.properties with
    | error e =>
      rw [hrow] at h
      cases h
    | ok content =>
      rw [hrow] at h
      have hcontents : statements.map Statement.content = [content] := (Except.ok.inj h).symm
      have hsum : acceptedSum c.entityMeta key name statements =
          Counter.total ((statements.map Statement.content).map fun x =>
            x.deltaOf c.entityMeta key name) := by
        unfold acceptedSum
        rw [List.map_map]
        rfl
      rw [hsum, hcontents, List.map_singleton, deltaOf_rowContent _ _ _ hrow]
      rfl

/-! ### Calls -/

/-- What a program does with the counters of a proxy. -/
inductive CounterCall where
  | incr (property : String) (delta : Int)
  | decr (property : String) (delta : Int)
  | update (options : Options)

variable [Session σ]

/-- The deltas that an update takes off a cell without sending them: when the row is written, those
from the first one on that cannot be sent. -/
def Call.lostBy (c : Call E) (p : Proxy) (s : Site σ E) : List (PropertyMeta × Int) :=
  match c.updateRow p s with
  | (.error _, _) => []
  | (.ok _, t) =>
    match t.workspace.cell? p.handle with
    | some cell => c.lost p cell t
    | none => []

theorem Call.lostBy_of_error {c : Call E} {p : Proxy} {s t : Site σ E} {e : Stop}
    (h : c.updateRow p s = (.error e, t)) : c.lostBy p s = [] := by
  unfold lostBy
  rw [h]

theorem Call.lostBy_of_ok {c : Call E} {p : Proxy} {s t : Site σ E} {cell : Cell E}
    (h : c.updateRow p s = (.ok (), t)) (hc : t.workspace.cell? p.handle = some cell) :
    c.lostBy p s = c.lost p cell t := by
  unfold lostBy
  rw [h]
  dsimp only
  rw [hc]

namespace CounterCall

variable (T : EntityType E) (em : EntityMeta) (p : Proxy)

/-- The site after a call. -/
def run (s : Site σ E) : CounterCall → Site σ E
  | incr property delta => s.editCounter T p property fun counter => counter.incrBy delta
  | decr property delta => s.editCounter T p property fun counter => counter.decrBy delta
  | update options => (Manager.update T p options s).2

/-- What a call queues on the counter of a name, unless it is refused. -/
def queued (s : Site σ E) (name : String) : CounterCall → Int
  | incr property delta =>
    if property = name && (p.openCounter T s.workspace property).isOk then delta else 0
  | decr property delta =>
    if property = name && (p.openCounter T s.workspace property).isOk then -delta else 0
  | update _ => 0

/-- What a call loses of the counter of a name. -/
def lost (s : Site σ E) (name : String) : CounterCall → Int
  | update options =>
    deltaSum name ((Manager.callOf T em options).lostBy p (Manager.atOnce s))
  | _ => 0

/-- The site after calls. -/
def runAll (s : Site σ E) (calls : List CounterCall) : Site σ E := calls.foldl (run T p) s

/-- What calls add up to, each on the site after those before it. -/
def total (f : Site σ E → CounterCall → Int) : Site σ E → List CounterCall → Int
  | _, [] => 0
  | s, call :: rest => f s call + total f (call.run T p s) rest

end CounterCall

/-! ### Accounts -/

/-- The accounts of a run: what was queued on a counter before and during it is what was accepted,
what is queued afterwards, and what was lost. -/
structure Accounts (T : EntityType E) (em : EntityMeta) (p : Proxy) (s t : Site σ E)
    (cell cell' : Cell E) (acts : List Act) (queued lost : String → Int) : Prop where
  ready : Manager.Ready T em p cell' t
  trace : t.trace = s.trace ++ acts
  session : t.session = replay s.session acts
  sums {pm : PropertyMeta} : pm ∈ em.counters →
    T.pendingSum cell.entity pm.name + queued pm.name =
      acceptedSum em p.key pm.name (acceptedIn s.session acts) + T.pendingSum cell'.entity pm.name +
        lost pm.name

theorem Accounts.trans {T : EntityType E} {em : EntityMeta} {p : Proxy} {s t u : Site σ E}
    {cell cell₁ cell₂ : Cell E} {acts more : List Act} {queued lost queued' lost' : String → Int}
    (hst : Accounts T em p s t cell cell₁ acts queued lost)
    (htu : Accounts T em p t u cell₁ cell₂ more queued' lost') :
    Accounts T em p s u cell cell₂ (acts ++ more) (fun name => queued name + queued' name)
      fun name => lost name + lost' name where
  ready := htu.ready
  trace := by rw [htu.trace, hst.trace, List.append_assoc]
  session := by rw [htu.session, hst.session, replay_append]
  sums {pm} hpm := by
    have hfirst := hst.sums hpm
    have hsecond := htu.sums hpm
    rw [acceptedIn_append, acceptedSum_append, ← hst.session]
    omega

variable {T : EntityType E} {em : EntityMeta} {p : Proxy} {cell : Cell E} {s : Site σ E}

omit [Session σ] in
/-- A delta more on one cell is that much more on this cell, and nothing more on the others. -/
theorem pendingSum_setCounter (hT : T.LawfulCounters) {entity : E} {property : String}
    {counter counter' : Counter} {delta : Int}
    (hcounter : T.counter? entity property = some counter)
    (hchange : counter'.pending = counter.pending ++ [delta]) (name : String) :
    T.pendingSum (T.setCounter (T.setCounter entity property .empty) property counter') name =
      T.pendingSum entity name + if property = name then delta else 0 := by
  unfold EntityType.pendingSum EntityType.pending
  by_cases hname : property = name
  · subst hname
    rw [hT.counter?_setCounter (hT.counter?_setCounter hcounter), hcounter, if_pos rfl]
    simp [hchange]
  · rw [hT.counter?_setCounter_of_ne _ hname, hT.counter?_setCounter_of_ne _ hname, if_neg hname]
    omega

/-- A change of a counter cell that queues a delta. -/
theorem Manager.Ready.editCounter (h : Manager.Ready T em p cell s) (property : String)
    (change : Counter → Counter) (delta : Int)
    (hchange : ∀ counter, (change counter).pending = counter.pending ++ [delta]) :
    ∃ cell', Accounts T em p s (s.editCounter T p property change) cell cell' []
      (fun name =>
        if property = name && (p.openCounter T s.workspace property).isOk then delta else 0)
      fun _ => 0 := by
  unfold Site.editCounter
  rcases hopen : p.openCounter T s.workspace property with e | ⟨counter, workspace⟩
  · refine ⟨cell, h, by simp, rfl, fun {pm} hpm => ?_⟩
    simp [Except.isOk, Except.toBool, acceptedIn, acceptedSum]
  · obtain ⟨pm, found, -, -, hfound, hcounter, rfl⟩ := Proxy.openCounter_eq_ok hopen
    obtain rfl : cell = found := Option.some.inj (h.cell.symm.trans hfound)
    have hcell := Workspace.cell?_modify_self (Workspace.cell?_modify_self h.cell fun c =>
      { c with entity := T.setCounter c.entity property .empty }) fun c =>
        { c with entity := T.setCounter c.entity property (change counter) }
    refine ⟨_, ⟨h.sound.edit (.counter hopen), h.sole, h.lookup, h.lawful, h.keeps, hcell⟩,
      by simp, rfl, fun {pm} hpm => ?_⟩
    dsimp only
    rw [pendingSum_setCounter h.lawful hcounter (hchange counter)]
    by_cases hname : property = pm.name
    · simp [hname, acceptedIn, acceptedSum, Except.isOk, Except.toBool]
    · simp [hname, acceptedIn, acceptedSum]

variable [LawfulSession σ]

/-- An update: what was queued is accepted or lost, unless the row is not written. -/
theorem Manager.Ready.update_accounts (h : Manager.Ready T em p cell s) (options : Options) :
    ∃ cell' acts, Accounts T em p s (Manager.update T p options s).2 cell cell' acts (fun _ => 0)
      fun name => deltaSum name ((callOf T em options).lostBy p (atOnce s)) := by
  have happly := update_apply h.lookup p options
  rcases h.update_cases options with
    ⟨e, t, acts, hrow, hrun, hfailed⟩ | ⟨t, acts, cell', sent, more, hrow, -, hwritten, hrest⟩
  · have hlost := Call.lostBy_of_error hrow
    have hready := h.update options hfailed.steps (by rw [hrun])
    refine ⟨_, acts, hready, ?_, ?_, fun {pm} _ => ?_⟩
    · rw [happly, hrun]
      exact hfailed.steps.trace
    · rw [happly, hrun]
      exact hfailed.steps.session
    · have haccepted : acceptedIn s.session acts = [] := hfailed.accepted
      have hpending : T.pendingSum (cell.intercepted T .preUpdate).entity pm.name =
          T.pendingSum cell.entity pm.name := by
        unfold EntityType.pendingSum
        rw [Call.pending_intercepted h.keeps]
      rw [hlost, haccepted, hpending]
      simp [acceptedSum]
  · have hlost := Call.lostBy_of_ok hrow hwritten.steps.cell
    have hsteps := hwritten.steps.trans hrest.steps
    have hready := h.update options hsteps rfl
    refine ⟨_, acts ++ more, hready, ?_, ?_, fun {pm} hpm => ?_⟩
    · rw [happly]
      exact hsteps.trace
    · rw [happly]
      exact hsteps.session
    · have hbuilt := h.sound.built (mem_of_lookup h.lookup)
      have hdue := deltaSum_queued (T := T) hbuilt.distinctNames_counters cell.entity hpm
      have hsplit : deltaSum pm.name ((callOf T em options).due (cell.intercepted T .preUpdate)) =
          deltaSum pm.name (sent ++ (callOf T em options).lostBy p (atOnce s)) := by
        rw [hlost]
        exact congrArg (deltaSum pm.name) hrest.split
      have hrow : acceptedSum em p.key pm.name (acceptedIn s.session acts) = 0 := by
        rw [show acceptedIn s.session acts = executedIn acts from hwritten.accepted]
        exact acceptedSum_of_rowContents (c := callOf T em options) p.key pm.name hwritten.contents
      have hsent : acceptedSum em p.key pm.name (acceptedIn t.session more) =
          deltaSum pm.name sent :=
        acceptedSum_of_deltaContents (c := callOf T em options) pm.name hrest.accepted hrest.range
      have hdone : T.pendingSum cell'.entity pm.name = 0 := by
        unfold EntityType.pendingSum
        rw [show T.pending cell'.entity pm.name = [] from hrest.settled pm hpm]
        rfl
      have hsession : replay s.session acts = t.session := hwritten.steps.session.symm
      rw [h.due_eq options, deltaSum_append, hdue] at hsplit
      rw [acceptedIn_append, acceptedSum_append, hsession, hrow, hsent, hdone]
      omega

/-- Every call keeps the accounts. -/
theorem Manager.Ready.run_accounts (h : Manager.Ready T em p cell s) (call : CounterCall) :
    ∃ cell' acts, Accounts T em p s (call.run T p s) cell cell' acts (call.queued T p s)
      (call.lost T em p s) := by
  cases call with
  | incr property delta =>
    have ⟨cell', haccounts⟩ :=
      h.editCounter property (fun counter => counter.incrBy delta) delta fun _ => rfl
    exact ⟨cell', [], haccounts⟩
  | decr property delta =>
    have ⟨cell', haccounts⟩ :=
      h.editCounter property (fun counter => counter.decrBy delta) (-delta) fun _ => rfl
    exact ⟨cell', [], haccounts⟩
  | update options => exact h.update_accounts options

theorem Manager.Ready.runAll_accounts (h : Manager.Ready T em p cell s) (calls : List CounterCall) :
    ∃ cell' acts, Accounts T em p s (CounterCall.runAll T p s calls) cell cell' acts
      (fun name => CounterCall.total T p (fun s call => call.queued T p s name) s calls)
      fun name => CounterCall.total T p (fun s call => call.lost T em p s name) s calls := by
  induction calls generalizing s cell with
  | nil =>
    refine ⟨cell, [], h, by simp [CounterCall.runAll], rfl, fun {pm} _ => ?_⟩
    simp [CounterCall.total, acceptedIn, acceptedSum]
  | cons call rest ih =>
    obtain ⟨cell₁, acts, hfirst⟩ := h.run_accounts call
    obtain ⟨cell₂, more, hrest⟩ := ih hfirst.ready
    exact ⟨cell₂, acts ++ more, hfirst.trans hrest⟩

/-! ### Conservation -/

namespace CounterCall

variable (T : EntityType E) (em : EntityMeta) (p : Proxy) (s : Site σ E)

/-- What the session accepted for a counter during calls. -/
def accepted (name : String) (calls : List CounterCall) : Int :=
  acceptedSum em p.key name
    (acceptedIn s.session ((runAll T p s calls).trace.drop s.trace.length))

/-- What calls queue on a counter. -/
def queuedBy (name : String) (calls : List CounterCall) : Int :=
  total T p (fun s call => call.queued T p s name) s calls

/-- What calls lose of a counter. -/
def lostBy (name : String) (calls : List CounterCall) : Int :=
  total T p (fun s call => call.lost T em p s name) s calls

/-- An update succeeds, or does not write the row. -/
def Settles : CounterCall → Prop
  | update options => (Manager.update T p options s).1 = .ok () ∨
    ∃ e, ((Manager.callOf T em options).updateRow p (Manager.atOnce s)).1 = .error e
  | _ => True

/-- Each of the calls settles. -/
def AllSettle : Site σ E → List CounterCall → Prop
  | _, [] => True
  | s, call :: rest => call.Settles T em p s ∧ AllSettle (call.run T p s) rest

end CounterCall

/-- What becomes of the deltas of a counter. -/
structure CounterContract (T : EntityType E) (em : EntityMeta) (p : Proxy) (s : Site σ E)
    (cell cell' : Cell E) (calls : List CounterCall) (name : String) : Prop where
  /-- What was queued is what was accepted, what is still queued, and what was lost. -/
  accounts : T.pendingSum cell.entity name + CounterCall.queuedBy T p s name calls =
    CounterCall.accepted T em p s name calls + T.pendingSum cell'.entity name +
      CounterCall.lostBy T em p s name calls
  /-- Deltas are conserved exactly when nothing is lost. -/
  conserved_iff : T.pendingSum cell.entity name + CounterCall.queuedBy T p s name calls =
      CounterCall.accepted T em p s name calls + T.pendingSum cell'.entity name ↔
    CounterCall.lostBy T em p s name calls = 0
  /-- Nothing is lost when every update succeeds or fails before the row is written. -/
  settled : CounterCall.AllSettle T em p s calls → CounterCall.lostBy T em p s name calls = 0

theorem Manager.Ready.lost_of_settles (h : Manager.Ready T em p cell s) {call : CounterCall}
    (hsettles : call.Settles T em p s) (name : String) : call.lost T em p s name = 0 := by
  cases call with
  | incr property delta => rfl
  | decr property delta => rfl
  | update options =>
    show deltaSum name ((callOf T em options).lostBy p (atOnce s)) = 0
    rcases h.update_cases options with
      ⟨e, t, acts, hrow, -, -⟩ | ⟨t, acts, cell', sent, more, hrow, -, hwritten, hrest⟩
    · rw [Call.lostBy_of_error hrow, deltaSum_nil]
    · rcases hsettles with hok | ⟨e, he⟩
      · rw [update_apply h.lookup] at hok
        rw [Call.lostBy_of_ok hrow hwritten.steps.cell, hrest.isOk hok, deltaSum_nil]
      · rw [hrow] at he
        cases he

theorem Manager.Ready.lostBy_of_allSettle (h : Manager.Ready T em p cell s)
    (calls : List CounterCall) (hsettle : CounterCall.AllSettle T em p s calls) (name : String) :
    CounterCall.lostBy T em p s name calls = 0 := by
  induction calls generalizing s cell with
  | nil => rfl
  | cons call rest ih =>
    have ⟨cell', acts, haccounts⟩ := h.run_accounts call
    have hfirst := h.lost_of_settles hsettle.1 name
    have hrest := ih haccounts.ready hsettle.2
    unfold CounterCall.lostBy at hrest ⊢
    unfold CounterCall.total
    omega

/-- Along every run of counter changes and updates of a managed entity, whatever the session
answers, the deltas of each counter are accounted for; they are conserved exactly when no update
loses any. -/
theorem counter_contract {b : Batching σ E} (hb : Reachable b)
    {T : EntityType E} {em : EntityMeta} (hsole : SoleClass b.site.types em)
    (hem : b.site.types.lookup T.typeName = some em) (hT : T.LawfulCounters)
    (hkeeps : T.KeepsCounters) (p : Proxy) {cell : Cell E}
    (hc : b.site.workspace.cell? p.handle = some cell) (calls : List CounterCall) :
    ∃ cell', (CounterCall.runAll T p b.site calls).workspace.cell? p.handle = some cell' ∧
      ∀ pm ∈ em.counters, CounterContract T em p b.site cell cell' calls pm.name := by
  have hready : Manager.Ready T em p cell b.site := ⟨hb.sound, hsole, hem, hT, hkeeps, hc⟩
  have ⟨cell', acts, haccounts⟩ := hready.runAll_accounts calls
  refine ⟨cell', haccounts.ready.cell, fun pm hpm => ?_⟩
  have hacts : (CounterCall.runAll T p b.site calls).trace.drop b.site.trace.length = acts := by
    rw [haccounts.trace, List.drop_left]
  have hsums : T.pendingSum cell.entity pm.name + CounterCall.queuedBy T p b.site pm.name calls =
      CounterCall.accepted T em p b.site pm.name calls + T.pendingSum cell'.entity pm.name +
        CounterCall.lostBy T em p b.site pm.name calls := by
    unfold CounterCall.accepted
    rw [hacts]
    exact haccounts.sums hpm
  constructor
  case accounts => exact hsums
  case conserved_iff => omega
  case settled =>
    intro hsettle
    exact hready.lostBy_of_allSettle calls hsettle pm.name

/-! ### Pages -/

namespace Page

/-- A page over a session that refuses the first counter statement. -/
def strained : Batching Script Page :=
  opened (manager (Script.empty.addFailure ⟨.execute, Template.counterTable, .failed .timeout⟩)
    [plain]) plain first

theorem reachable_strained : Reachable strained :=
  reachable_opened (reachable_manager_type _ _ _ _) plain first

/-- A visit, an update that fails, and another try. -/
def retried : List CounterCall := [.incr "hits" 5, .update .none, .update .none]

theorem isSome_strained : (strained.site.workspace.cell? first.handle).isSome = true := by
  decide +kernel

/-- The visit is lost. -/
theorem counter_contract_strained :
    (∃ cell', CounterContract plain (entityMeta "pages") first strained.site
      (Option.get _ isSome_strained) cell' retried "hits") ∧
    CounterCall.lostBy plain (entityMeta "pages") first strained.site "hits" retried = 5 := by
  have hsole : SoleClass strained.site.types (entityMeta "pages") := by
    unfold SoleClass
    decide +kernel
  obtain ⟨cell', -, hcontract⟩ := counter_contract (T := plain)
    reachable_strained hsole (by decide +kernel)
    (lawfulCounters_type _ _ _) (keepsCounters_type _ _ _ nofun) first
    (Option.some_get isSome_strained).symm retried
  exact ⟨⟨cell', hcontract hitsMeta (by decide +kernel)⟩, by decide +kernel⟩

theorem isSome_retried :
    ((CounterCall.runAll plain first strained.site retried).workspace.cell? first.handle).isSome =
      true := by
  decide +kernel

/-- An update that fails after the row was written cannot be tried again without loss. -/
theorem not_conserved_of_refused :
    ¬ ∀ (b : Batching Script Page) (T : EntityType Page) (em : EntityMeta) (p : Proxy)
      (cell cell' : Cell Page) (calls : List CounterCall), Reachable b →
      SoleClass b.site.types em → b.site.types.lookup T.typeName = some em →
      T.LawfulCounters → T.KeepsCounters → b.site.workspace.cell? p.handle = some cell →
      (CounterCall.runAll T p b.site calls).workspace.cell? p.handle = some cell' →
      ∀ pm ∈ em.counters, T.pendingSum cell.entity pm.name +
          CounterCall.queuedBy T p b.site pm.name calls =
        CounterCall.accepted T em p b.site pm.name calls + T.pendingSum cell'.entity pm.name := by
  intro h
  have hconserved := h strained plain (entityMeta "pages") first _ _ retried reachable_strained
    (by unfold SoleClass; decide +kernel) (by decide +kernel) (lawfulCounters_type _ _ _)
    (keepsCounters_type _ _ _ nofun) (Option.some_get isSome_strained).symm
    (Option.some_get isSome_retried).symm hitsMeta (by decide +kernel)
  revert hconserved
  decide +kernel

end Page

end WideColumn
