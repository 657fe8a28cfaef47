import WideColumn.Proofs.Counter.Drain
import WideColumn.Proofs.Edit.Tracking
import WideColumn.Proofs.Missing.Changed
import WideColumn.Proofs.Missing.Reads

/-!
# Completing a proxy

To complete a proxy only fills in what is missing, and can be resumed. What changed on the proxy is
loaded, so it is never read over; queued deltas stay in their counters. If a read fails, what was
read before it is loaded, and the next call reads the rest. Main statement:
`Reachable.complete_contract`.
-/

namespace WideColumn

open Op

variable {σ E : Type}

/-! ### What is missing -/

/-- What is read on demand and the counters have names of their own. -/
theorem EntityMeta.Built.distinctNames_missing {em : EntityMeta} (h : em.Built) :
    DistinctNames (em.onDemand ++ em.counters) := by
  unfold DistinctNames
  rw [List.map_append, List.nodup_append']
  refine ⟨?_, h.distinctNames_counters, fun name hlazy hcounter => ?_⟩
  · exact h.rules.names.sublist ((List.filter_sublist.trans List.filter_sublist).map _)
  · obtain ⟨pm, hpm, rfl⟩ := List.mem_map.1 hlazy
    obtain ⟨other, hother, hname⟩ := List.mem_map.1 hcounter
    obtain rfl := List.inj_on_of_nodup_map h.rules.names
      (EntityMeta.besides_id (List.mem_append_right _ hother)).1
      (EntityMeta.besides_id (List.mem_append_left _ hpm)).1 hname
    have htrue : other.isCounter = true := (List.mem_filter.1 hother).2
    rw [EntityMeta.isCounter_of_mem_onDemand hpm] at htrue
    cases htrue

/-- What was read from the front is not missing any more, and the rest is. -/
theorem EntityMeta.missing_append {em : EntityMeta}
    (hnames : DistinctNames (em.onDemand ++ em.counters)) {loaded : List String}
    {read rest : List PropertyMeta} (hsplit : em.missing loaded = read ++ rest) :
    em.missing (loaded ++ read.map fun pm => pm.name) = rest := by
  have hfilter : em.missing (loaded ++ read.map fun pm => pm.name) =
      (em.missing loaded).filter fun pm => !(read.map fun pm => pm.name).contains pm.name := by
    unfold missing
    rw [List.filter_filter]
    refine List.filter_congr fun pm _ => ?_
    simp [Bool.and_comm]
  have hdistinct : DistinctNames (read ++ rest) := by
    rw [← hsplit]
    exact hnames.sublist (List.filter_sublist.map _)
  unfold DistinctNames at hdistinct
  rw [List.map_append, List.nodup_append'] at hdistinct
  obtain ⟨-, -, hdisjoint⟩ := hdistinct
  rw [hfilter, hsplit, List.filter_append, List.filter_eq_nil_iff.2, List.filter_eq_self.2,
    List.nil_append]
  · intro pm hpm
    have hother : pm.name ∉ read.map fun pm => pm.name := fun hmem =>
      hdisjoint hmem (List.mem_map_of_mem hpm)
    simpa using hother
  · intro pm hpm
    simpa using ⟨pm, hpm, rfl⟩

theorem EntityMeta.not_mem_of_missing {em : EntityMeta} {loaded : List String} {pm : PropertyMeta}
    (hpm : pm ∈ em.missing loaded) : pm.name ∉ loaded := by
  simpa using (List.mem_filter.1 hpm).2

theorem EntityMeta.mem_of_missing_eq_nil {em : EntityMeta} {loaded : List String}
    (h : em.missing loaded = []) {pm : PropertyMeta} (hpm : pm ∈ em.onDemand ++ em.counters) :
    pm.name ∈ loaded := by
  simpa using List.filter_eq_nil_iff.1 h pm hpm

/-! ### What is asked of a class -/

/-- The attributes and the counters of a class are apart: writing one leaves the others alone. -/
structure EntityType.KeepsApart (T : EntityType E) : Prop extends T.Faithful, T.LawfulCounters where
  counter?_write {entity entity' : E} {name other : String} {v : Value} :
    T.write entity name v = .ok entity' → other ≠ name →
      T.counter? entity' other = T.counter? entity other

namespace Call

variable {T : EntityType E} (hT : T.KeepsApart)
include hT

theorem value?_setCounterLoaded {name other : String} (hne : other ≠ name) (value : Option Int)
    (entity : E) :
    T.value? (setCounterLoaded T name value entity) other = T.value? entity other := by
  unfold setCounterLoaded
  split
  · exact (hT.setCounter _ _ _).value? hne
  · rfl

/-- What was read for a counter leaves the queued deltas alone. -/
theorem pending_setCounterLoaded (name other : String) (value : Option Int) (entity : E) :
    T.pending (setCounterLoaded T name value entity) other = T.pending entity other := by
  unfold setCounterLoaded EntityType.pending
  cases hcounter : T.counter? entity name with
  | none => rfl
  | some counter =>
    by_cases hne : name = other
    · subst hne
      rw [hT.counter?_setCounter hcounter, hcounter]
      rfl
    · rw [hT.counter?_setCounter_of_ne _ hne]

variable {c : Call E} {pm : PropertyMeta} {rows : List Row} {entity entity' : E}
  (hc : c.type = T) (hfill : c.fill pm rows entity = .ok entity')
include hc hfill

/-- What was read for one property leaves the values of all others alone. -/
theorem value?_of_fill {name : String} (hne : name ≠ pm.name) :
    T.value? entity' name = T.value? entity name := by
  subst hc
  unfold fill at hfill
  split at hfill
  · rw [← Except.ok.inj hfill]
    exact value?_setCounterLoaded hT hne _ entity
  · obtain ⟨value, -, hwrite⟩ := except_bind_eq_ok hfill
    exact (hT.write hwrite).value? hne

/-- What was read leaves the queued deltas alone. -/
theorem pending_of_fill {name : String} (hne : pm.isCounter = false → name ≠ pm.name) :
    T.pending entity' name = T.pending entity name := by
  subst hc
  unfold fill at hfill
  split at hfill
  · rw [← Except.ok.inj hfill]
    exact pending_setCounterLoaded hT _ name _ entity
  · next hcounter =>
    obtain ⟨value, -, hwrite⟩ := except_bind_eq_ok hfill
    unfold EntityType.pending
    rw [hT.counter?_write hwrite (hne (by simpa using hcounter))]

end Call

/-! ### What reads leave alone -/

namespace Call

variable [Session σ] {c : Call E} {r : Registry} {key : List Value} {session session' : σ}
  {cell cell' : Cell E} {read : List PropertyMeta} {requests : List Request}

/-- What was read counts as loaded; the record of changes and the options stay. -/
theorem Fills.records (h : c.Fills r key session cell read requests session' cell') :
    cell'.loaded = (cell.loaded ++ read.map fun pm => pm.name) ∧ cell'.dirty = cell.dirty ∧
      cell'.options = cell.options := by
  induction h with
  | nil => simp
  | cons _ _ _ _ ih =>
    obtain ⟨hloaded, hdirty, hoptions⟩ := ih
    exact ⟨by simp [hloaded], hdirty, hoptions⟩

/-- One request is executed for each property. -/
theorem Fills.bound {Q : PropertyMeta → Request → Prop}
    (h : c.Fills r key session cell read requests session' cell')
    (hQ : ∀ pm ∈ read, ∀ request, c.missingRequest r key pm = .ok request → Q pm request) :
    List.Forall₂ Q read requests := by
  induction h with
  | nil => exact .nil
  | cons hrequest _ _ _ ih =>
    exact .cons (hQ _ List.mem_cons_self _ hrequest)
      (ih fun pm hpm => hQ pm (List.mem_cons_of_mem _ hpm))

theorem Fills.value? {T : EntityType E} (hT : T.KeepsApart) (hc : c.type = T)
    (h : c.Fills r key session cell read requests session' cell') {name : String}
    (hname : ∀ pm ∈ read, name ≠ pm.name) :
    T.value? cell'.entity name = T.value? cell.entity name := by
  induction h with
  | nil => rfl
  | cons _ _ hfill _ ih =>
    rw [ih fun pm hpm => hname pm (List.mem_cons_of_mem _ hpm)]
    exact value?_of_fill hT hc hfill (hname _ List.mem_cons_self)

theorem Fills.pending {T : EntityType E} (hT : T.KeepsApart) (hc : c.type = T)
    (h : c.Fills r key session cell read requests session' cell') {name : String}
    (hname : ∀ pm ∈ read, pm.isCounter = false → name ≠ pm.name) :
    T.pending cell'.entity name = T.pending cell.entity name := by
  induction h with
  | nil => rfl
  | cons _ _ hfill _ ih =>
    rw [ih fun pm hpm => hname pm (List.mem_cons_of_mem _ hpm)]
    exact pending_of_fill hT hc hfill (hname _ List.mem_cons_self)

variable {missing : List PropertyMeta}

/-- Reads that end well all succeeded. -/
theorem Attempt.fills_of_ok
    (h : c.Attempt r key session cell missing (.ok ()) requests session' cell') :
    c.Fills r key session cell missing requests session' cell' := by
  cases h with
  | done hfills => exact hfills

/-- However reads end, what they did to the cell is what those before a failure did. -/
theorem Attempt.fills {answer : Except Stop Unit}
    (h : c.Attempt r key session cell missing answer requests session' cell') :
    ∃ read rest asked between, missing = read ++ rest ∧
      c.Fills r key session cell read asked between cell' := by
  cases h with
  | done hfills => exact ⟨_, [], _, _, (List.append_nil _).symm, hfills⟩
  | stopped hfills _ => exact ⟨_, _, _, _, rfl, hfills⟩

theorem Attempt.fails_of_error {stop : Stop}
    (h : c.Attempt r key session cell missing (.error stop) requests session' cell') :
    ∃ read pm rest asked between more, missing = read ++ pm :: rest ∧
      c.Fills r key session cell read asked between cell' ∧
      c.Fails r key between cell'.entity pm more stop session' := by
  cases h with
  | stopped hfills hfails => exact ⟨_, _, _, _, _, _, rfl, hfills, hfails⟩

/-- The request that reads a property fetches it. -/
theorem fetches_of_missingRequest {types : List (String × EntityMeta)} (hr : r.Sound types)
    {pm : PropertyMeta} (hpm : pm ∈ c.entityMeta.onDemand ++ c.entityMeta.counters)
    {request : Request} (h : c.missingRequest r key pm = .ok request) (rows : List Row) :
    (Answer.mk request.statement rows).Fetches types c.type c.entityMeta key pm.name := by
  unfold missingRequest at h
  rcases List.mem_append.1 hpm with hlazy | hcounter
  · rw [EntityMeta.isCounter_of_mem_onDemand hlazy] at h
    exact Answer.fetches_of_bindSelectField hr hlazy h rows
  · rw [(List.mem_filter.1 hcounter).2] at h
    exact Answer.fetches_of_readCounterRequest hr hcounter h rows

end Call

/-! ### The contract -/

section

variable [Session σ]

/-- A call that completes a proxy reads the given properties in their order, until a read fails,
with the options recorded on the proxy, and does nothing else: what it executed, and the session and
the cell that it left. -/
structure Manager.Completes (T : EntityType E) (em : EntityMeta) (p : Proxy) (s : Site σ E)
    (cell : Cell E) (missing : List PropertyMeta) (requests : List Request) (session : σ)
    (cell' : Cell E) : Prop where
  attempt : (callOf T em cell.options).Attempt s.registry p.key s.session cell missing
    (complete T p s).1 requests session cell'
  site : (complete T p s).2 = s.afterReads p.handle requests session cell'

/-- A call that fails at one of the properties that are missing. -/
structure Manager.Interrupted (T : EntityType E) (em : EntityMeta) (p : Proxy) (s : Site σ E)
    (cell : Cell E) (requests : List Request) (session : σ) (cell' : Cell E) (stop : Stop)
    (read : List PropertyMeta) (pm : PropertyMeta) (rest : List PropertyMeta) : Prop where
  split : em.missing cell.loaded = read ++ pm :: rest
  /-- Its request is not bound or fails, or what is received is refused. -/
  fails : ∃ between more, (callOf T em cell.options).Fails s.registry p.key between cell'.entity pm
    more stop session
  /-- What was read before it is loaded, and nothing more. -/
  loaded : cell'.loaded = cell.loaded ++ read.map fun pm => pm.name
  /-- The next call reads what is left. -/
  resumed : ∃ requests' session' cell'',
    Completes T em p (complete T p s).2 cell' (pm :: rest) requests' session' cell''

/-- What it means to complete a proxy, given the metadata of its class and its cell. -/
structure CompleteContract (T : EntityType E) (em : EntityMeta) (p : Proxy) (s : Site σ E)
    (cell : Cell E) (requests : List Request) (session : σ) (cell' : Cell E) : Prop where
  /-- What is missing is read, the attributes first, then the counters, and nothing else is done. -/
  completes : Manager.Completes T em p s cell (em.missing cell.loaded) requests session cell'
  /-- However it ends, what changed keeps its value, and stays recorded as changed. -/
  dirty : cell'.dirty = cell.dirty
  value? : ∀ name ∈ cell.dirty.names, T.value? cell'.entity name = T.value? cell.entity name
  /-- However it ends, what is queued stays queued. -/
  pending : ∀ pm ∈ em.counters, T.pending cell'.entity pm.name = T.pending cell.entity pm.name
  /-- If it succeeds one statement was executed for each, which fetches it. -/
  bound : (Manager.complete T p s).1 = .ok () → List.Forall₂ (fun pm request =>
    (Manager.callOf T em cell.options).missingRequest s.registry p.key pm = .ok request ∧
      ∀ rows, (Answer.mk request.statement rows).Fetches s.types T em p.key pm.name)
    (em.missing cell.loaded) requests
  /-- Then everything is loaded. -/
  all : (Manager.complete T p s).1 = .ok () →
    ∀ pm ∈ em.onDemand ++ em.counters, pm.name ∈ cell'.loaded
  /-- Another call does nothing. -/
  again : (Manager.complete T p s).1 = .ok () →
    Manager.complete T p (Manager.complete T p s).2 = (.ok (), (Manager.complete T p s).2)
  failed : ∀ stop, (Manager.complete T p s).1 = .error stop → ∃ read pm rest,
    Manager.Interrupted T em p s cell requests session cell' stop read pm rest

namespace Manager

variable {T : EntityType E} {em : EntityMeta} {p : Proxy} {s : Site σ E} {cell cell' : Cell E}
  {requests : List Request} {session : σ}

section

variable (hnames : DistinctNames (em.onDemand ++ em.counters))
  (hem : s.types.lookup T.typeName = some em) (hcell : s.workspace.cell? p.handle = some cell)
include hnames hem hcell

/-- Completing a proxy reads what is missing. -/
theorem exists_completes : ∃ requests session cell',
    Completes T em p s cell (em.missing cell.loaded) requests session cell' := by
  obtain ⟨answer, requests, session, cell', hattempt, hrun⟩ :=
    Call.complete_apply (c := callOf T em cell.options) (p := p) (s := atOnce s) hnames hcell
  have hcomplete := complete_apply hem hcell
  rw [hrun] at hcomplete
  refine ⟨requests, session, cell', ?_, ?_⟩
  · rw [hcomplete]
    exact hattempt
  · rw [hcomplete]
    rfl

/-- Where nothing is missing nothing is done. -/
theorem complete_of_nothing_missing (hmissing : em.missing cell.loaded = []) :
    complete T p s = (.ok (), s) := by
  obtain ⟨requests, session, cell', hattempt, hsite⟩ := exists_completes hnames hem hcell
  rw [hmissing] at hattempt
  rcases hrun : complete T p s with ⟨stop | ⟨⟩, t⟩ <;> rw [hrun] at hattempt hsite
  · obtain ⟨read, pm, rest, _, _, _, hsplit, -⟩ := hattempt.fails_of_error
    cases read <;> cases hsplit
  · cases hattempt.fills_of_ok
    rw [Site.afterReads_nil hcell] at hsite
    exact Prod.ext rfl hsite

end

namespace Completes

variable (h : Completes T em p s cell (em.missing cell.loaded) requests session cell')
include h

/-- What was done to the cell is what reads of some properties from the front do. -/
theorem fills : ∃ read asked between, (∀ pm ∈ read, pm ∈ em.missing cell.loaded) ∧
    (callOf T em cell.options).Fills s.registry p.key s.session cell read asked between cell' := by
  obtain ⟨read, rest, asked, between, hsplit, hfills⟩ := h.attempt.fills
  refine ⟨read, asked, between, fun pm hpm => ?_, hfills⟩
  rw [hsplit]
  exact List.mem_append_left _ hpm

theorem dirty_eq : cell'.dirty = cell.dirty := by
  obtain ⟨_, _, _, -, hfills⟩ := h.fills
  exact hfills.records.2.1

/-- Where changed attributes are loaded, none of them is read over. -/
theorem value?_eq (hT : T.KeepsApart) (hdirty : cell.dirty.names ⊆ cell.loaded) {name : String}
    (hname : name ∈ cell.dirty.names) :
    T.value? cell'.entity name = T.value? cell.entity name := by
  obtain ⟨read, _, _, hmissing, hfills⟩ := h.fills
  refine hfills.value? hT rfl fun pm hpm heq => ?_
  exact EntityMeta.not_mem_of_missing (hmissing pm hpm) (heq ▸ hdirty hname)

theorem pending_eq (hT : T.KeepsApart) (hbuilt : em.Built) {pm : PropertyMeta}
    (hpm : pm ∈ em.counters) :
    T.pending cell'.entity pm.name = T.pending cell.entity pm.name := by
  obtain ⟨read, _, _, hmissing, hfills⟩ := h.fills
  refine hfills.pending hT rfl fun other hother hplain hname => ?_
  -- an attribute that is not a counter cannot have the name of one
  obtain rfl := List.inj_on_of_nodup_map hbuilt.rules.names
    (EntityMeta.besides_id (List.mem_append_right _ hpm)).1
    (EntityMeta.besides_id (List.mem_filter.1 (hmissing other hother)).1).1 hname
  rw [(List.mem_filter.1 hpm).2] at hplain
  cases hplain

/-- Each of the statements that were executed fetches what it was executed for. -/
theorem bound (hs : s.registry.Sound s.types) (hok : (complete T p s).1 = .ok ()) :
    List.Forall₂ (fun pm request =>
      (callOf T em cell.options).missingRequest s.registry p.key pm = .ok request ∧
        ∀ rows, (Answer.mk request.statement rows).Fetches s.types T em p.key pm.name)
      (em.missing cell.loaded) requests := by
  have hattempt := h.attempt
  rw [hok] at hattempt
  refine hattempt.fills_of_ok.bound fun pm hpm request hrequest => ⟨hrequest, fun rows => ?_⟩
  exact Call.fetches_of_missingRequest hs (List.mem_filter.1 hpm).1 hrequest rows

theorem lookup (hem : s.types.lookup T.typeName = some em) :
    (complete T p s).2.types.lookup T.typeName = some em := by
  rw [h.site]
  exact hem

theorem cell? (hcell : s.workspace.cell? p.handle = some cell) :
    (complete T p s).2.workspace.cell? p.handle = some cell' := by
  rw [h.site]
  exact Site.cell?_afterReads hcell _ _ _

variable (hnames : DistinctNames (em.onDemand ++ em.counters))
include hnames

/-- After a call that succeeds nothing is missing. -/
theorem nothing_missing (hok : (complete T p s).1 = .ok ()) : em.missing cell'.loaded = [] := by
  have hattempt := h.attempt
  rw [hok] at hattempt
  rw [hattempt.fills_of_ok.records.1]
  exact EntityMeta.missing_append hnames (List.append_nil _).symm

/-- A call that fails can be resumed. -/
theorem interrupted (hem : s.types.lookup T.typeName = some em)
    (hcell : s.workspace.cell? p.handle = some cell) {stop : Stop}
    (hstop : (complete T p s).1 = .error stop) : ∃ read pm rest,
      Interrupted T em p s cell requests session cell' stop read pm rest := by
  have hattempt := h.attempt
  rw [hstop] at hattempt
  obtain ⟨read, pm, rest, _, between, more, hsplit, hfills, hfails⟩ := hattempt.fails_of_error
  obtain ⟨hloaded, -, -⟩ := hfills.records
  refine ⟨read, pm, rest, hsplit, ⟨between, more, hfails⟩, hloaded, ?_⟩
  have hleft : em.missing cell'.loaded = pm :: rest := by
    rw [hloaded]
    exact EntityMeta.missing_append hnames hsplit
  rw [← hleft]
  exact exists_completes hnames (h.lookup hem) (h.cell? hcell)

end Completes

end Manager

/-- In every reachable state, to complete a proxy only fills in what is missing, and can be
resumed. -/
theorem Reachable.complete_contract [LawfulSession σ] {b : Batching σ E} (hb : Reachable b)
    {T : EntityType E} (hT : T.KeepsApart) {em : EntityMeta}
    (hem : b.site.types.lookup T.typeName = some em) {p : Proxy} {cell : Cell E}
    (hcell : b.site.workspace.cell? p.handle = some cell) : ∃ requests session cell',
      CompleteContract T em p b.site cell requests session cell' := by
  have hbuilt : em.Built := hb.sound.built (mem_of_lookup hem)
  have hnames := hbuilt.distinctNames_missing
  obtain ⟨requests, session, cell', h⟩ := Manager.exists_completes hnames hem hcell
  have hdirty : cell.dirty.names ⊆ cell.loaded := hb.dirtyLoaded _ cell hcell
  exact ⟨requests, session, cell', {
    completes := h
    dirty := h.dirty_eq
    value? := fun _ => h.value?_eq hT hdirty
    pending := fun _ => h.pending_eq hT hbuilt
    bound := h.bound hb.sound.registry
    all := fun hok _ => EntityMeta.mem_of_missing_eq_nil (h.nothing_missing hnames hok)
    again := fun hok => Manager.complete_of_nothing_missing hnames (h.lookup hem) (h.cell? hcell)
      (h.nothing_missing hnames hok)
    failed := fun _ => h.interrupted hnames hem hcell }⟩

end

/-! ### Letters -/

/-- A letter with a text that is read on demand, which counts how often it was viewed. -/
structure Letter where
  id : Value
  subject : Value
  text : Value
  views : Counter

namespace Letter

/-- The declaration of letters. -/
def draft : EntityDraft where
  className := "Letter"
  tableName := "letters"
  properties :=
    [.ofKind "id" .id .bigint, .ofKind "subject" .simple .text,
      { PropertyDraft.ofKind "text" .simple .text with isLazy := true },
      .ofKind "views" .counter .counter]
  readLevel := none
  writeLevel := none
  isClusteredCounter := false

/-- How letters are read and written. -/
def type : EntityType Letter where
  typeName := "post.Letter"
  shortName := "Letter"
  entityMeta := draft.build
  interceptors := []
  values letter := [("subject", letter.subject), ("text", letter.text)]
  write letter name v :=
    if name = "subject" then .ok { letter with subject := v }
    else if name = "text" then .ok { letter with text := v }
    else .error (.invalidState "No attribute")
  key letter := [letter.id]
  ofKey key := .ok ⟨key.headD .null, .null, .null, .empty⟩
  ofRow row := .ok ⟨(row.find? "id").getD .null, (row.find? "subject").getD .null, .null, .empty⟩
  counter? letter name := if name = "views" then some letter.views else none
  setCounter letter name counter :=
    if name = "views" then { letter with views := counter } else letter

/-- The metadata of letters. -/
def entityMeta : EntityMeta where
  className := "Letter"
  tableName := "letters"
  id := { PropertyDraft.ofKind "id" .id .bigint with entityClass := "Letter" }
  properties := draft.properties.map fun x => { x with entityClass := "Letter" }
  declaredReadLevel := none
  declaredWriteLevel := none
  readLevel := .standard
  writeLevel := .standard
  isClusteredCounter := false

/-- The proxy of the first letter. -/
def first : Proxy := ⟨⟨0⟩, entityMeta, [.bigint 1]⟩

theorem keepsApart_type : type.KeepsApart where
  write {letter letter' name v} h := by
    refine ⟨?_, fun {other} hne => ?_⟩ <;> simp only [type] at h
    · split at h
      · rw [← Except.ok.inj h]
        rfl
      · split at h
        · rw [← Except.ok.inj h]
          rfl
        · cases h
    · have hother : (other == name) = false := beq_eq_false_iff_ne.2 hne
      split at h
      · next hname =>
        subst hname
        rw [← Except.ok.inj h]
        simp [EntityType.value?, type, List.lookup_cons, hother]
      · split at h
        · next hname =>
          subst hname
          rw [← Except.ok.inj h]
          simp [EntityType.value?, type, List.lookup_cons, hother]
        · cases h
  setCounter letter name counter := by
    simp only [type]
    split
    · exact ⟨rfl, fun _ => rfl⟩
    · exact ⟨rfl, fun _ => rfl⟩
  counter?_setCounter {letter name old new} h := by
    simp only [type] at h ⊢
    split
    · rfl
    · next hne => simp [hne] at h
  counter?_setCounter_of_ne {letter name other} new h := by
    simp only [type]
    by_cases hname : name = "views"
    · subst hname
      simp [h.symm]
    · simp [hname]
  counter?_write {letter letter' name other v} h _ := by
    simp only [type] at h ⊢
    split at h
    · rw [← Except.ok.inj h]
    · split at h
      · rw [← Except.ok.inj h]
      · cases h

/-- A manager that knows letters, over a session that has the text of one and fails when a counter
is read for the first time. -/
def manager : Batching Script Letter :=
  let script := (Script.empty.addAnswer ⟨"SELECT text", [⟨["text"], [.text "Dear"]⟩]⟩).addFailure
    ⟨.execute, "SELECT counter_value", .failed (.invalidState "No answer")⟩
  let b := Batching.ofSite (.ofConfig script .standard)
  { b with site := ((ManagerCall.register type).run b.site).2 }

/-- After the first letter was taken by its key, got a subject, and was viewed. -/
def viewed : Batching Script Letter :=
  let taken :=
    { manager with site := ((ManagerCall.getProxy type first.key .none).run manager.site).2 }
  let named := { taken with site := taken.site.setValue type first "subject" (.text "Hello") }
  { named with site := named.site.editCounter type first "views" fun views => views.incrBy 1 }

theorem reachable_viewed : Reachable viewed := by
  have hmanager : Reachable manager :=
    (Reachable.start _ .standard).manager (.register type) fun em hem =>
      ⟨draft, em, em.readLevel, em.writeLevel, hem, rfl⟩
  have htaken := hmanager.manager (.getProxy type first.key .none) trivial
  exact (htaken.setValue type first "subject" (.text "Hello")).editCounter type first "views" _

/-- The text of a letter is read, its counter is not, and the subject and the view are kept. -/
theorem complete_contract_viewed : ∃ cell requests session cell',
    viewed.site.workspace.cell? first.handle = some cell ∧ cell.dirty.names = ["subject"] ∧
      type.pending cell.entity "views" = [1] ∧
      (Manager.complete type first viewed.site).1.isOk = false ∧
      CompleteContract type entityMeta first viewed.site cell requests session cell' := by
  have hem : viewed.site.types.lookup type.typeName = some entityMeta := by decide +kernel
  have hfails : (Manager.complete type first viewed.site).1.isOk = false := by decide +kernel
  have hviewed : (viewed.site.workspace.cell? first.handle).map
      (fun c => (c.dirty.names, type.pending c.entity "views")) = some (["subject"], [1]) := by
    decide +kernel
  obtain ⟨cell, hcell, hrecords⟩ := Option.map_eq_some_iff.1 hviewed
  obtain ⟨hdirty, hpending⟩ := Prod.mk.inj hrecords
  obtain ⟨requests, session, cell', hcontract⟩ :=
    reachable_viewed.complete_contract keepsApart_type hem hcell
  exact ⟨cell, requests, session, cell', hcell, hdirty, hpending, hfails, hcontract⟩

end Letter

end WideColumn
