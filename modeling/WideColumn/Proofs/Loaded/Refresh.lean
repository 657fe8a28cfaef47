import WideColumn.Proofs.Loaded.Calls
import WideColumn.Proofs.Page

/-!
# Reading a proxy again

The row is read, decoded and passed through the interceptors under a handle of its own, and only
what came through all of that is put in the place of the entity of the proxy. So a proxy is read
again as a whole or not at all, and a window that is open does not notice. Main statement:
`refresh_contract`.
-/

namespace WideColumn

open Op

variable {σ E : Type}

/-! ### What a read hands out -/

namespace EntityType

/-- The entity that the interceptors that follow a read let through. -/
def passed (T : EntityType E) (entity : E) : Except Error E :=
  match (T.intercept entity .postLoad).2 with
  | (entity, none) => .ok entity
  | (_, some e) => .error e

/-- The entity of a row, decoded and let through. -/
def ofRead (T : EntityType E) (row : Row) : Except Error E := T.ofRow row >>= T.passed

/-- The entity of the first row, if there is one. -/
def ofRows (T : EntityType E) : List Row → Except Stop (Option E)
  | [] => .ok none
  | row :: _ => ((T.ofRead row).mapError .failed).map some

end EntityType

/-- An error that is told in other words is an error all the same. -/
theorem mapError_eq_ok {ε ε' α : Type} {f : ε → ε'} {x : Except ε α} {a : α}
    (h : x.mapError f = .ok a) : x = .ok a := by
  cases x with
  | error e => cases h
  | ok b => exact congrArg Except.ok (Except.ok.inj h)

theorem EntityType.ofRows_eq_some {T : EntityType E} {rows : List Row} {entity : E}
    (h : T.ofRows rows = .ok (some entity)) :
    ∃ row rest, rows = row :: rest ∧ T.ofRead row = .ok entity := by
  cases rows with
  | nil => cases h
  | cons row rest =>
    have hmap : ((T.ofRead row).mapError Stop.failed).map some = .ok (some entity) := h
    cases hread : (T.ofRead row).mapError Stop.failed with
    | error e =>
      rw [hread] at hmap
      cases hmap
    | ok read =>
      rw [hread] at hmap
      obtain rfl := Option.some.inj (Except.ok.inj hmap)
      exact ⟨row, rest, rfl, mapError_eq_ok hread⟩

/-- What a load hands out. The entities in play have no part in it. -/
def Call.reading [Session σ] (c : Call E) (key : List Value) (r : Registry) (session : σ) :
    Except Stop (Option E) := do
  let request ← (c.readRequest r key).mapError .failed
  c.type.ofRows (← (Session.execute session request.statement).1)

/-- What reading a proxy again answers. -/
def Refresh.ofFound : Option E → Refresh
  | some _ => .refreshed
  | none => .stale

/-- A cell after it was read again. -/
def Cell.readAgain (em : EntityMeta) (cell : Cell E) : Except Stop (Option E) → Cell E
  | .ok (some entity) => { cell with entity, dirty := .empty, loaded := em.eagerlyLoaded }
  | _ => cell

/-- A run that reads a proxy again, with what was found for it. -/
structure ReadsAgain (em : EntityMeta) (p : Proxy) (s : Site σ E) (cell : Cell E)
    (found : Except Stop (Option E)) (run : Except Stop Refresh × Site σ E) : Prop where
  answer : run.1 = found.map Refresh.ofFound
  cell : run.2.workspace.cell? p.handle = some (cell.readAgain em found)
  others {h : Handle} {other : Cell E} : h ≠ p.handle → s.workspace.cell? h = some other →
    run.2.workspace.cell? h = some other
  outbox : run.2.outbox = s.outbox

/-- A proxy counts as refreshed if an entity was found. -/
theorem Refresh.map_ofFound_eq_refreshed {found : Except Stop (Option E)}
    (h : found.map ofFound = .ok .refreshed) : ∃ entity, found = .ok (some entity) := by
  rcases found with e | _ | entity
  · cases h
  · cases h
  · exact ⟨entity, rfl⟩

theorem Cell.readAgain_of_kept {em : EntityMeta} {cell : Cell E} {found : Except Stop (Option E)}
    (h : found.map Refresh.ofFound ≠ .ok .refreshed) : cell.readAgain em found = cell := by
  rcases found with e | _ | entity
  · rfl
  · rfl
  · exact absurd rfl h

/-! ### Loading -/

/-- The entities in play are as they were, and so is the outbox. -/
structure LeavesCells (s t : Site σ E) : Prop where
  cell? {h : Handle} {cell : Cell E} :
    s.workspace.cell? h = some cell → t.workspace.cell? h = some cell
  outbox : t.outbox = s.outbox

namespace LeavesCells

theorem of_workspace {s t : Site σ E} (hworkspace : t.workspace = s.workspace)
    (houtbox : t.outbox = s.outbox) : LeavesCells s t :=
  ⟨fun hcell => hworkspace ▸ hcell, houtbox⟩

theorem trans {s t u : Site σ E} (hst : LeavesCells s t) (htu : LeavesCells t u) :
    LeavesCells s u :=
  ⟨fun hcell => htu.cell? (hst.cell? hcell), htu.outbox.trans hst.outbox⟩

/-- A new cell. -/
theorem addEntity (entity : E) (s : Site σ E) : LeavesCells s (addEntity entity s).2 := by
  rw [addEntity_apply]
  refine ⟨fun hcell => ?_, rfl⟩
  exact (Workspace.cell?_add_of_lt _ _ _ (Workspace.lt_of_cell? hcell)).trans hcell

/-- What happens to a cell that was not there before. -/
theorem modify_new {s t : Site σ E} (hst : LeavesCells s t) {h : Handle}
    (hnew : s.workspace.cell? h = none) (f : Cell E → Cell E) :
    LeavesCells s { t with workspace := t.workspace.modify h f } := by
  refine ⟨fun {other cell} hcell => ?_, hst.outbox⟩
  have hother : ¬ h = other := by
    rintro rfl
    rw [hnew] at hcell
    cases hcell
  show (t.workspace.modify h f).cell? other = _
  rw [Workspace.cell?_modify, if_neg hother]
  exact hst.cell? hcell

/-- The interceptors that follow a read, on a cell that was not there before. -/
theorem trigger_new {s t : Site σ E} (hst : LeavesCells s t) {h : Handle}
    (hnew : s.workspace.cell? h = none) (T : EntityType E) :
    LeavesCells s (trigger T h .postLoad t).2 := by
  cases hwatched : T.hasInterceptor .postLoad with
  | false =>
    rw [trigger_unwatched T h _ t hwatched]
    exact hst
  | true =>
    rw [trigger_postLoad h hwatched]
    cases hcell : t.workspace.cell? h with
    | none =>
      rw [fire_of_no_cell T _ hcell]
      exact hst
    | some cell =>
      rw [fire_apply T _ hcell]
      exact (hst.modify_new hnew _).trans (.of_workspace rfl rfl)

end LeavesCells

section

variable [Session σ]

/-- The interceptors that follow a read let an entity through, or one of them fails. -/
theorem trigger_postLoad_cases {T : EntityType E} {h : Handle} {s : Site σ E} {cell : Cell E}
    (hcell : s.workspace.cell? h = some cell) :
    (∃ e, T.passed cell.entity = .error e ∧ (trigger T h .postLoad s).1 = .error (.failed e)) ∨
      ∃ entity, T.passed cell.entity = .ok entity ∧ (trigger T h .postLoad s).1 = .ok () ∧
        (trigger T h .postLoad s).2.workspace.entity? h = some entity := by
  obtain ⟨hanswer, hsteps⟩ := trigger_now (T := T) hcell (.inl rfl)
  have hentity := congrArg (Option.map Cell.entity) hsteps.cell
  unfold interceptAnswer at hanswer
  unfold EntityType.passed
  rcases hrun : T.intercept cell.entity .postLoad with ⟨notices, entity, _ | e⟩ <;>
    rw [hrun] at hanswer hentity
  · exact .inr ⟨entity, rfl, hanswer, hentity⟩
  · exact .inl ⟨e, rfl, hanswer⟩

/-- A run of a load that hands out what was found, under a handle. -/
def Delivers (found : Except Stop (Option E)) (run : Except Stop (Option Handle) × Site σ E) :
    Prop :=
  match found with
  | .error e => run.1 = .error e
  | .ok none => run.1 = .ok none
  | .ok (some entity) => ∃ h, run.1 = .ok (some h) ∧ run.2.workspace.entity? h = some entity

namespace Call

variable (c : Call E)

/-- A load leaves what is in play alone, and hands out the entity that was let through. -/
theorem delivers_received (rows : List Row) (s : Site σ E) :
    LeavesCells s (c.received rows s).2 ∧ Delivers (c.type.ofRows rows) (c.received rows s) := by
  cases rows with
  | nil => exact ⟨.of_workspace rfl rfl, rfl⟩
  | cons row rest =>
    have hread : c.type.ofRead row = c.type.ofRow row >>= c.type.passed := rfl
    show LeavesCells s (((liftM (c.type.ofRow row) : Op σ E E) >>= _) s).2 ∧
      Delivers (((c.type.ofRead row).mapError .failed).map some)
        (((liftM (c.type.ofRow row) : Op σ E E) >>= _) s)
    rw [hread]
    cases c.type.ofRow row with
    | error e =>
      rw [lift_bind_of_error rfl]
      exact ⟨.of_workspace rfl rfl, rfl⟩
    | ok entity =>
      have hadd : addEntity entity s = (.ok s.workspace.fresh, (addEntity entity s).2) := rfl
      rw [lift_bind_of_ok rfl, bind_of_ok hadd]
      show LeavesCells s _ ∧ Delivers (((c.type.passed entity).mapError .failed).map some) _
      -- The interceptors work on a cell that is new, so what they write is in no other.
      have hleaves := (LeavesCells.addEntity entity s).trigger_new s.workspace.cell?_fresh c.type
      have hcell : (addEntity entity s).2.workspace.cell? s.workspace.fresh =
        some ⟨entity, .empty, [], .none⟩ := Workspace.cell?_add_self s.workspace entity
      rcases trigger_postLoad_cases (T := c.type) hcell with
        ⟨e, hpassed, hanswer⟩ | ⟨after, hpassed, hanswer, hafter⟩ <;> rw [hpassed]
      · rw [bind_of_error (Prod.ext hanswer rfl)]
        exact ⟨hleaves, rfl⟩
      · rw [bind_of_ok (Prod.ext hanswer rfl)]
        exact ⟨hleaves, _, rfl, hafter⟩

/-- So does a load as a whole. -/
theorem delivers_load (key : List Value) (s : Site σ E) : LeavesCells s (c.load key s).2 ∧
    Delivers (c.reading key s.registry s.session) (c.load key s) := by
  rw [load_apply]
  unfold reading
  cases c.readRequest s.registry key with
  | error e =>
    rw [lift_bind_of_error rfl]
    exact ⟨.of_workspace rfl rfl, rfl⟩
  | ok request =>
    rw [lift_bind_of_ok rfl]
    show _ ∧ Delivers ((Session.execute s.session request.statement).1 >>= c.type.ofRows) _
    have hexecute := executeRequest_apply request s
    have hasked : LeavesCells s (executeRequest request s).2 := by
      rw [hexecute]
      exact .of_workspace rfl rfl
    rcases hrun : executeRequest request s with ⟨answer, t⟩
    rw [hrun] at hexecute hasked
    rw [← (Prod.mk.inj hexecute).1]
    cases answer with
    | error e =>
      rw [bind_of_error hrun]
      exact ⟨hasked, rfl⟩
    | ok rows =>
      rw [bind_of_ok hrun]
      obtain ⟨hleaves, hdelivers⟩ := c.delivers_received rows t
      exact ⟨hasked.trans hleaves, hdelivers⟩

/-- What is done with what was loaded for a proxy. -/
def takeOver (p : Proxy) : Option Handle → Op σ E Refresh
  | none => return .stale
  | some h => do
    let entity := (← Op.cell h).entity
    Op.modifyCell p.handle fun cell =>
      { cell with entity, dirty := .empty, loaded := c.entityMeta.eagerlyLoaded }
    return .refreshed

/-- Either everything comes of it, or nothing does. -/
theorem readsAgain_refresh (p : Proxy) {s : Site σ E} {cell : Cell E}
    (hcell : s.workspace.cell? p.handle = some cell) :
    ReadsAgain c.entityMeta p s cell (c.reading p.key s.registry s.session) (c.refresh p s) := by
  obtain ⟨hleaves, hdelivers⟩ := c.delivers_load p.key s
  have hkept := hleaves.cell? hcell
  have hrefresh : (c.refresh p : Op σ E Refresh) = c.load p.key >>= c.takeOver p := rfl
  rw [hrefresh]
  generalize c.reading p.key s.registry s.session = found at hdelivers ⊢
  rcases hrun : c.load p.key s with ⟨answer, t⟩
  rw [hrun] at hleaves hdelivers hkept
  rcases found with e | _ | entity
  · obtain rfl : answer = .error e := hdelivers
    rw [bind_of_error hrun]
    exact ⟨rfl, hkept, fun _ hother => hleaves.cell? hother, hleaves.outbox⟩
  · obtain rfl : answer = .ok none := hdelivers
    rw [bind_of_ok hrun]
    exact ⟨rfl, hkept, fun _ hother => hleaves.cell? hother, hleaves.outbox⟩
  · obtain ⟨h, rfl, hentity⟩ := hdelivers
    obtain ⟨read, hread, rfl⟩ := Option.map_eq_some_iff.1 hentity
    have hfound : Op.cell h t = (.ok read, t) := by rw [cell_apply, hread]
    rw [bind_of_ok hrun]
    unfold takeOver
    dsimp only
    rw [bind_of_ok hfound]
    refine ⟨rfl, Workspace.cell?_modify_self hkept _, fun hne hother => ?_, hleaves.outbox⟩
    show (t.workspace.modify p.handle _).cell? _ = _
    rw [Workspace.cell?_modify, if_neg (Ne.symm hne)]
    exact hleaves.cell? hother

end Call

/-- What a load hands out was received as a row, decoded and let through. -/
theorem Call.reading_eq_some {c : Call E} {key : List Value} {r : Registry} {session : σ}
    {entity : E} (h : c.reading key r session = .ok (some entity)) :
    ∃ request row rest, c.readRequest r key = .ok request ∧
      (Session.execute session request.statement).1 = .ok (row :: rest) ∧
      c.type.ofRead row = .ok entity := by
  obtain ⟨request, hrequest, hread⟩ := except_bind_eq_ok h
  obtain ⟨rows, hrows, hentity⟩ := except_bind_eq_ok hread
  obtain ⟨row, rest, rfl, hpassed⟩ := EntityType.ofRows_eq_some hentity
  exact ⟨request, row, rest, mapError_eq_ok hrequest, hrows, hpassed⟩

/-! ### Managers -/

/-- The attributes besides the key that the read of a row selects: those of its columns, or the
counters where it selects the whole row of a counter table. -/
def EntityMeta.selected (em : EntityMeta) : List String :=
  if em.isClusteredCounter then em.counters.map fun pm => pm.name
  else (Template.entityColumns em).drop em.idColumns.length

omit [Session σ] in
theorem EntityMeta.eagerlyLoaded_eq (em : EntityMeta) :
    em.eagerlyLoaded = em.id.name :: em.selected := by
  unfold eagerlyLoaded selected Template.entityColumns
  split
  · rfl
  · rw [List.drop_left]

omit [Session σ] in
/-- The state in which the entity of a handle is another one. -/
def Batching.withEntity (h : Handle) (entity : E) (b : Batching σ E) : Batching σ E :=
  { b with site.workspace := b.site.workspace.modifyEntity h fun _ => entity }

/-- No call is made and nothing happens, or the call that is made reads the proxy again. -/
theorem Manager.refreshIn_cases (T : EntityType E) (options : Options) {p : Proxy} {s : Site σ E}
    {cell : Cell E} (hcell : s.workspace.cell? p.handle = some cell) :
    (∃ e, (call T options s).1 = .error e ∧ refreshIn T p options s = (.error e, s)) ∨
      ∃ c, (call T options s).1 = .ok c ∧
        ReadsAgain c.entityMeta p s cell (c.reading p.key s.registry s.session)
          (refreshIn T p options s) := by
  unfold refreshIn
  rcases call_cases T options s with ⟨e, hcall⟩ | ⟨c, hcall, -⟩
  · rw [bind_of_error hcall, hcall]
    exact .inl ⟨e, rfl, rfl⟩
  · rw [bind_of_ok hcall, hcall]
    exact .inr ⟨c, rfl, c.readsAgain_refresh p hcell⟩

/-- A window reads nothing again for who asks for a level. -/
theorem Batching.refresh_of_hasLevel (T : EntityType E) (p : Proxy) {options : Options}
    (hlevel : options.hasLevel = true) (b : Batching σ E) :
    Batching.refresh T p options b = (.error (.failed Levels.batchConflict), b) := by
  unfold Batching.refresh
  rw [hlevel]
  rfl

theorem Batching.refresh_of_noLevel (T : EntityType E) (p : Proxy) {options : Options}
    (hlevel : options.hasLevel = false) (b : Batching σ E) :
    Batching.refresh T p options b = Batching.onSite (Manager.refreshIn T p options) b := by
  unfold Batching.refresh
  rw [hlevel]
  rfl

namespace Timing

variable (how : Timing) (T : EntityType E) (options : Options) (b : Batching σ E)

/-- The call that a manager makes to read, or why it makes none. In a window it makes none for who
asks for a level. -/
def call : Except Stop (Call E) :=
  match how with
  | atOnce => (Manager.call T options (Manager.atOnce b.site)).1
  | inWindow _ =>
    if options.hasLevel then .error (.failed Levels.batchConflict)
    else (Manager.call T options b.site).1

/-- What a manager finds for a key. The entities in play have no part in it. -/
def reading (key : List Value) : Except Stop (Option E) :=
  how.call T options b >>= fun c => c.reading key b.site.registry b.site.session

omit [Session σ] in
variable {how T options b} in
/-- The call is one of the type with its registered metadata. -/
theorem call_eq_ok {c : Call E} (h : how.call T options b = .ok c) :
    c.type = T ∧ b.site.types.lookup T.typeName = some c.entityMeta := by
  have hmade (s : Site σ E) (hs : (Manager.call T options s).1 = .ok c) :
      c.type = T ∧ s.types.lookup T.typeName = some c.entityMeta := by
    rcases Manager.call_cases T options s with ⟨e, hcall⟩ | ⟨c', hcall, hc⟩ <;> rw [hcall] at hs
    · cases hs
    · obtain rfl := Except.ok.inj hs
      exact ⟨hc.type_eq, hc.lookup_eq⟩
  cases how with
  | atOnce => exact hmade (Manager.atOnce b.site) h
  | inWindow now =>
    unfold call at h
    dsimp only at h
    split at h
    · cases h
    · exact hmade _ h

/-- No call is made and nothing happens, or the call that is made reads the proxy again. -/
theorem refresh_cases {p : Proxy} {cell : Cell E}
    (hcell : b.site.workspace.cell? p.handle = some cell) :
    (∃ e, how.call T options b = .error e ∧ how.refresh T p options b = (.error e, b)) ∨
      ∃ c, how.call T options b = .ok c ∧
        ReadsAgain c.entityMeta p b.site cell (c.reading p.key b.site.registry b.site.session)
          ((how.refresh T p options b).1, (how.refresh T p options b).2.site) := by
  cases how with
  | atOnce =>
    have hatOnce : (Manager.atOnce b.site).workspace.cell? p.handle = some cell := hcell
    rcases Manager.refreshIn_cases T options hatOnce with
      ⟨e, hcall, hrun⟩ | ⟨c, hcall, hreads⟩
    · refine .inl ⟨e, hcall, ?_⟩
      show Batching.onSite (Manager.immediately (Manager.refreshIn T p options)) b = _
      unfold Batching.onSite
      rw [Manager.immediately_apply, hrun]
      rfl
    · exact .inr ⟨c, hcall, hreads.answer, hreads.cell, hreads.others, rfl⟩
  | inWindow now =>
    cases hlevel : options.hasLevel with
    | true =>
      exact .inl ⟨.failed Levels.batchConflict, if_pos hlevel,
        Batching.refresh_of_hasLevel T p hlevel b⟩
    | false =>
      have hrefresh : (inWindow now).refresh T p options b =
          Batching.onSite (Manager.refreshIn T p options) b :=
        Batching.refresh_of_noLevel T p hlevel b
      have hcall : (inWindow now).call T options b = (Manager.call T options b.site).1 :=
        if_neg (by rw [hlevel]; exact Bool.false_ne_true)
      rw [hrefresh, hcall]
      rcases Manager.refreshIn_cases T options hcell with ⟨e, hfails, hrun⟩ | hreads
      · refine .inl ⟨e, hfails, ?_⟩
        unfold Batching.onSite
        rw [hrun]
      · exact .inr hreads

omit [Session σ] in
/-- Which call is made does not depend on the entities in play. -/
theorem call_withEntity (h : Handle) (entity : E) :
    how.call T options (b.withEntity h entity) = how.call T options b := by
  have hsame (s : Site σ E) (workspace : Workspace E) :
      (Manager.call T options { s with workspace }).1 = (Manager.call T options s).1 := by
    cases hem : s.types.lookup T.typeName with
    | none =>
      rw [Manager.call_of_no_lookup hem, Manager.call_of_no_lookup (s := { s with workspace }) hem]
    | some em =>
      cases hwindow : Levels.applyWindow options s.outbox.batchLevel with
      | error e =>
        rw [Manager.call_of_conflict hem hwindow,
          Manager.call_of_conflict (s := { s with workspace }) hem hwindow]
      | ok effective =>
        rw [Manager.call_of_lookup hem hwindow,
          Manager.call_of_lookup (s := { s with workspace }) hem hwindow]
  cases how with
  | atOnce => exact hsame (Manager.atOnce b.site) _
  | inWindow now => exact congrArg (ite (options.hasLevel = true) _) (hsame b.site _)

/-- A proxy is read again with what is found for its key, or stays as it was. -/
theorem readsAgain_refresh {p : Proxy} {cell : Cell E}
    (hcell : b.site.workspace.cell? p.handle = some cell) :
    ReadsAgain ((b.site.types.lookup T.typeName).getD p.entityMeta) p b.site cell
      (how.reading T options b p.key)
      ((how.refresh T p options b).1, (how.refresh T p options b).2.site) := by
  unfold reading
  rcases how.refresh_cases T options b hcell with ⟨e, hcall, hrun⟩ | ⟨c, hcall, hreads⟩ <;>
    rw [hcall]
  · rw [hrun]
    exact ⟨rfl, hcell, fun _ hother => hother, rfl⟩
  · rw [(call_eq_ok hcall).2]
    exact hreads

/-- What is found is the entity of the row that the session answered to the read of the key. -/
theorem reading_eq_some (hr : b.site.registry.Sound b.site.types) {key : List Value} {entity : E}
    (h : how.reading T options b key = .ok (some entity)) :
    ∃ em, ∃ request : Request, ∃ row rest, b.site.types.lookup T.typeName = some em ∧
      request.statement.Asks b.site.types T em (em.rowRead key) ∧
      (Session.execute b.site.session request.statement).1 = .ok (row :: rest) ∧
      T.ofRead row = .ok entity := by
  obtain ⟨c, hcall, hreading⟩ := except_bind_eq_ok h
  obtain ⟨rfl, hem⟩ := call_eq_ok hcall
  obtain ⟨request, row, rest, hrequest, hrows, hentity⟩ := Call.reading_eq_some hreading
  have hasks := Call.asks_of_readRequest hr hrequest
  exact ⟨c.entityMeta, request, row, rest, hem, hasks, hrows, hentity⟩

theorem reading_withEntity (h : Handle) (entity : E) (key : List Value) :
    how.reading T options (b.withEntity h entity) key = how.reading T options b key := by
  unfold reading
  rw [how.call_withEntity]
  rfl

/-- Where an entity is found, the proxy has it, unchanged and loaded as it was selected. -/
theorem refreshed_of_reading (hr : b.site.registry.Sound b.site.types) {p : Proxy} {cell : Cell E}
    (hcell : b.site.workspace.cell? p.handle = some cell) {entity : E}
    (hentity : how.reading T options b p.key = .ok (some entity)) :
    ∃ em, ∃ request : Request, ∃ row rest, b.site.types.lookup T.typeName = some em ∧
      request.statement.Asks b.site.types T em (em.rowRead p.key) ∧
      (Session.execute b.site.session request.statement).1 = .ok (row :: rest) ∧
      T.ofRead row = .ok entity ∧
      (how.refresh T p options b).2.site.workspace.cell? p.handle =
        some ⟨entity, .empty, em.id.name :: em.selected, cell.options⟩ := by
  obtain ⟨em, request, row, rest, hem, hasks, hanswer, hread⟩ :=
    how.reading_eq_some T options b hr hentity
  have hafter := (how.readsAgain_refresh T options b hcell).cell
  rw [hentity, hem] at hafter
  refine ⟨em, request, row, rest, hem, hasks, hanswer, hread, hafter.trans ?_⟩
  rw [← em.eagerlyLoaded_eq]
  rfl

/-- Whatever entity a proxy had before, it is refreshed to the same. -/
theorem refresh_withEntity {p : Proxy} {cell : Cell E}
    (hcell : b.site.workspace.cell? p.handle = some cell) (former : E) :
    (how.refresh T p options (b.withEntity p.handle former)).1 = (how.refresh T p options b).1 ∧
      ((how.refresh T p options b).1 = .ok .refreshed →
        (how.refresh T p options (b.withEntity p.handle former)).2.site.workspace.cell? p.handle =
          (how.refresh T p options b).2.site.workspace.cell? p.handle) := by
  have hcell' : (b.withEntity p.handle former).site.workspace.cell? p.handle =
      some { cell with entity := former } := Workspace.cell?_modify_self hcell _
  have hreads := how.readsAgain_refresh T options b hcell
  have hreads' := how.readsAgain_refresh T options (b.withEntity p.handle former) hcell'
  rw [reading_withEntity] at hreads'
  refine ⟨hreads'.answer.trans hreads.answer.symm, fun hrefreshed => ?_⟩
  obtain ⟨entity, hentity⟩ :=
    Refresh.map_ofFound_eq_refreshed (hreads.answer.symm.trans hrefreshed)
  have hcells := hreads.cell
  have hcells' := hreads'.cell
  rw [hentity] at hcells hcells'
  exact hcells'.trans hcells.symm

end Timing

/-! ### The contract -/

/-- What comes of reading a proxy again. -/
structure RefreshContract (how : Timing) (T : EntityType E) (p : Proxy) (options : Options)
    (b : Batching σ E) (cell : Cell E) (run : Except Stop Refresh × Batching σ E) : Prop where
  /-- The answer tells what was found: the entity of a row that was decoded and let through by the
  interceptors, no row, or why there is neither. -/
  answer : run.1 = (how.reading T options b p.key).map Refresh.ofFound
  /-- A proxy that is refreshed has the entity of the first row that the session answered to the
  read of its key, decoded and let through; nothing is changed, and loaded is what was selected. -/
  refreshed : run.1 = .ok .refreshed → ∃ em, ∃ request : Request, ∃ row rest entity,
    b.site.types.lookup T.typeName = some em ∧
      request.statement.Asks b.site.types T em (em.rowRead p.key) ∧
      (Session.execute b.site.session request.statement).1 = .ok (row :: rest) ∧
      T.ofRead row = .ok entity ∧
      run.2.site.workspace.cell? p.handle =
        some ⟨entity, .empty, em.id.name :: em.selected, cell.options⟩
  /-- Of the entity that the proxy had before, with the deltas queued on it, nothing is left. -/
  former : ∀ former, (how.refresh T p options (b.withEntity p.handle former)).1 = run.1 ∧
    (run.1 = .ok .refreshed →
      (how.refresh T p options (b.withEntity p.handle former)).2.site.workspace.cell? p.handle =
        run.2.site.workspace.cell? p.handle)
  /-- No delta is queued on a proxy that is refreshed, if none is queued by reading. -/
  pending : run.1 = .ok .refreshed →
    (∀ row entity name, T.ofRead row = .ok entity → T.pending entity name = []) →
    ∀ cell' name, run.2.site.workspace.cell? p.handle = some cell' →
      T.pending cell'.entity name = []
  /-- In a window a call that asks for a level is refused, and nothing happens. -/
  refused : ∀ now, how = .inWindow now → options.hasLevel = true →
    run = (.error (.failed Levels.batchConflict), b)
  /-- In every other case the proxy is as it was. -/
  kept : run.1 ≠ .ok .refreshed → run.2.site.workspace.cell? p.handle = some cell
  others : ∀ h other, h ≠ p.handle → b.site.workspace.cell? h = some other →
    run.2.site.workspace.cell? h = some other
  /-- Neither way is anything sent, put off or given up of what is pending. -/
  outbox : run.2.site.outbox = b.site.outbox

/-- In every reachable state, whatever a proxy was through, reading it again is all or nothing. -/
theorem Reachable.refresh_contract [LawfulSession σ] {b : Batching σ E} (hb : Reachable b)
    (how : Timing) (T : EntityType E) {p : Proxy} (options : Options) {cell : Cell E}
    (hcell : b.site.workspace.cell? p.handle = some cell) :
    RefreshContract how T p options b cell (how.refresh T p options b) := by
  have hreads := how.readsAgain_refresh T options b hcell
  have hfound (hrefreshed : (how.refresh T p options b).1 = .ok .refreshed) :
      ∃ entity, how.reading T options b p.key = .ok (some entity) :=
    Refresh.map_ofFound_eq_refreshed (hreads.answer.symm.trans hrefreshed)
  exact {
    answer := hreads.answer
    refreshed := fun hrefreshed => by
      obtain ⟨entity, hentity⟩ := hfound hrefreshed
      obtain ⟨em, request, row, rest, h⟩ :=
        how.refreshed_of_reading T options b hb.sound.registry hcell hentity
      exact ⟨em, request, row, rest, entity, h⟩
    former := how.refresh_withEntity T options b hcell
    pending := fun hrefreshed hqueues cell' name hcell' => by
      obtain ⟨entity, hentity⟩ := hfound hrefreshed
      obtain ⟨em, _, row, _, -, -, -, hread, hafter⟩ :=
        how.refreshed_of_reading T options b hb.sound.registry hcell hentity
      obtain rfl := Option.some.inj (hafter.symm.trans hcell')
      exact hqueues row entity name hread
    refused := by
      rintro now rfl hlevel
      exact Batching.refresh_of_hasLevel T p hlevel b
    kept := fun hkept => by
      rw [hreads.answer] at hkept
      exact hreads.cell.trans (congrArg some (Cell.readAgain_of_kept hkept))
    others := fun _ _ => hreads.others
    outbox := hreads.outbox }

end

namespace Page

/-- A page that was changed and visited, while its row was given another title. -/
def outdated : Batching Script Page :=
  let script := Script.empty.addAnswer
    ⟨"SELECT id,title", [⟨["id", "title"], [.bigint 1, .text "Anew"]⟩]⟩
  visited (titled (opened (manager script [plain]) plain first) plain first "Start") plain first 2

theorem reachable_outdated : Reachable outdated := by
  have hmanager := reachable_manager_type (Script.empty.addAnswer
    ⟨"SELECT id,title", [⟨["id", "title"], [.bigint 1, .text "Anew"]⟩]⟩) "site.Page" "pages" []
  exact reachable_visited (reachable_titled (reachable_opened hmanager _ _) _ _ _) _ _ _

/-- In a window the page is read again, and neither its title nor its visits are left. -/
theorem refresh_contract_outdated : ∃ cell,
    outdated.site.workspace.cell? first.handle = some cell ∧ cell.dirty.names = ["title"] ∧
      plain.pending cell.entity "hits" = [2] ∧
      ((Timing.inWindow 0).refresh plain first .none outdated).1 = .ok .refreshed ∧
      RefreshContract (.inWindow 0) plain first .none outdated cell
        ((Timing.inWindow 0).refresh plain first .none outdated) := by
  have hrefreshed : ((Timing.inWindow 0).refresh plain first .none outdated).1 =
      .ok .refreshed := by decide +kernel
  have houtdated : (outdated.site.workspace.cell? first.handle).map
      (fun c => (c.dirty.names, plain.pending c.entity "hits")) = some (["title"], [2]) := by
    decide +kernel
  obtain ⟨cell, hcell, hrecords⟩ := Option.map_eq_some_iff.1 houtdated
  obtain ⟨hdirty, hpending⟩ := Prod.mk.inj hrecords
  exact ⟨cell, hcell, hdirty, hpending, hrefreshed,
    reachable_outdated.refresh_contract (.inWindow 0) plain .none hcell⟩

end Page

end WideColumn
