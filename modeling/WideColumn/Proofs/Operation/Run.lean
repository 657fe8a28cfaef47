import WideColumn.Persist.Batching

/-!
# Runs of operations

What an operation answers and leaves behind, one equation per way to build it. `op s` is the run of
`op` on the site `s`: its result or the reason why it stopped, and the site afterwards. The
equations of the primitives are for rewriting; `bind_eq_ok` and `bind_eq_error` take a run apart.
-/

namespace WideColumn

variable {σ E : Type}

/-- The outbox with one more write. -/
def Outbox.keeping (kind : BatchKind) (r : Request) (o : Outbox E) : Outbox E :=
  match kind with
  | .logged => { o with regular := o.regular ++ [r] }
  | .counter => { o with counter := o.counter ++ [r] }

section

variable (kind : BatchKind) (r : Request) (o : Outbox E)

@[simp] theorem Outbox.mode_keeping : (o.keeping kind r).mode = o.mode := by cases kind <;> rfl

@[simp] theorem Outbox.level_keeping : (o.keeping kind r).level = o.level := by cases kind <;> rfl

@[simp] theorem Outbox.events_keeping : (o.keeping kind r).events = o.events := by
  cases kind <;> rfl

end

/-- The site after a write was kept for the end of the window. -/
def Site.afterKeep (kind : BatchKind) (r : Request) (s : Site σ E) : Site σ E :=
  { s with trace := s.trace ++ [.pushed kind r], outbox := s.outbox.keeping kind r }

/-- The site after a write was sent at once. -/
def Site.afterPush [Session σ] (kind : BatchKind) (r : Request) (s : Site σ E) : Site σ E :=
  { s with
    trace := s.trace ++ [.pushed kind r, .logged (.sent r), .executed r.statement]
    session := (Session.execute s.session r.statement).2 }

/-- The site after an event was put off. -/
def Site.afterDefer (T : EntityType E) (h : Handle) (event : Event) (s : Site σ E) : Site σ E :=
  { s with outbox := { s.outbox with events := s.outbox.events ++ [⟨T, h, event⟩] } }

end WideColumn

namespace WideColumn.Op

variable {σ E S α β : Type}

/-! ### Control -/

@[simp] theorem pure_apply (a : α) (s : S) :
    (pure a : ExceptT Stop (StateM S) α) s = (.ok a, s) := rfl

@[simp] theorem throw_apply (e : Stop) (s : S) :
    (throw e : ExceptT Stop (StateM S) α) s = (.error e, s) := rfl

theorem bind_apply (x : ExceptT Stop (StateM S) α) (f : α → ExceptT Stop (StateM S) β) (s : S) :
    (x >>= f) s = match x s with
      | (.ok a, t) => f a t
      | (.error e, t) => (.error e, t) := by
  simp only [bind, ExceptT.bind, ExceptT.mk, StateT.bind]
  obtain ⟨result, t⟩ := x s
  cases result <;> rfl

theorem bind_of_ok {x : ExceptT Stop (StateM S) α} {s t : S} {a : α} (h : x s = (.ok a, t))
    (f : α → ExceptT Stop (StateM S) β) : (x >>= f) s = f a t := by
  rw [bind_apply, h]

theorem bind_of_error {x : ExceptT Stop (StateM S) α} {s t : S} {e : Stop}
    (h : x s = (.error e, t)) (f : α → ExceptT Stop (StateM S) β) :
    (x >>= f) s = (.error e, t) := by
  rw [bind_apply, h]

/-- A sequence succeeds when both parts do. -/
theorem bind_eq_ok {x : ExceptT Stop (StateM S) α} {f : α → ExceptT Stop (StateM S) β} {s u : S}
    {b : β} (h : (x >>= f) s = (.ok b, u)) :
    ∃ a t, x s = (.ok a, t) ∧ f a t = (.ok b, u) := by
  rcases hx : x s with ⟨_ | a, t⟩
  · rw [bind_of_error hx] at h
    cases h
  · rw [bind_of_ok hx] at h
    exact ⟨a, t, rfl, h⟩

/-- A sequence stops in its first part, or in its second after the first succeeded. -/
theorem bind_eq_error {x : ExceptT Stop (StateM S) α} {f : α → ExceptT Stop (StateM S) β}
    {s u : S} {e : Stop} (h : (x >>= f) s = (.error e, u)) :
    x s = (.error e, u) ∨ ∃ a t, x s = (.ok a, t) ∧ f a t = (.error e, u) := by
  rcases hx : x s with ⟨_ | a, t⟩
  · rw [bind_of_error hx] at h
    obtain ⟨he, rfl⟩ := Prod.mk.inj h
    rw [Except.error.inj he]
    exact .inl rfl
  · rw [bind_of_ok hx] at h
    exact .inr ⟨a, t, rfl, h⟩

/-- An operation whose answer is changed. -/
theorem bind_pure_apply (op : ExceptT Stop (StateM S) α) (f : α → β) (s : S) :
    (op >>= fun a => pure (f a)) s = ((op s).1.map f, (op s).2) := by
  rw [bind_apply]
  rcases op s with ⟨_ | _, _⟩ <;> rfl

/-- An operation whose answer is left out. -/
theorem discard_run (op : ExceptT Stop (StateM S) α) (s : S) :
    (do let _ ← op : ExceptT Stop (StateM S) Unit) s = ((op s).1.map fun _ => (), (op s).2) :=
  bind_pure_apply op _ s

theorem discard_apply (op : ExceptT Stop (StateM S) α) (s : S) :
    ((do let _ ← op : ExceptT Stop (StateM S) Unit) s).2 = (op s).2 := by
  rw [discard_run]

@[simp] theorem get_bind_apply (f : S → ExceptT Stop (StateM S) β) (s : S) :
    ((get : ExceptT Stop (StateM S) S) >>= f) s = f s s := rfl

@[simp] theorem modify_apply (f : S → S) (s : S) :
    (modify f : ExceptT Stop (StateM S) Unit) s = (.ok (), f s) := rfl

/-- A check that passed left the decision to the next one. -/
theorem except_bind_eq_ok {ε : Type} {x : Except ε α} {f : α → Except ε β} {b : β}
    (h : (x >>= f) = .ok b) : ∃ a, x = .ok a ∧ f a = .ok b := by
  cases x with
  | error e => cases h
  | ok a => exact ⟨a, rfl, h⟩

/-- A check that failed is the first one, or the next one after the first passed. -/
theorem except_bind_eq_error {ε : Type} {x : Except ε α} {f : α → Except ε β} {e : ε}
    (h : (x >>= f) = .error e) : x = .error e ∨ ∃ a, x = .ok a ∧ f a = .error e := by
  cases x with
  | error e' =>
    left
    rw [Except.error.inj h]
  | ok a => exact .inr ⟨a, rfl, h⟩

/-- A check succeeds or stops, and changes nothing. -/
@[simp] theorem lift_apply (r : Except Error α) (s : S) :
    (liftM r : ExceptT Stop (StateM S) α) s = (r.mapError Stop.failed, s) := by
  cases r <;> rfl

theorem lift_eq_ok {r : Except Error α} {a : α} {s t : S}
    (h : (liftM r : ExceptT Stop (StateM S) α) s = (.ok a, t)) : r = .ok a ∧ t = s := by
  rw [lift_apply] at h
  obtain ⟨hresult, hstate⟩ := Prod.mk.inj h
  cases r with
  | error e => cases hresult
  | ok b => exact ⟨by rw [Except.ok.inj hresult], hstate.symm⟩

theorem lift_bind_of_ok {r : Except Error α} {a : α} (h : r = .ok a)
    (f : α → ExceptT Stop (StateM S) β) (s : S) :
    ((liftM r : ExceptT Stop (StateM S) α) >>= f) s = f a s := by
  rw [h]
  rfl

theorem lift_bind_of_error {r : Except Error α} {e : Error} (h : r = .error e)
    (f : α → ExceptT Stop (StateM S) β) (s : S) :
    ((liftM r : ExceptT Stop (StateM S) α) >>= f) s = (.error (.failed e), s) := by
  rw [h]
  rfl

@[simp] theorem forM_nil (f : α → ExceptT Stop (StateM S) PUnit) (s : S) :
    (([] : List α).forM f) s = (.ok (), s) := rfl

theorem forM_cons (x : α) (xs : List α) (f : α → ExceptT Stop (StateM S) PUnit) :
    (x :: xs).forM f = f x >>= fun _ => xs.forM f := rfl

theorem forM_append (xs ys : List α) (f : α → ExceptT Stop (StateM S) PUnit) :
    (xs ++ ys).forM f = xs.forM f >>= fun _ => ys.forM f := by
  induction xs with
  | nil => rfl
  | cons x xs ih => rw [List.cons_append, forM_cons, forM_cons, ih, bind_assoc]

theorem forM_congr {xs : List α} {f g : α → ExceptT Stop (StateM S) PUnit}
    (h : ∀ x ∈ xs, f x = g x) : xs.forM f = xs.forM g := by
  induction xs with
  | nil => rfl
  | cons x xs ih =>
    rw [forM_cons, forM_cons, h x List.mem_cons_self,
      ih fun y hy => h y (List.mem_cons_of_mem _ hy)]

theorem forM_map {γ : Type} (g : γ → α) (xs : List γ) (f : α → ExceptT Stop (StateM S) PUnit) :
    (xs.map g).forM f = xs.forM fun x => f (g x) := by
  induction xs with
  | nil => rfl
  | cons x xs ih => rw [List.map_cons, forM_cons, forM_cons, ih]

/-! ### Primitives -/

@[simp] theorem record_apply (act : Act) (s : Site σ E) :
    record act s = (.ok (), { s with trace := s.trace ++ [act] }) := rfl

@[simp] theorem modifyOutbox_apply (f : Outbox E → Outbox E) (s : Site σ E) :
    modifyOutbox f s = (.ok (), { s with outbox := f s.outbox }) := rfl

@[simp] theorem modifyRegistry_apply (f : Registry → Registry) (s : Site σ E) :
    modifyRegistry f s = (.ok (), { s with registry := f s.registry }) := rfl

@[simp] theorem modifyCell_apply (h : Handle) (f : Cell E → Cell E) (s : Site σ E) :
    modifyCell h f s = (.ok (), { s with workspace := s.workspace.modify h f }) := rfl

@[simp] theorem addEntity_apply (entity : E) (s : Site σ E) :
    addEntity entity s =
      (.ok (s.workspace.add entity).1, { s with workspace := (s.workspace.add entity).2 }) := rfl

/-- The error for a handle that has no cell. -/
def noCell : Stop := .failed (.invalidState "The entity is not in the workspace")

theorem cell_apply (h : Handle) (s : Site σ E) :
    cell h s = match s.workspace.cell? h with
      | some c => (.ok c, s)
      | none => (.error noCell, s) := by
  unfold cell
  rw [get_bind_apply]
  cases s.workspace.cell? h <;> rfl

theorem cell_eq_ok {h : Handle} {s t : Site σ E} {c : Cell E} (hc : cell h s = (.ok c, t)) :
    s.workspace.cell? h = some c ∧ t = s := by
  rw [cell_apply] at hc
  split at hc
  · next c' hs =>
    obtain ⟨hcc, rfl⟩ := Prod.mk.inj hc
    exact ⟨by rw [hs, Except.ok.inj hcc], rfl⟩
  · cases hc

@[simp] theorem withOutbox_apply (outbox : Outbox E) (op : Op σ E α) (s : Site σ E) :
    withOutbox outbox op s =
      ((op { s with outbox }).1, { (op { s with outbox }).2 with outbox := s.outbox }) := rfl

variable [Session σ]

theorem prepare_apply (text : String) (s : Site σ E) :
    prepare text s =
      ((Session.prepare s.session text).1,
        { s with trace := s.trace ++ [.prepared text]
                 session := (Session.prepare s.session text).2 }) := by
  unfold prepare
  rw [bind_of_ok (record_apply _ _), get_bind_apply]
  rcases Session.prepare s.session text with ⟨_ | _, _⟩ <;> rfl

theorem execute_apply (statement : Statement) (s : Site σ E) :
    execute statement s =
      ((Session.execute s.session statement).1,
        { s with trace := s.trace ++ [.executed statement]
                 session := (Session.execute s.session statement).2 }) := by
  unfold execute
  rw [bind_of_ok (record_apply _ _), get_bind_apply]
  rcases Session.execute s.session statement with ⟨_ | _, _⟩ <;> rfl

theorem executeBatch_apply (kind : BatchKind) (statements : List Statement) (level : Level)
    (s : Site σ E) :
    executeBatch kind statements level s =
      ((Session.executeBatch s.session kind statements level).1,
        { s with trace := s.trace ++ [.sentBatch kind statements level]
                 session := (Session.executeBatch s.session kind statements level).2 }) := by
  unfold executeBatch
  rw [bind_of_ok (record_apply _ _), get_bind_apply]
  rcases Session.executeBatch s.session kind statements level with ⟨_ | _, _⟩ <;> rfl

theorem executeRequest_apply (r : Request) (s : Site σ E) :
    executeRequest r s =
      ((Session.execute s.session r.statement).1,
        { s with trace := s.trace ++ [.logged (.sent r), .executed r.statement]
                 session := (Session.execute s.session r.statement).2 }) := by
  unfold executeRequest
  rw [bind_of_ok (record_apply _ _), execute_apply, List.append_assoc, List.singleton_append]

/-! ### The outbox -/

/-- Hand over a write of either kind. -/
def handOver (kind : BatchKind) (r : Request) : Op σ E (Option (List Row)) :=
  match kind with
  | .logged => push r
  | .counter => pushCounter r

theorem handOver_eq (kind : BatchKind) (r : Request) :
    (handOver kind r : Op σ E (Option (List Row))) = do
      record (.pushed kind r)
      match (← get).outbox.mode with
      | .immediate => return some (← executeRequest r)
      | .batching =>
        modifyOutbox (Outbox.keeping kind r)
        return none := by
  cases kind <;> rfl

theorem handOver_immediate (kind : BatchKind) (r : Request) {s : Site σ E}
    (h : s.outbox.mode = .immediate) :
    handOver kind r s =
      ((Session.execute s.session r.statement).1.map some, s.afterPush kind r) := by
  rw [handOver_eq, bind_of_ok (record_apply _ _), get_bind_apply]
  simp only [h]
  rw [bind_pure_apply, executeRequest_apply]
  simp [Site.afterPush]

theorem handOver_batching (kind : BatchKind) (r : Request) {s : Site σ E}
    (h : s.outbox.mode = .batching) : handOver kind r s = (.ok none, s.afterKeep kind r) := by
  rw [handOver_eq, bind_of_ok (record_apply _ _), get_bind_apply]
  simp only [h]
  rfl

/-- A write is sent at once or kept for the end of the window. -/
theorem handOver_cases (kind : BatchKind) (r : Request) (s : Site σ E) :
    (s.outbox.mode = .immediate ∧ handOver kind r s =
        ((Session.execute s.session r.statement).1.map some, s.afterPush kind r)) ∨
      (s.outbox.mode = .batching ∧ handOver kind r s = (.ok none, s.afterKeep kind r)) := by
  cases hmode : s.outbox.mode with
  | immediate => exact .inl ⟨rfl, handOver_immediate kind r hmode⟩
  | batching => exact .inr ⟨rfl, handOver_batching kind r hmode⟩

/-! ### Events -/

omit [Session σ]

theorem forM_record {α : Type} (act : α → Act) (xs : List α) (s : Site σ E) :
    (xs.forM fun x => record (act x)) s =
      (.ok (), { s with trace := s.trace ++ xs.map act }) := by
  induction xs generalizing s with
  | nil => simp
  | cons x xs ih =>
    rw [forM_cons, bind_of_ok (record_apply _ _), ih]
    simp

/-- The site after interceptors ran on the entity of a handle. -/
def afterFire (T : EntityType E) (h : Handle) (event : Event) (c : Cell E) (s : Site σ E) :
    Site σ E :=
  { s with trace := s.trace ++ (T.intercept c.entity event).1.map (.intercepted h)
           workspace := s.workspace.modify h fun cell =>
             { cell with entity := (T.intercept c.entity event).2.1 } }

theorem fire_apply (T : EntityType E) {h : Handle} (event : Event) {s : Site σ E} {c : Cell E}
    (hc : s.workspace.cell? h = some c) :
    fire T h event s =
      (match (T.intercept c.entity event).2.2 with
        | some e => .error (.failed e)
        | none => .ok (), afterFire T h event c s) := by
  have hcell : cell h s = (.ok c, s) := by rw [cell_apply, hc]
  unfold fire
  rw [bind_of_ok hcell]
  simp only
  rw [bind_of_ok (forM_record _ _ _), bind_of_ok (modifyCell_apply _ _ _)]
  cases (T.intercept c.entity event).2.2 <;> rfl

theorem fire_of_no_cell (T : EntityType E) {h : Handle} (event : Event) {s : Site σ E}
    (hc : s.workspace.cell? h = none) : fire T h event s = (.error noCell, s) := by
  unfold fire
  exact bind_of_error (by rw [cell_apply, hc]) _

/-- An event that nothing watches does nothing. -/
theorem trigger_unwatched (T : EntityType E) (h : Handle) (event : Event) (s : Site σ E)
    (hno : T.hasInterceptor event = false) : trigger T h event s = (.ok (), s) := by
  unfold trigger
  rw [hno]
  rfl

theorem trigger_immediate {T : EntityType E} (h : Handle) {event : Event} {s : Site σ E}
    (hsome : T.hasInterceptor event = true) (hmode : s.outbox.mode = .immediate) :
    trigger T h event s = fire T h event s := by
  unfold trigger
  rw [if_pos hsome, get_bind_apply, if_pos (by simp [hmode])]

theorem trigger_postLoad {T : EntityType E} (h : Handle) {s : Site σ E}
    (hsome : T.hasInterceptor .postLoad = true) :
    trigger T h .postLoad s = fire T h .postLoad s := by
  unfold trigger
  rw [if_pos hsome, get_bind_apply, if_pos (by simp)]

theorem trigger_batching {T : EntityType E} (h : Handle) {event : Event} {s : Site σ E}
    (hsome : T.hasInterceptor event = true) (hload : event ≠ .postLoad)
    (hmode : s.outbox.mode = .batching) :
    trigger T h event s = (.ok (), s.afterDefer T h event) := by
  unfold trigger
  rw [if_pos hsome, get_bind_apply, if_neg (by simp [hmode, hload])]
  rfl

/-- An event is watched by nobody, or runs its interceptors, or is put off. -/
theorem trigger_cases (T : EntityType E) (h : Handle) (event : Event) (s : Site σ E) :
    (T.hasInterceptor event = false ∧ trigger T h event s = (.ok (), s)) ∨
      trigger T h event s = fire T h event s ∨
      (s.outbox.mode = .batching ∧ trigger T h event s = (.ok (), s.afterDefer T h event)) := by
  cases hwatched : T.hasInterceptor event with
  | false => exact .inl ⟨rfl, trigger_unwatched T h event s hwatched⟩
  | true =>
    by_cases hload : event = .postLoad
    · subst hload
      exact .inr (.inl (trigger_postLoad h hwatched))
    · cases hmode : s.outbox.mode with
      | immediate => exact .inr (.inl (trigger_immediate h hwatched hmode))
      | batching => exact .inr (.inr ⟨rfl, trigger_batching h hwatched hload hmode⟩)

end WideColumn.Op
