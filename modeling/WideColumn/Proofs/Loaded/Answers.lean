import WideColumn.Proofs.Marker.Binding
import WideColumn.Proofs.Rejection.Rejected

/-!
# What was read

Which statements a session answered in a run, and with which rows, is found again from the session
before the run and from the acts of the run (`answersIn`). An answer reads an attribute of an entity
when its statement is the one that the library binds for that: the read of the row of the key, for
the attributes that it fills in, or the read of the attribute alone (`Answer.Fetches`).
-/

namespace WideColumn

open Op

variable {σ E : Type}

/-- A statement that was executed, and the rows that the session answered. -/
structure Answer where
  statement : Statement
  rows : List Row

section

variable [Session σ]

/-- The answer to an act, if the session accepted it. -/
def Act.answer? (session : σ) : Act → Option Answer
  | .executed statement =>
    match (Session.execute session statement).1 with
    | .ok rows => some ⟨statement, rows⟩
    | .error _ => none
  | _ => none

/-- The answers in a run, oldest first. -/
def answersIn (session : σ) : List Act → List Answer
  | [] => []
  | act :: rest => (act.answer? session).toList ++ answersIn (act.replay session) rest

theorem answersIn_append (session : σ) (acts more : List Act) :
    answersIn session (acts ++ more) =
      answersIn session acts ++ answersIn (replay session acts) more := by
  induction acts generalizing session with
  | nil => rfl
  | cons act rest ih =>
    rw [List.cons_append, answersIn, answersIn, ih, List.append_assoc]
    rfl

/-- The answers on the way from one site to another. -/
def answersTo (s t : Site σ E) : List Answer :=
  answersIn s.session (t.trace.drop s.trace.length)

theorem answersTo_of_trace {s t : Site σ E} {acts : List Act} (h : t.trace = s.trace ++ acts) :
    answersTo s t = answersIn s.session acts := by
  unfold answersTo
  rw [acts_eq h]

/-- Answers on the way to a site, and on the way on from there. -/
theorem Faithful.answersTo_trans {s t u : Site σ E} (hst : Faithful s t) (htu : Faithful t u) :
    answersTo s u = answersTo s t ++ answersTo t u := by
  obtain ⟨acts, ht, hsession⟩ := hst
  obtain ⟨more, hu, -⟩ := htu
  rw [answersTo_of_trace ht, answersTo_of_trace hu, hsession, ← answersIn_append]
  exact answersTo_of_trace (by rw [hu, ht, List.append_assoc])

/-- A read that succeeds is answered. -/
theorem answersTo_executeRequest {s t : Site σ E} {r : Request} {rows : List Row}
    (h : executeRequest r s = (.ok rows, t)) : answersTo s t = [⟨r.statement, rows⟩] := by
  rw [executeRequest_apply] at h
  obtain ⟨hrows, rfl⟩ := Prod.mk.inj h
  have htrace : s.trace ++ [.logged (.sent r), .executed r.statement] =
      s.trace ++ [.logged (.sent r), .executed r.statement] := rfl
  rw [answersTo_of_trace htrace]
  simp [answersIn, Act.answer?, Act.replay, hrows]

end

/-! ### Statements -/

/-- What reads the row of a key. -/
def EntityMeta.rowRead (em : EntityMeta) (key : List Value) : Binding E :=
  if em.isClusteredCounter then .rowSelect key else .select key

/-- What reads one counter of a key. -/
def EntityMeta.counterRead (em : EntityMeta) (pm : PropertyMeta) (key : List Value) : Binding E :=
  if em.isClusteredCounter then .clusteredSelect pm key else .sharedSelect pm key

/-- The statement has the values of the slots, and the text of a template for the class, or for a
registered type with the same class name. -/
structure Statement.Asks (statement : Statement) (types : List (String × EntityMeta))
    (T : EntityType E) (em : EntityMeta) (binding : Binding E) : Prop where
  values : statement.values.map .ok = (binding.slots T em).map Slot.value
  text : ∃ em', (em' = em ∨ ∃ name, (name, em') ∈ types) ∧ em'.className = em.className ∧
    binding.Says em' statement.query

/-- The statement that reads the attribute alone was answered. -/
inductive Answer.Fetches (types : List (String × EntityMeta)) (T : EntityType E) (em : EntityMeta)
    (key : List Value) (name : String) (a : Answer) : Prop
  | field {pm : PropertyMeta} : pm ∈ em.onDemand → pm.name = name →
      a.statement.Asks types T em (.selectField pm key) → Fetches types T em key name a
  | counter {pm : PropertyMeta} : pm ∈ em.counters → pm.name = name →
      a.statement.Asks types T em (em.counterRead pm key) → Fetches types T em key name a

/-- The attribute was read. -/
inductive Answer.Reads (types : List (String × EntityMeta)) (T : EntityType E) (em : EntityMeta)
    (key : List Value) (name : String) (a : Answer) : Prop
  /-- A row of the key was found, and fills in the attribute. -/
  | row : name ∈ em.eagerlyLoaded → a.rows ≠ [] →
      a.statement.Asks types T em (em.rowRead key) → Reads types T em key name a
  | own : a.Fetches types T em key name → Reads types T em key name a

section

variable {r : Registry} {types : List (String × EntityMeta)} {c : Call E} {key : List Value}
  {request : Request}

theorem Statement.asks_of_fromRegistry {T : EntityType E} {em : EntityMeta} (binding : Binding E)
    (level : Level) (hr : r.Sound types) (hlawful : binding.Lawful T em)
    (h : binding.fromRegistry r T em level = .ok [request]) :
    request.statement.Asks types T em binding where
  values := (Binding.values_of_fromRegistry hlawful h (List.mem_singleton_self request)).2
  text := by
    rw [Request.query_statement]
    exact Binding.says_of_fromRegistry hr h (List.mem_singleton_self request)

/-- What a load binds reads the row. -/
theorem Call.asks_of_readRequest (hr : r.Sound types) (h : c.readRequest r key = .ok request) :
    request.statement.Asks types c.type c.entityMeta (c.entityMeta.rowRead key) := by
  refine Statement.asks_of_fromRegistry _ (Levels.read c.options c.entityMeta) hr ?_ ?_
  · unfold EntityMeta.rowRead
    split <;> trivial
  · unfold readRequest at h
    unfold EntityMeta.rowRead
    split at h
    · next hclustered =>
      rw [if_pos hclustered]
      exact congrArg Binding.single h
    · next hplain =>
      rw [if_neg hplain]
      exact congrArg Binding.single h

/-- What a read on demand binds fetches the property. -/
theorem Answer.fetches_of_bindSelectField {T : EntityType E} {em : EntityMeta} {pm : PropertyMeta}
    {level : Level} (hr : r.Sound types) (hpm : pm ∈ em.onDemand)
    (h : r.bindSelectField em pm key level = .ok request) (rows : List Row) :
    (Answer.mk request.statement rows).Fetches types T em key pm.name :=
  .field hpm rfl (Statement.asks_of_fromRegistry (.selectField pm key) level
    hr trivial (congrArg Binding.single h))

/-- What the read of a counter binds fetches the counter. -/
theorem Answer.fetches_of_readCounterRequest {pm : PropertyMeta} (hr : r.Sound types)
    (hpm : pm ∈ c.entityMeta.counters) (h : c.readCounterRequest r pm key = .ok request)
    (rows : List Row) :
    (Answer.mk request.statement rows).Fetches types c.type c.entityMeta key pm.name := by
  refine .counter hpm rfl (Statement.asks_of_fromRegistry
    _ (Levels.readProperty c.options pm c.entityMeta) hr ?_ ?_)
  · unfold EntityMeta.counterRead
    split <;> trivial
  · unfold Call.readCounterRequest at h
    unfold EntityMeta.counterRead
    dsimp only at h
    split at h
    · next hclustered =>
      rw [if_pos hclustered]
      exact congrArg Binding.single h
    · next hshared =>
      rw [if_neg hshared]
      exact congrArg Binding.single h

end

end WideColumn
