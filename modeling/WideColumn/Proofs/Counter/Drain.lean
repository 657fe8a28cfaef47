import WideColumn.Proofs.Meta.Rules

/-!
# Draining counters

Taking the queued deltas off the cells of an entity gives, counter by counter in declared order,
what was queued on the cell, and leaves every one of these cells with nothing queued. The laws that
this rests on are those of cells: what is put into a cell is what is found there, and nowhere else.
-/

namespace WideColumn

variable {E : Type}

namespace EntityType

/-- The cells of an entity are cells. -/
structure LawfulCounters (T : EntityType E) : Prop where
  counter?_setCounter {entity : E} {name : String} {old new : Counter} :
    T.counter? entity name = some old → T.counter? (T.setCounter entity name new) name = some new
  counter?_setCounter_of_ne {entity : E} {name other : String} (new : Counter) :
    name ≠ other → T.counter? (T.setCounter entity name new) other = T.counter? entity other

/-- The interceptors of a class leave the counter cells alone. -/
def KeepsCounters (T : EntityType E) : Prop :=
  ∀ entity event name, T.counter? (T.intercept entity event).2.1 name = T.counter? entity name

/-- Interceptors that each leave the counter cells alone do so together. -/
theorem keepsCounters_of_interceptors {T : EntityType E}
    (h : ∀ i ∈ T.interceptors, ∀ entity event name,
      T.counter? (i.run entity event).1 name = T.counter? entity name) : T.KeepsCounters := by
  have hrun (actual : String) (event : Event) (is : List (Interceptor E))
      (his : ∀ i ∈ is, i ∈ T.interceptors) (entity : E) (name : String) :
      T.counter? (T.runInterceptors actual event is entity).2.1 name = T.counter? entity name := by
    induction is generalizing entity with
    | nil => rfl
    | cons i rest ih =>
      have hi := h i (his i List.mem_cons_self) entity event name
      have hrest := ih fun j hj => his j (List.mem_cons_of_mem _ hj)
      unfold runInterceptors
      split
      · rfl
      · rcases hanswer : i.run entity event with ⟨after, _ | e⟩
        · rw [hanswer] at hi
          exact (hrest after).trans hi
        · rw [hanswer] at hi
          exact hi
  intro entity event name
  exact hrun _ _ _ (fun i hi => (List.mem_filter.1 hi).1) entity name

/-- The deltas that are queued on a cell; an entity without the cell has none. -/
def pending (T : EntityType E) (entity : E) (name : String) : List Int :=
  ((T.counter? entity name).map Counter.pending).getD []

end EntityType

namespace Call

variable {T : EntityType E}

/-- The deltas to be sent for an entity: counter by counter in declared order, for each in the order
in which they were queued, without those that change nothing. -/
def queued (T : EntityType E) (properties : List PropertyMeta) (entity : E) :
    List (PropertyMeta × Int) :=
  properties.flatMap fun pm =>
    ((T.pending entity pm.name).filter (· != 0)).map fun delta => (pm, delta)

/-- The deltas that were taken off, one by one. -/
def flatten (drained : List (PropertyMeta × List Int)) : List (PropertyMeta × Int) :=
  drained.flatMap fun x => (x.2.filter (· != 0)).map fun delta => (x.1, delta)

theorem fst_takePending (counter : Counter) : counter.takePending.1 = counter.pending := by
  unfold Counter.takePending
  split
  · next h => exact (List.isEmpty_iff.1 h).symm
  · rfl

theorem pending_snd_takePending (counter : Counter) : counter.takePending.2.pending = [] := by
  unfold Counter.takePending
  split
  · next h => exact List.isEmpty_iff.1 h
  · rfl

/-- Draining one cell leaves the others alone. -/
theorem counter?_drainCounter (hT : T.LawfulCounters) {name : String} {entity after : E}
    {deltas : List Int} (h : drainCounter T name entity = some (deltas, after)) :
    deltas = T.pending entity name ∧ T.pending after name = [] ∧
      ∀ other, name ≠ other → T.counter? after other = T.counter? entity other := by
  obtain ⟨counter, hcounter, heq⟩ := Option.map_eq_some_iff.1 h
  have hpair : (counter.takePending.1, T.setCounter entity name counter.takePending.2) =
      (deltas, after) := heq
  obtain ⟨rfl, rfl⟩ := Prod.mk.inj hpair
  refine ⟨?_, ?_, fun _ => hT.counter?_setCounter_of_ne _⟩
  · simp [EntityType.pending, hcounter, fst_takePending]
  · simp [EntityType.pending, hT.counter?_setCounter hcounter, pending_snd_takePending]

/-- Draining gives what was queued, in order, and leaves nothing queued. -/
theorem drainCounters_spec (hT : T.LawfulCounters) {properties : List PropertyMeta}
    (hnames : DistinctNames properties) (entity : E) :
    flatten (drainCounters T properties entity).1 = queued T properties entity ∧
      ∀ name, T.pending (drainCounters T properties entity).2 name =
        if name ∈ properties.map (fun pm => pm.name) then [] else T.pending entity name := by
  induction properties generalizing entity with
  | nil => exact ⟨rfl, fun name => by simp [drainCounters]⟩
  | cons pm rest ih =>
    obtain ⟨hfresh, hrest⟩ := List.nodup_cons.1 hnames
    unfold drainCounters
    cases hdrain : drainCounter T pm.name entity with
    | none =>
      have hnone : T.counter? entity pm.name = none := by
        simpa [drainCounter] using hdrain
      have hempty : T.pending entity pm.name = [] := by simp [EntityType.pending, hnone]
      obtain ⟨hflat, hpending⟩ := ih hrest entity
      refine ⟨?_, fun name => ?_⟩
      · rw [hflat]
        simp [queued, hempty]
      · rw [hpending]
        by_cases hname : name = pm.name
        · subst hname
          simp [hempty]
        · simp [hname]
    | some drained =>
      obtain ⟨deltas, after⟩ := drained
      obtain ⟨hflat, hpending⟩ := ih hrest after
      obtain ⟨hdeltas, hdone, hcells⟩ := counter?_drainCounter hT hdrain
      -- The cells still to be drained are as they were.
      have hothers (other : String) (hne : pm.name ≠ other) :
          T.pending after other = T.pending entity other := by
        simp [EntityType.pending, hcells other hne]
      refine ⟨?_, fun name => ?_⟩
      · have hqueued : queued T rest after = queued T rest entity := by
          unfold queued
          rw [List.flatMap_def, List.flatMap_def]
          congr 1
          apply List.map_congr_left
          intro other hother
          rw [hothers]
          intro heq
          exact hfresh (List.mem_map.2 ⟨other, hother, heq.symm⟩)
        show flatten ((pm, deltas) :: (drainCounters T rest after).1) = queued T (pm :: rest) entity
        unfold flatten at hflat ⊢
        rw [List.flatMap_cons, hflat, hqueued, hdeltas]
        rfl
      · show T.pending (drainCounters T rest after).2 name = _
        rw [hpending]
        by_cases hname : name = pm.name
        · subst hname
          simp [hfresh, hdone]
        · rw [hothers name (Ne.symm hname)]
          simp [hname]

end Call

end WideColumn
