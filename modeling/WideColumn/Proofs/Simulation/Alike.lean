import WideColumn.Proofs.Session.Replay
import WideColumn.Proofs.Simulation.Payload
import WideColumn.Proofs.Window.Pending

/-!
# Sites that only differ in when they send

Two sites are alike when one executed at once what the other holds back: their entities have the
same mapped data and the same record of changes, and what the one handed over says the same as what
is pending on the other. Two operations agree when they lead from alike sites to alike sites and
give the same outcome. Agreement is kept by everything that operations are built from, so it is
proved once for the steps.
-/

namespace WideColumn

open Op

variable {σ E : Type}

/-! ### Entities -/

/-- Two entities have the same key, attributes and counters, whichever of the types reads them. -/
def SameMapped (types : List (EntityType E)) (e e' : E) : Prop :=
  ∀ T ∈ types, T.values e' = T.values e ∧ T.key e' = T.key e ∧
    ∀ name, T.counter? e' name = T.counter? e name

namespace SameMapped

variable {types : List (EntityType E)} {e e' e'' : E}

theorem refl (e : E) : SameMapped types e e := fun _ _ => ⟨rfl, rfl, fun _ => rfl⟩

theorem symm (h : SameMapped types e e') : SameMapped types e' e := fun T hT =>
  ⟨(h T hT).1.symm, (h T hT).2.1.symm, fun name => ((h T hT).2.2 name).symm⟩

theorem trans (h : SameMapped types e e') (h' : SameMapped types e' e'') :
    SameMapped types e e'' := fun T hT =>
  ⟨(h' T hT).1.trans (h T hT).1, (h' T hT).2.1.trans (h T hT).2.1,
    fun name => ((h' T hT).2.2 name).trans ((h T hT).2.2 name)⟩

end SameMapped

/-- Writing a counter depends on the mapped data only. -/
def MappedCounters (types : List (EntityType E)) : Prop :=
  ∀ T ∈ types, ∀ e e' name counter, SameMapped types e e' →
    SameMapped types (T.setCounter e name counter) (T.setCounter e' name counter)

/-- The interceptors of the types never fail, and leave keys, attributes and counters alone. -/
structure Harmless (types : List (EntityType E)) : Prop where
  succeeds {T : EntityType E} (e : E) (event : Event) : T ∈ types →
    (T.intercept e event).2.2 = none
  keeps {T : EntityType E} (e : E) (event : Event) : T ∈ types →
    SameMapped types e (T.intercept e event).2.1

/-- Interceptors that were made for their types and change nothing are harmless. -/
theorem Harmless.of_idle {types : List (EntityType E)}
    (h : ∀ T ∈ types, ∀ i ∈ T.interceptors, i.target = T.typeName ∧
      ∀ e event, i.run e event = (e, none)) : Harmless types := by
  have hidle {T : EntityType E} {actual : String} {event : Event} {e : E}
      (is : List (Interceptor E))
      (his : ∀ i ∈ is, i.target = actual ∧ i.run e event = (e, none)) :
      (T.runInterceptors actual event is e).2 = (e, none) := by
    induction is with
    | nil => rfl
    | cons i rest ih =>
      obtain ⟨htarget, hrun⟩ := his i List.mem_cons_self
      unfold EntityType.runInterceptors
      simp only [htarget, bne_self_eq_false, Bool.false_eq_true, if_false, hrun]
      exact ih fun j hj => his j (List.mem_cons_of_mem _ hj)
  have hintercept {T : EntityType E} (hT : T ∈ types) (e : E) (event : Event) :
      (T.intercept e event).2 = (e, none) := by
    refine hidle _ fun i hi => ?_
    obtain ⟨htarget, hrun⟩ := h T hT i (List.mem_filter.1 hi).1
    exact ⟨htarget, hrun e event⟩
  constructor
  case succeeds =>
    intro T e event hT
    rw [hintercept hT]
  case keeps =>
    intro T e event hT
    rw [hintercept hT]
    exact .refl e

/-- Two cells have the same mapped data, changes and loaded properties. -/
structure SameCell (types : List (EntityType E)) (c c' : Cell E) : Prop where
  entity : SameMapped types c.entity c'.entity
  dirty : c'.dirty = c.dirty
  loaded : c'.loaded = c.loaded

namespace SameCell

variable {types : List (EntityType E)} {c c' c'' : Cell E}

theorem refl (c : Cell E) : SameCell types c c := ⟨.refl _, rfl, rfl⟩

theorem symm (h : SameCell types c c') : SameCell types c' c :=
  ⟨h.entity.symm, h.dirty.symm, h.loaded.symm⟩

theorem trans (h : SameCell types c c') (h' : SameCell types c' c'') : SameCell types c c'' :=
  ⟨h.entity.trans h'.entity, h'.dirty.trans h.dirty, h'.loaded.trans h.loaded⟩

end SameCell

/-- Two workspaces have the same cells under the same handles. -/
structure SameWorkspace (types : List (EntityType E)) (w w' : Workspace E) : Prop where
  size : w'.cells.size = w.cells.size
  cell (h : Handle) : Option.Rel (SameCell types) (w.cell? h) (w'.cell? h)

namespace SameWorkspace

variable {types : List (EntityType E)} {w w' : Workspace E}

theorem refl (w : Workspace E) : SameWorkspace types w w where
  size := rfl
  cell h := by
    cases w.cell? h with
    | none => exact .none
    | some c => exact .some (.refl c)

/-- A handle has no cell in either workspace, or the same cell in both. -/
theorem cell_cases (hw : SameWorkspace types w w') (h : Handle) :
    (w.cell? h = none ∧ w'.cell? h = none) ∨
      ∃ c c', w.cell? h = some c ∧ w'.cell? h = some c' ∧ SameCell types c c' := by
  have hrel := hw.cell h
  generalize w.cell? h = x at hrel
  generalize w'.cell? h = y at hrel
  cases hrel with
  | none => exact .inl ⟨rfl, rfl⟩
  | some hsame => exact .inr ⟨_, _, rfl, rfl, hsame⟩

theorem symm (hw : SameWorkspace types w w') : SameWorkspace types w' w where
  size := hw.size.symm
  cell h := by
    rcases hw.cell_cases h with ⟨hc, hc'⟩ | ⟨c, c', hc, hc', hsame⟩
    · rw [hc, hc']
      exact .none
    · rw [hc, hc']
      exact .some hsame.symm

theorem trans {w'' : Workspace E} (hw : SameWorkspace types w w')
    (hw' : SameWorkspace types w' w'') : SameWorkspace types w w'' where
  size := hw'.size.trans hw.size
  cell h := by
    rcases hw.cell_cases h with ⟨hc, hc'⟩ | ⟨c, c', hc, hc', hsame⟩
    · have hrest := hw'.cell h
      rw [hc'] at hrest
      rwa [hc]
    · have hrest := hw'.cell h
      rw [hc'] at hrest
      rw [hc]
      generalize w''.cell? h = x at hrest
      cases hrest with
      | some hsame' => exact .some (hsame.trans hsame')

theorem modify (hw : SameWorkspace types w w') (h : Handle) {f g : Cell E → Cell E}
    (hfg : ∀ c c', w.cell? h = some c → SameCell types c c' → SameCell types (f c) (g c')) :
    SameWorkspace types (w.modify h f) (w'.modify h g) where
  size := by
    unfold Workspace.modify
    rw [Array.size_modify, Array.size_modify, hw.size]
  cell other := by
    rw [Workspace.cell?_modify, Workspace.cell?_modify]
    by_cases heq : h = other
    · rw [if_pos heq, if_pos heq]
      rcases hw.cell_cases other with ⟨hnone, hnone'⟩ | ⟨c, c', hc, hc', hsame⟩
      · rw [hnone, hnone']
        exact .none
      · rw [hc, hc']
        exact .some (hfg c c' (heq ▸ hc) hsame)
    · rw [if_neg heq, if_neg heq]
      exact hw.cell other

/-- A change that does not show in the mapped data. -/
theorem modified (w : Workspace E) (h : Handle) {f : Cell E → Cell E}
    (hf : ∀ c, w.cell? h = some c → SameCell types c (f c)) :
    SameWorkspace types w (w.modify h f) where
  size := Array.size_modify ..
  cell other := by
    rw [Workspace.cell?_modify]
    by_cases heq : h = other
    · rw [if_pos heq]
      cases hc : w.cell? other with
      | none => exact .none
      | some c => exact .some (hf c (heq ▸ hc))
    · rw [if_neg heq]
      exact (refl w).cell other

theorem add (hw : SameWorkspace types w w') {e e' : E} (he : SameMapped types e e') :
    SameWorkspace types (w.add e).2 (w'.add e').2 where
  size := by
    unfold Workspace.add
    rw [Array.size_push, Array.size_push, hw.size]
  cell h := by
    have hrel := hw.cell h
    unfold Workspace.add Workspace.cell? at *
    rw [Array.getElem?_push, Array.getElem?_push, hw.size]
    split
    · exact .some ⟨he, rfl, rfl⟩
    · exact hrel

end SameWorkspace

/-- Harmless interceptors succeed on an entity that is there, and what they do does not show. -/
theorem Harmless.fire {types : List (EntityType E)} (hharmless : Harmless types)
    {T : EntityType E} (hT : T ∈ types) {h : Handle} (event : Event) {s : Site σ E}
    (hh : h.index < s.workspace.cells.size) :
    ∃ c, Op.fire T h event s = (.ok (), afterFire T h event c s) ∧
      SameWorkspace types s.workspace (afterFire T h event c s).workspace := by
  have hc : s.workspace.cell? h = some s.workspace.cells[h.index] := Array.getElem?_eq_getElem hh
  refine ⟨s.workspace.cells[h.index], ?_, .modified _ h fun c hc' => ?_⟩
  · rw [fire_apply T event hc, hharmless.succeeds _ event hT]
  · rw [hc] at hc'
    rw [← Option.some.inj hc']
    exact ⟨hharmless.keeps _ event hT, rfl, rfl⟩

/-! ### Sessions -/

/-- The session accepts everything, whatever is asked of it. -/
def Accepts [Session σ] (session : σ) : Prop := ∀ acts, isRefused session acts = false

namespace Accepts

variable [Session σ] {session : σ}

theorem replay (h : Accepts session) (act : Act) : Accepts (act.replay session) := fun acts => by
  have hcons := h (act :: acts)
  unfold isRefused at hcons
  exact (Bool.or_eq_false_iff.1 hcons).2

theorem act (h : Accepts session) (act : Act) : act.isRefused session = false := by
  have hcons := h [act]
  unfold isRefused at hcons
  exact (Bool.or_eq_false_iff.1 hcons).1

theorem eq_ok {α : Type} {answer : Except Stop α} (h : (!answer.isOk) = false) :
    ∃ a, answer = .ok a := by
  cases answer with
  | error e => cases h
  | ok a => exact ⟨a, rfl⟩

theorem prepare (h : Accepts session) (text : String) :
    ∃ p, (Session.prepare session text).1 = .ok p := eq_ok (h.act (.prepared text))

theorem execute (h : Accepts session) (statement : Statement) :
    ∃ rows, (Session.execute session statement).1 = .ok rows := eq_ok (h.act (.executed statement))

theorem executeBatch (h : Accepts session) (kind : BatchKind) (statements : List Statement)
    (level : Level) : (Session.executeBatch session kind statements level).1 = .ok () := by
  obtain ⟨_, hanswer⟩ := eq_ok (h.act (.sentBatch kind statements level))
  exact hanswer

/-- A script without failures accepts everything. -/
theorem of_script {s : Script} (h : s.failures = []) : Accepts s := by
  have hnone {s : Script} (h : s.failures = []) (sort : CallSort) (text : String) :
      s.failure? sort text = none := by
    unfold Script.failure?
    rw [h]
    rfl
  have hanswer (s : Script) (text : String) : (s.answer text).2.failures = s.failures := by
    unfold Script.answer
    split <;> rfl
  -- What is asked is answered without a failure, and leaves a script without failures.
  have hact (act : Act) {s : Script} (h : s.failures = []) :
      act.isRefused s = false ∧ (act.replay s).failures = [] := by
    cases act with
    | prepared text =>
      simp [Act.isRefused, Act.replay, Session.prepare, hnone h, h, Except.isOk, Except.toBool]
    | executed statement =>
      simp [Act.isRefused, Act.replay, Session.execute, hnone h, hanswer, h, Except.isOk,
        Except.toBool]
    | sentBatch kind statements level =>
      simp [Act.isRefused, Act.replay, Session.executeBatch, hnone h, h, Except.isOk,
        Except.toBool]
    | _ => exact ⟨rfl, h⟩
  intro acts
  induction acts generalizing s with
  | nil => rfl
  | cons act rest ih =>
    unfold isRefused
    rw [(hact act h).1, ih (hact act h).2]
    rfl

end Accepts

/-! ### Sites -/

variable [Session σ]

/-- The writes of both kinds that were handed to the outbox, oldest first. -/
def handedIn (acts : List Act) : List Request :=
  acts.filterMap fun
    | .pushed _ r => some r
    | _ => none

omit [Session σ] in
theorem handedIn_append (acts more : List Act) :
    handedIn (acts ++ more) = handedIn acts ++ handedIn more := List.filterMap_append

omit [Session σ] in
theorem handedIn_of_quiet {acts : List Act} (h : Quiet acts) : handedIn acts = [] := by
  rw [List.eq_nil_iff_forall_not_mem]
  intro r hr
  obtain ⟨act, hact, heq⟩ := List.mem_filterMap.1 hr
  cases act with
  | pushed kind r' =>
    have hmem := mem_pushedIn.2 hact
    rw [h.1] at hmem
    exact List.not_mem_nil hmem
  | _ => cases heq

/-- What was done since the start: every write that was handed over was executed, and says the same
as one that is pending in the outbox. -/
def Mirrored (start trace : List Act) (o : Outbox E) : Prop :=
  ∃ acts, trace = start ++ acts ∧ executedIn acts = (handedIn acts).map Request.statement ∧
    groupsIn acts = [] ∧
    ∀ kind, (o.pending kind).map Request.payload = (pushedIn kind acts).map Request.payload

namespace Mirrored

variable {start trace : List Act} {o o' : Outbox E}

omit [Session σ] in
theorem of_empty (trace : List Act) (level : Level) :
    Mirrored trace trace (.ofMode .batching level : Outbox E) :=
  ⟨[], by rw [List.append_nil], rfl, rfl, fun kind => by cases kind <;> rfl⟩

omit [Session σ] in
theorem quiet (h : Mirrored start trace o) {acts : List Act} (hquiet : Quiet acts)
    (ho : ∀ kind, o'.pending kind = o.pending kind) : Mirrored start (trace ++ acts) o' := by
  obtain ⟨earlier, rfl, hexecuted, hgroups, hpending⟩ := h
  refine ⟨earlier ++ acts, List.append_assoc .., ?_, ?_, fun kind => ?_⟩
  · rw [executedIn_append, handedIn_append, hquiet.2.2, handedIn_of_quiet hquiet, List.append_nil,
      List.append_nil, hexecuted]
  · rw [groupsIn_append, hgroups, hquiet.2.1]
    rfl
  · rw [ho, hpending, pushedIn_append, hquiet.1, List.append_nil]

omit [Session σ] in
/-- One more write. -/
theorem handed (h : Mirrored start trace o) (kind : BatchKind) {r r' : Request}
    (hr : r'.payload = r.payload)
    (ho : ∀ k, o'.pending k = o.pending k ++ if kind = k then [r'] else []) :
    Mirrored start (trace ++ [.pushed kind r, .logged (.sent r), .executed r.statement]) o' := by
  obtain ⟨earlier, rfl, hexecuted, hgroups, hpending⟩ := h
  refine ⟨_, List.append_assoc .., ?_, ?_, fun k => ?_⟩
  · rw [executedIn_append, handedIn_append, hexecuted, List.map_append]
    rfl
  · rw [groupsIn_append, hgroups]
    rfl
  · rw [ho, pushedIn_append, List.map_append, List.map_append, hpending]
    by_cases hk : kind = k
    · simp [hk, hr, pushedIn]
    · simp [hk, pushedIn]

end Mirrored

/-- The first site executed at once what the second one holds back. There are at least `n` cells,
and every event that is put off has one. -/
structure Alike (types : List (EntityType E)) (start : List Act) (n : Nat) (s t : Site σ E) :
    Prop where
  immediate : s.outbox.mode = .immediate
  batching : t.outbox.mode = .batching
  types_eq : t.types = s.types
  registry : s.registry.SameTexts t.registry
  workspace : SameWorkspace types s.workspace t.workspace
  size : n ≤ s.workspace.cells.size
  accepts : Accepts s.session
  accepts' : Accepts t.session
  mirrored : Mirrored start s.trace t.outbox
  events : ∀ d ∈ t.outbox.events, d.type ∈ types ∧ d.handle.index < s.workspace.cells.size

variable {types : List (EntityType E)} {start : List Act} {n : Nat}

theorem Alike.mono {m : Nat} {s t : Site σ E} (h : Alike types start n s t) (hle : m ≤ n) :
    Alike types start m s t := { h with size := Nat.le_trans hle h.size }

/-! ### Outcomes -/

/-- Both succeeded, with related answers, or both stopped for the same reason. -/
inductive SameOutcome {ε α β : Type} (Q : α → β → Prop) : Except ε α → Except ε β → Prop
  | ok {a : α} {b : β} : Q a b → SameOutcome Q (.ok a) (.ok b)
  | error (e : ε) : SameOutcome Q (.error e) (.error e)

theorem SameOutcome.refl {ε α : Type} (r : Except ε α) : SameOutcome (fun a b => b = a) r r := by
  cases r with
  | error e => exact .error e
  | ok a => exact .ok rfl

theorem SameOutcome.eq {ε α : Type} {r r' : Except ε α} (h : SameOutcome (fun a b => b = a) r r') :
    r' = r := by
  cases h with
  | error e => rfl
  | ok hab => rw [hab]

/-- Answers with the same image are related by it. -/
theorem SameOutcome.of_map_eq {ε α β γ : Type} {r : Except ε α} {r' : Except ε β} {f : α → γ}
    {g : β → γ} (h : r'.map g = r.map f) : SameOutcome (fun a b => g b = f a) r r' := by
  cases r with
  | error e =>
    cases r' with
    | error e' =>
      rw [Except.error.inj h]
      exact .error e
    | ok b => cases h
  | ok a =>
    cases r' with
    | error e' => cases h
    | ok b => exact .ok (Except.ok.inj h)

/-- The operations end the same on two sites, which are alike afterwards. -/
structure AgreeAt {α β : Type} (types : List (EntityType E))
    (start : List Act) (n : Nat) (Q : α → β → Prop)
    (x : Op σ E α) (y : Op σ E β) (s t : Site σ E) : Prop where
  outcome : SameOutcome Q (x s).1 (y t).1
  alike : Alike types start n (x s).2 (y t).2

/-- The operations end the same on alike sites, which stay alike. -/
def Agree {α β : Type} (types : List (EntityType E))
    (start : List Act) (n : Nat) (Q : α → β → Prop)
    (x : Op σ E α) (y : Op σ E β) : Prop :=
  ∀ s t, Alike types start n s t → AgreeAt types start n Q x y s t

/-- No demand on the answers. -/
abbrev Anything {α β : Type} (_ : α) (_ : β) : Prop := True

section

variable {α α' β β' : Type} {P : α → α' → Prop} {Q : β → β' → Prop}

theorem AgreeAt.of_eq {x : Op σ E α} {y : Op σ E α'} {s t u v : Site σ E} {rx : Except Stop α}
    {ry : Except Stop α'} (hx : x s = (rx, u)) (hy : y t = (ry, v))
    (houtcome : SameOutcome P rx ry) (halike : Alike types start n u v) :
    AgreeAt types start n P x y s t where
  outcome := by rwa [hx, hy]
  alike := by rwa [hx, hy]

theorem AgreeAt.bind {x : Op σ E α} {y : Op σ E α'} {f : α → Op σ E β} {g : α' → Op σ E β'}
    {s t : Site σ E} (hxy : AgreeAt types start n P x y s t)
    (hfg : ∀ a b, P a b → Agree types start n Q (f a) (g b)) :
    AgreeAt types start n Q (x >>= f) (y >>= g) s t := by
  obtain ⟨houtcome, halike⟩ := hxy
  rcases hx : x s with ⟨rx, u⟩
  rcases hy : y t with ⟨ry, v⟩
  rw [hx, hy] at houtcome halike
  cases houtcome with
  | error e => exact .of_eq (bind_of_error hx f) (bind_of_error hy g) (.error e) halike
  | ok hab =>
    have hrest := hfg _ _ hab u v halike
    exact .of_eq (bind_of_ok hx f) (bind_of_ok hy g) hrest.outcome hrest.alike

namespace Agree

theorem bind {x : Op σ E α} {y : Op σ E α'} {f : α → Op σ E β} {g : α' → Op σ E β'}
    (hxy : Agree types start n P x y) (hfg : ∀ a b, P a b → Agree types start n Q (f a) (g b)) :
    Agree types start n Q (x >>= f) (y >>= g) := fun s t h => (hxy s t h).bind hfg

/-- When the answers of the first parts do not matter. -/
theorem andThen {x : Op σ E α} {y : Op σ E α'} {f : α → Op σ E β} {g : α' → Op σ E β'}
    (hxy : Agree types start n Anything x y) (hfg : ∀ a b, Agree types start n Q (f a) (g b)) :
    Agree types start n Q (x >>= f) (y >>= g) := hxy.bind fun a b _ => hfg a b

theorem pure {a : α} {b : α'} (hab : P a b) :
    Agree (σ := σ) types start n P (Pure.pure a) (Pure.pure b) := fun _ _ h => ⟨.ok hab, h⟩

theorem throw (e : Stop) : Agree (σ := σ) types start n P (throw e) (throw e) :=
  fun _ _ h => ⟨.error e, h⟩

theorem lift {x : Except Error α} {y : Except Error α'} (hxy : SameOutcome P x y) :
    Agree (σ := σ) types start n P (liftM x : Op σ E α) (liftM y : Op σ E α') := by
  intro s t h
  refine .of_eq (lift_apply x s) (lift_apply y t) ?_ h
  cases hxy with
  | error e => exact .error _
  | ok hab => exact .ok hab

theorem get_bind {f : Site σ E → Op σ E β} {g : Site σ E → Op σ E β'}
    (hfg : ∀ s t, Alike types start n s t → Agree types start n Q (f s) (g t)) :
    Agree types start n Q ((get : Op σ E (Site σ E)) >>= f) ((get : Op σ E (Site σ E)) >>= g) :=
  fun s t h => ⟨(hfg s t h s t h).outcome, (hfg s t h s t h).alike⟩

/-- Runs over lists whose elements have the same images. -/
theorem forM_of_map_eq {γ : Type} {p : α → γ} {q : α' → γ} {xs : List α} {ys : List α'}
    (hxs : ys.map q = xs.map p) {f : α → Op σ E PUnit} {g : α' → Op σ E PUnit}
    (hfg : ∀ x y, q y = p x → Agree types start n Anything (f x) (g y)) :
    Agree types start n Anything (xs.forM f) (ys.forM g) := by
  induction xs generalizing ys with
  | nil =>
    rw [List.map_eq_nil_iff.1 hxs]
    exact pure trivial
  | cons x xs ih =>
    cases ys with
    | nil => cases hxs
    | cons y ys =>
      obtain ⟨hxy, hrest⟩ := List.cons.inj hxs
      exact (hfg x y hxy).andThen fun _ _ => ih hrest

theorem forM {xs : List α} {f g : α → Op σ E PUnit}
    (hfg : ∀ x ∈ xs, Agree types start n Anything (f x) (g x)) :
    Agree types start n Anything (xs.forM f) (xs.forM g) := by
  induction xs with
  | nil => exact pure trivial
  | cons x xs ih =>
    exact (hfg x List.mem_cons_self).andThen fun _ _ =>
      ih fun y hy => hfg y (List.mem_cons_of_mem _ hy)

end Agree

end

/-! ### Steps -/

namespace Agree

variable {α β : Type} {Q : α → β → Prop}

theorem cell (h : Handle) :
    Agree (σ := σ) types start n (SameCell types) (Op.cell h) (Op.cell h) := by
  intro s t halike
  rcases halike.workspace.cell_cases h with ⟨hnone, hnone'⟩ | ⟨c, c', hc, hc', hsame⟩
  · exact .of_eq (by rw [cell_apply, hnone]) (by rw [cell_apply, hnone']) (.error noCell) halike
  · exact .of_eq (by rw [cell_apply, hc]) (by rw [cell_apply, hc']) (.ok hsame) halike

theorem modifyCell (h : Handle) {f g : Cell E → Cell E}
    (hfg : ∀ c c', SameCell types c c' → SameCell types (f c) (g c')) :
    Agree (σ := σ) types start n Anything (Op.modifyCell h f) (Op.modifyCell h g) := by
  intro s t halike
  have hsize : (s.workspace.modify h f).cells.size = s.workspace.cells.size := Array.size_modify ..
  refine ⟨.ok trivial, { halike with workspace := ?_, size := ?_, events := ?_ }⟩
  · exact halike.workspace.modify h fun c c' _ => hfg c c'
  · exact hsize ▸ halike.size
  · exact hsize ▸ halike.events

/-- A new entity gets the same handle on both sites. -/
theorem addEntity_bind {e e' : E} (he : SameMapped types e e') {f : Handle → Op σ E α}
    {g : Handle → Op σ E β}
    (hfg : ∀ h, n ≤ h.index → Agree types start (h.index + 1) Q (f h) (g h)) :
    Agree types start n Q (Op.addEntity e >>= f) (Op.addEntity e' >>= g) := by
  intro s t halike
  have hhandle : (t.workspace.add e').1 = (s.workspace.add e).1 :=
    congrArg Handle.mk halike.workspace.size
  have hsize : (s.workspace.add e).2.cells.size = s.workspace.cells.size + 1 := Array.size_push ..
  have hadded : Alike types start (s.workspace.cells.size + 1)
      { s with workspace := (s.workspace.add e).2 }
      { t with workspace := (t.workspace.add e').2 } :=
    { halike with
      workspace := halike.workspace.add he
      size := Nat.le_of_eq hsize.symm
      events := fun d hd => by
        refine ⟨(halike.events d hd).1, ?_⟩
        rw [hsize]
        exact Nat.lt_succ_of_lt (halike.events d hd).2 }
  have hrest := hfg (s.workspace.add e).1 halike.size _ _ hadded
  refine .of_eq (bind_of_ok (addEntity_apply e s) f) (bind_of_ok (addEntity_apply e' t) g) ?_ ?_
  · rw [hhandle]
    exact hrest.outcome
  · rw [hhandle]
    exact hrest.alike.mono (Nat.le_succ_of_le halike.size)

/-- A write is executed on one site and kept on the other. -/
theorem handOver (kind : BatchKind) {r r' : Request} (hr : r'.payload = r.payload) :
    Agree (σ := σ) (E := E) types start n Anything (Op.handOver kind r) (Op.handOver kind r') := by
  intro s t halike
  obtain ⟨rows, hrows⟩ := halike.accepts.execute r.statement
  refine .of_eq (handOver_immediate kind r halike.immediate)
    (handOver_batching kind r' halike.batching) ?_ ?_
  · rw [hrows]
    exact .ok trivial
  · exact { halike with
      batching := (t.outbox.mode_keeping kind r').trans halike.batching
      accepts := halike.accepts.replay (.executed r.statement)
      mirrored := halike.mirrored.handed kind hr (Outbox.pending_keeping kind r' _)
      events := fun d hd => halike.events d (t.outbox.events_keeping kind r' ▸ hd) }

/-- An event runs its interceptors on one site and is put off on the other. -/
theorem trigger (hharmless : Harmless types) {T : EntityType E} (hT : T ∈ types) {h : Handle}
    (hh : h.index < n) {event : Event} (hevent : event ≠ .postLoad) :
    Agree (σ := σ) types start n Anything (Op.trigger T h event) (Op.trigger T h event) := by
  intro s t halike
  cases hwatched : T.hasInterceptor event with
  | false =>
    exact .of_eq (trigger_unwatched T h event s hwatched) (trigger_unwatched T h event t hwatched)
      (.ok trivial) halike
  | true =>
    have hlt : h.index < s.workspace.cells.size := Nat.lt_of_lt_of_le hh halike.size
    obtain ⟨c, hfire, hsame⟩ := hharmless.fire hT event hlt
    refine .of_eq ((trigger_immediate h hwatched halike.immediate).trans hfire)
      (trigger_batching h hwatched hevent halike.batching) (.ok trivial)
      { halike with workspace := ?_, size := ?_, mirrored := ?_, events := ?_ }
    · exact hsame.symm.trans halike.workspace
    · exact hsame.size ▸ halike.size
    · exact halike.mirrored.quiet (quiet_map_intercepted h _) fun kind => by cases kind <;> rfl
    · intro d hd
      rw [hsame.size]
      rcases List.mem_append.1 hd with hd | hd
      · exact halike.events d hd
      · rw [List.mem_singleton.1 hd]
        exact ⟨hT, hlt⟩

theorem modifyRegistry {f g : Registry → Registry}
    (hfg : ∀ r r', Registry.SameTexts r r' → Registry.SameTexts (f r) (g r')) :
    Agree (σ := σ) (E := E) types start n Anything (Op.modifyRegistry f) (Op.modifyRegistry g) :=
  fun _ _ halike => ⟨.ok trivial, { halike with registry := hfg _ _ halike.registry }⟩

section

variable [LawfulSession σ]

/-- A statement is prepared with the same text on both sites. -/
theorem prepare (text : String) :
    Agree (σ := σ) (E := E) types start n (fun p p' => p'.query = p.query)
      (Op.prepare text) (Op.prepare text) := by
  intro s t halike
  obtain ⟨p, hp⟩ := halike.accepts.prepare text
  obtain ⟨p', hp'⟩ := halike.accepts'.prepare text
  refine .of_eq (prepare_apply text s) (prepare_apply text t) ?_ { halike with
    accepts := halike.accepts.replay (.prepared text)
    accepts' := halike.accepts'.replay (.prepared text)
    mirrored := halike.mirrored.quiet (quiet_map_prepared [text]) fun _ => rfl }
  rw [hp, hp']
  exact .ok ((LawfulSession.query_of_prepare hp').trans (LawfulSession.query_of_prepare hp).symm)

/-- The prepared update of a set of properties has the same text on both sites. -/
theorem preparedUpdate (em : EntityMeta) (properties : List PropertyMeta) :
    Agree (σ := σ) (E := E) types start n (fun p p' => p'.query = p.query)
      (Op.preparedUpdate em properties) (Op.preparedUpdate em properties) := by
  unfold Op.preparedUpdate
  generalize StatementKey.ofProperties em.className (properties.map fun pm => pm.name) = key
  dsimp only
  refine .get_bind fun s t halike => ?_
  have hget := s.registry.updates.get_anonymous key
  rw [← halike.registry.updates, StatementCache.get_anonymous] at hget
  obtain ⟨hcached, hupdates⟩ := Prod.mk.inj hget
  generalize s.registry.updates.get key = found at hcached hupdates
  generalize t.registry.updates.get key = found' at hcached hupdates
  refine .andThen (.modifyRegistry fun r r' h => ⟨h.entities, h.sharedCounters, hupdates⟩)
    fun _ _ => ?_
  cases hfound : found.1 with
  | none =>
    cases hfound' : found'.1 with
    | none =>
      refine .bind (.prepare _) fun p p' hquery => ?_
      have hsame := Prepared.anonymous_eq_iff.2 hquery
      refine .andThen (.modifyRegistry fun r r' h => ⟨h.entities, h.sharedCounters, ?_⟩)
        fun _ _ => .pure hquery
      rw [← StatementCache.insert_anonymous, ← StatementCache.insert_anonymous, h.updates, hsame]
    | some p' =>
      rw [hfound, hfound'] at hcached
      cases hcached
  | some p =>
    cases hfound' : found'.1 with
    | none =>
      rw [hfound, hfound'] at hcached
      cases hcached
    | some p' =>
      rw [hfound, hfound'] at hcached
      exact .pure (Prepared.anonymous_eq_iff.1 (Option.some.inj hcached))

/-- An update is bound to the same text and values on both sites. -/
theorem bindUpdate {T : EntityType E} (hT : T ∈ types) (em : EntityMeta) {e e' : E}
    (he : SameMapped types e e') (properties : List PropertyMeta) {options options' : Options}
    (httl : options'.ttl = options.ttl) (level level' : Level) :
    Agree (σ := σ) types start n (fun r r' => r'.payload = r.payload)
      (Op.bindUpdate T em e properties options level)
      (Op.bindUpdate T em e' properties options' level') := by
  obtain ⟨hvalues, hkey, -⟩ := he T hT
  refine .get_bind fun s t halike => ?_
  rw [halike.registry.statements_eq em]
  refine .bind (.lift (.refl _)) fun _ _ _ => .bind (.preparedUpdate em _) fun p p' hquery => ?_
  have hbound : Registry.updateValues T em e' (properties.mergeSort fun a b =>
      decide (a.name ≤ b.name)) options' =
        Registry.updateValues T em e (properties.mergeSort fun a b => decide (a.name ≤ b.name))
          options := by
    unfold Registry.updateValues Registry.updateValue EntityType.value? ttlValue
    rw [hvalues, hkey, httl]
  rw [hbound]
  refine .bind (.lift (.refl _)) fun values values' heq => .pure ?_
  rw [heq]
  exact Prod.ext hquery rfl

end

end Agree

end WideColumn
