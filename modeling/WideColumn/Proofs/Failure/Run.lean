import WideColumn.Proofs.Session.Replay

/-!
# Runs that end with the first refusal

A run halts when the first call that the session refuses is the last thing that is done, and the
reason of the refusal is the outcome (`Halts`). Up to there a run does the same with any session
that gives the same answers, so what was done is how every such run begins. Operations halt because
whatever they are built from does: a sequence halts when both parts do (`Halts.bind`).
-/

namespace WideColumn

open Op

variable {σ E S α β : Type} [Session σ]

/-! ### Refusals -/

/-- Why an answer is none. -/
def stop? {α : Type} : Except Stop α → Option Stop
  | .error e => some e
  | .ok _ => none

/-- Why the session refuses what an act asks of it. -/
def Act.refusal? (session : σ) : Act → Option Stop
  | .prepared text => stop? (Session.prepare session text).1
  | .executed statement => stop? (Session.execute session statement).1
  | .sentBatch kind statements level =>
    stop? (Session.executeBatch session kind statements level).1
  | _ => none

theorem Act.isRefused_eq_isSome (session : σ) (act : Act) :
    act.isRefused session = (act.refusal? session).isSome := by
  have heq {α : Type} (answer : Except Stop α) : (!answer.isOk) = (stop? answer).isSome := by
    cases answer <;> rfl
  cases act with
  | prepared text => exact heq _
  | executed statement => exact heq _
  | sentBatch kind statements level => exact heq _
  | _ => rfl

/-- The session refuses the last of the acts for the given reason, and none before. -/
def CutShort (session : σ) (acts : List Act) (e : Stop) : Prop :=
  ∃ before call, acts = before ++ [call] ∧ isRefused session before = false ∧
    call.refusal? (replay session before) = some e

/-- What is cut short after a run without refusals is cut short as a whole. -/
theorem CutShort.after {session : σ} {acts more : List Act} {e : Stop}
    (haccepted : isRefused session acts = false) (h : CutShort (replay session acts) more e) :
    CutShort session (acts ++ more) e := by
  obtain ⟨before, call, rfl, hbefore, hcall⟩ := h
  refine ⟨acts ++ before, call, (List.append_assoc ..).symm, ?_, ?_⟩
  · rw [isRefused_append, haccepted, hbefore, Bool.or_false]
  · rwa [replay_append]

theorem isRefused_of_refusal {session : σ} {before after : List Act} {call : Act} {e : Stop}
    (h : call.refusal? (replay session before) = some e) :
    isRefused session (before ++ call :: after) = true := by
  rw [isRefused_append, isRefused, Act.isRefused_eq_isSome, h]
  simp

/-- A run that is cut short was refused once, at its end. -/
theorem CutShort.refused_last {session : σ} {before after : List Act} {call : Act} {e e' : Stop}
    (h : CutShort session (before ++ call :: after) e)
    (hcall : call.refusal? (replay session before) = some e') : e' = e ∧ after = [] := by
  obtain ⟨init, last, heq, haccepted, hlast⟩ := h
  rcases List.eq_nil_or_concat after with rfl | ⟨rest, act, rfl⟩
  · obtain ⟨rfl, hsame⟩ := List.append_inj' heq rfl
    rw [List.singleton_inj.1 hsame, hlast] at hcall
    exact ⟨(Option.some.inj hcall).symm, rfl⟩
  · have hinit : before ++ call :: rest = init := by
      have heq : (before ++ call :: rest) ++ [act] = init ++ [last] := by simpa using heq
      exact (List.append_inj' heq rfl).1
    rw [← hinit, isRefused_of_refusal hcall] at haccepted
    cases haccepted

/-- Acts that ask nothing of any session are not refused, and leave it as it is. -/
theorem idle_of_forall (session : σ) {acts : List Act} (h : ∀ act ∈ acts, ∀ session : σ,
    act.isRefused session = false ∧ act.replay session = session) :
    isRefused session acts = false ∧ replay session acts = session := by
  induction acts with
  | nil => exact ⟨rfl, rfl⟩
  | cons act rest ih =>
    obtain ⟨hrefused, hreplay⟩ := h act List.mem_cons_self session
    obtain ⟨hrest, hafter⟩ := ih fun other hother => h other (List.mem_cons_of_mem _ hother)
    refine ⟨?_, ?_⟩
    · rw [isRefused, hrefused, hreplay, hrest, Bool.or_false]
    · rw [replay, List.foldl_cons, hreplay]
      exact hafter

/-! ### Sessions that answer alike -/

/-- Related sessions answer alike for as long as the first one refuses nothing. What the second one
answers to a call that the first one refuses does not matter. -/
structure Echoes (R : σ → σ → Prop) : Prop where
  prepare {x y : σ} {text : String} {p : Prepared} : R x y →
    (Session.prepare x text).1 = .ok p →
      (Session.prepare y text).1 = .ok p ∧ R (Session.prepare x text).2 (Session.prepare y text).2
  execute {x y : σ} {statement : Statement} {rows : List Row} : R x y →
    (Session.execute x statement).1 = .ok rows →
      (Session.execute y statement).1 = .ok rows ∧
        R (Session.execute x statement).2 (Session.execute y statement).2
  executeBatch {x y : σ} {kind : BatchKind} {statements : List Statement} {level : Level} :
    R x y → (Session.executeBatch x kind statements level).1 = .ok () →
      (Session.executeBatch y kind statements level).1 = .ok () ∧
        R (Session.executeBatch x kind statements level).2
          (Session.executeBatch y kind statements level).2

/-! ### Halting -/

/-- States that have a site in them, with a session that can be exchanged. -/
class Sited (S : Type) (σ E : outParam Type) where
  site : S → Site σ E
  withSession : S → σ → S
  site_withSession (s : S) (session : σ) : site (withSession s session) = { site s with session }

export Sited (site withSession site_withSession)

instance : Sited (Site σ E) σ E where
  site s := s
  withSession s session := { s with session }
  site_withSession _ _ := rfl

instance : Sited (Batching σ E) σ E where
  site := Batching.site
  withSession b session := { b with site.session := session }
  site_withSession _ _ := rfl

/-- How a run of an operation ends after the given acts. Either nothing was refused, and with a
session that answers alike the operation does and answers the same. Or the run is cut short, and
with such a session the operation begins with the same acts. -/
inductive Ending [Sited S σ E] (R : σ → σ → Prop) (op : ExceptT Stop (StateM S) α) (s : S)
    (acts : List Act) : Prop
  | accepted : isRefused (site s).session acts = false →
      (∀ y, R (site s).session y → ∃ y', R (site (op s).2).session y' ∧
        op (withSession s y) = ((op s).1, withSession (op s).2 y')) → Ending R op s acts
  | cut {e : Stop} : (op s).1 = .error e → CutShort (site s).session acts e →
      (∀ y, R (site s).session y → ∃ more,
        (site (op (withSession s y)).2).trace = (site s).trace ++ acts ++ more) →
      Ending R op s acts

/-- A run of an operation, with its acts. -/
structure HaltsWith [Sited S σ E] (R : σ → σ → Prop) (op : ExceptT Stop (StateM S) α) (s : S)
    (acts : List Act) : Prop where
  trace : (site (op s).2).trace = (site s).trace ++ acts
  session : (site (op s).2).session = replay (site s).session acts
  ending : Ending R op s acts

/-- Every run of the operation ends with the first refusal, if there is one. -/
def Halts [Sited S σ E] (R : σ → σ → Prop) (op : ExceptT Stop (StateM S) α) : Prop :=
  ∀ s, ∃ acts, HaltsWith R op s acts

namespace Halts

section

variable [Sited S σ E] {R : σ → σ → Prop}

/-- An operation that asks nothing of the session, and does not look at it. -/
theorem of_silent {op : ExceptT Stop (StateM S) α} (acts : S → List Act)
    (htrace : ∀ s, (site (op s).2).trace = (site s).trace ++ acts s)
    (hsession : ∀ s, (site (op s).2).session = (site s).session)
    (hacts : ∀ s, ∀ act ∈ acts s, ∀ session : σ,
      act.isRefused session = false ∧ act.replay session = session)
    (hblind : ∀ s y, op (withSession s y) = ((op s).1, withSession (op s).2 y)) : Halts R op := by
  intro s
  obtain ⟨hrefused, hreplay⟩ := idle_of_forall (site s).session (hacts s)
  refine ⟨acts s, htrace s, ?_, .accepted hrefused fun y hy => ⟨y, ?_, hblind s y⟩⟩
  · rw [hsession, hreplay]
  · rwa [hsession]

/-- An operation that leaves the site as it is, and does not look at its session. -/
theorem of_still {op : ExceptT Stop (StateM S) α} (hsite : ∀ s, site (op s).2 = site s)
    (hblind : ∀ s y, op (withSession s y) = ((op s).1, withSession (op s).2 y)) : Halts R op :=
  of_silent (fun _ => []) (fun s => by rw [hsite, List.append_nil]) (fun s => by rw [hsite])
    (fun _ _ hact => nomatch hact) hblind

theorem pure (a : α) : Halts R (Pure.pure a : ExceptT Stop (StateM S) α) :=
  of_still (fun _ => rfl) fun _ _ => rfl

theorem throw (e : Stop) : Halts R (throw e : ExceptT Stop (StateM S) α) :=
  of_still (fun _ => rfl) fun _ _ => rfl

theorem lift (x : Except Error α) : Halts R (liftM x : ExceptT Stop (StateM S) α) :=
  of_still (fun s => by rw [lift_apply]) fun s y => by rw [lift_apply, lift_apply]

/-- What is done next may look at the state, but not at its session. -/
theorem get_bind {f : S → ExceptT Stop (StateM S) α} (hblind : ∀ s y, f (withSession s y) = f s)
    (hf : ∀ s, Halts R (f s)) : Halts R ((get : ExceptT Stop (StateM S) S) >>= f) := by
  intro s
  obtain ⟨acts, hrun⟩ := hf s s
  refine ⟨acts, hrun.trace, hrun.session, ?_⟩
  have hother (y : σ) : ((get : ExceptT Stop (StateM S) S) >>= f) (withSession s y) =
      f s (withSession s y) := by rw [get_bind_apply, hblind]
  cases hrun.ending with
  | accepted hrefused hsame =>
    exact .accepted hrefused fun y hy => by
      rw [hother]
      exact hsame y hy
  | cut he hcut hmore =>
    exact .cut he hcut fun y hy => by
      rw [hother]
      exact hmore y hy

/-- With whatever session, a sequence has done what its first part did. -/
theorem trace_bind {x : ExceptT Stop (StateM S) α} {f : α → ExceptT Stop (StateM S) β}
    (hf : ∀ a, Halts R (f a)) {s : S} {trace : List Act}
    (hx : ∃ more, (site (x s).2).trace = trace ++ more) :
    ∃ more, (site ((x >>= f) s).2).trace = trace ++ more := by
  obtain ⟨more, hmore⟩ := hx
  rcases hrun : x s with ⟨e | a, t⟩
  · rw [hrun] at hmore
    rw [bind_of_error hrun]
    exact ⟨more, hmore⟩
  · rw [hrun] at hmore
    obtain ⟨acts, hrest⟩ := hf a t
    rw [bind_of_ok hrun, hrest.trace, hmore]
    exact ⟨more ++ acts, List.append_assoc ..⟩

/-- The first part stopped, so that nothing else was done. -/
theorem bind_of_stopped {x : ExceptT Stop (StateM S) α} {f : α → ExceptT Stop (StateM S) β}
    (hf : ∀ a, Halts R (f a)) {s t : S} {acts : List Act} {e : Stop} (hx : HaltsWith R x s acts)
    (hrun : x s = (.error e, t)) : HaltsWith R (x >>= f) s acts := by
  have hbind := bind_of_error hrun f
  refine ⟨?_, ?_, ?_⟩
  · rw [hbind, ← hx.trace, hrun]
  · rw [hbind, ← hx.session, hrun]
  · cases hx.ending with
    | accepted hrefused hsame =>
      refine .accepted hrefused fun y hy => ?_
      obtain ⟨y', hy', hx'⟩ := hsame y hy
      rw [hrun] at hx' hy'
      rw [hbind]
      exact ⟨y', hy', bind_of_error hx' f⟩
    | cut he hcut hmore =>
      rw [hrun] at he
      obtain rfl := Except.error.inj he
      exact .cut (by rw [hbind]) hcut fun y hy => trace_bind hf (hmore y hy)

/-- The first part succeeded, so that nothing was refused and the second part decides. -/
theorem bind_of_done {x : ExceptT Stop (StateM S) α} {f : α → ExceptT Stop (StateM S) β}
    {s t : S} {acts more : List Act} {a : α} (hx : HaltsWith R x s acts) (hrun : x s = (.ok a, t))
    (hf : HaltsWith R (f a) t more) : HaltsWith R (x >>= f) s (acts ++ more) := by
  have hbind := bind_of_ok hrun f
  have htrace : (site t).trace = (site s).trace ++ acts := by rw [← hx.trace, hrun]
  have hsession : (site t).session = replay (site s).session acts := by rw [← hx.session, hrun]
  cases hx.ending with
  | cut he _ _ =>
    rw [hrun] at he
    cases he
  | accepted hrefused hsame =>
    refine ⟨?_, ?_, ?_⟩
    · rw [hbind, hf.trace, htrace, List.append_assoc]
    · rw [hbind, hf.session, hsession, replay_append]
    · cases hf.ending with
      | accepted hrefused' hsame' =>
        refine .accepted ?_ fun y hy => ?_
        · rw [isRefused_append, hrefused, ← hsession, hrefused', Bool.or_false]
        · obtain ⟨y', hy', hx'⟩ := hsame y hy
          rw [hrun] at hx' hy'
          obtain ⟨z, hz, hf'⟩ := hsame' y' hy'
          rw [hbind]
          exact ⟨z, hz, (bind_of_ok hx' f).trans hf'⟩
      | cut he hcut hmore =>
        refine .cut (by rw [hbind]; exact he) ?_ fun y hy => ?_
        · rw [hsession] at hcut
          exact hcut.after hrefused
        · obtain ⟨y', hy', hx'⟩ := hsame y hy
          rw [hrun] at hx' hy'
          obtain ⟨rest, hend⟩ := hmore y' hy'
          refine ⟨rest, ?_⟩
          rw [bind_of_ok hx' f, hend, htrace]
          simp

theorem bind {x : ExceptT Stop (StateM S) α} {f : α → ExceptT Stop (StateM S) β}
    (hx : Halts R x) (hf : ∀ a, Halts R (f a)) : Halts R (x >>= f) := by
  intro s
  obtain ⟨acts, hfirst⟩ := hx s
  rcases hrun : x s with ⟨e | a, t⟩
  · exact ⟨acts, bind_of_stopped hf hfirst hrun⟩
  · obtain ⟨more, hrest⟩ := hf a t
    exact ⟨acts ++ more, bind_of_done hfirst hrun hrest⟩

theorem forM {xs : List α} {f : α → ExceptT Stop (StateM S) PUnit}
    (hf : ∀ x, Halts R (f x)) : Halts R (xs.forM f) := by
  induction xs with
  | nil => exact Halts.pure _
  | cons x xs ih =>
    rw [forM_cons]
    exact (hf x).bind fun _ => ih

theorem mapM {xs : List α} {f : α → ExceptT Stop (StateM S) β}
    (hf : ∀ x, Halts R (f x)) : Halts R (xs.mapM f) := by
  induction xs with
  | nil =>
    rw [List.mapM_nil]
    exact Halts.pure _
  | cons x xs ih =>
    rw [List.mapM_cons]
    exact (hf x).bind fun _ => ih.bind fun _ => Halts.pure _

/-- Leaving out the answer. -/
theorem discard {op : ExceptT Stop (StateM S) α} (h : Halts R op) :
    Halts R (do let _ ← op : ExceptT Stop (StateM S) Unit) := h.bind fun _ => Halts.pure _

end

/-! ### Calls of the session -/

variable {R : σ → σ → Prop}

/-- A call of the session: the act is recorded, and its answer is the outcome. -/
theorem of_call {op : Op σ E α} (act : Act) (ask : σ → Except Stop α × σ)
    (hop : ∀ s : Site σ E, op s =
      ((ask s.session).1, { s with trace := s.trace ++ [act], session := (ask s.session).2 }))
    (hrefusal : ∀ session, act.refusal? session = stop? (ask session).1)
    (hreplay : ∀ session, act.replay session = (ask session).2)
    (hecho : ∀ {x y a}, R x y → (ask x).1 = .ok a → (ask y).1 = .ok a ∧ R (ask x).2 (ask y).2) :
    Halts R op := by
  intro s
  refine ⟨[act], by rw [hop]; rfl, ?_, ?_⟩
  · rw [hop]
    exact (hreplay s.session).symm
  · cases hanswer : (ask s.session).1 with
    | ok a =>
      refine .accepted ?_ fun y hy => ?_
      · simp only [isRefused, Act.isRefused_eq_isSome, hrefusal, Bool.or_false]
        show (stop? (ask s.session).1).isSome = false
        rw [hanswer]
        rfl
      · obtain ⟨hother, hrelated⟩ := hecho hy hanswer
        rw [hop, hop]
        refine ⟨(ask y).2, hrelated, ?_⟩
        show ((ask y).1, _) = ((ask s.session).1, _)
        rw [hother, hanswer]
        rfl
    | error e =>
      have hcut : CutShort s.session [act] e := by
        refine ⟨[], act, rfl, rfl, ?_⟩
        show act.refusal? s.session = some e
        rw [hrefusal, hanswer]
        rfl
      refine .cut ?_ hcut fun y _ => ⟨[], ?_⟩
      · rw [hop]
        exact hanswer
      · rw [hop, List.append_nil]
        rfl

variable (hR : Echoes R)
include hR

theorem prepare (text : String) : Halts R (Op.prepare text : Op σ E Prepared) :=
  of_call (.prepared text) (fun session => Session.prepare session text)
    (prepare_apply text) (fun _ => rfl) (fun _ => rfl) hR.prepare

theorem execute (statement : Statement) : Halts R (Op.execute statement : Op σ E (List Row)) :=
  of_call (.executed statement) (fun session => Session.execute session statement)
    (execute_apply statement) (fun _ => rfl) (fun _ => rfl) hR.execute

theorem executeBatch (kind : BatchKind) (statements : List Statement) (level : Level) :
    Halts R (Op.executeBatch kind statements level : Op σ E Unit) :=
  of_call (.sentBatch kind statements level)
    (fun session => Session.executeBatch session kind statements level)
    (executeBatch_apply kind statements level) (fun _ => rfl) (fun _ => rfl) hR.executeBatch

end Halts

end WideColumn
