import WideColumn.Proofs.Rejection.Effects

/-!
# Rejections

A rejection is an error of the library about a value that it was given, told before the session
refused anything. An error that an interceptor of the class may give is none. Most of what an
operation does can never be the reason of one (`NeverRejects`): only checking keys, encoding values
and binding deltas can.
-/

namespace WideColumn

open Op

variable {σ E α β : Type}

/-- The errors about values: broken constraints, values of a wrong kind, values that have no text.
-/
def Error.isRejection : Error → Bool
  | .validation _ | .type .. | .serialization _ => true
  | _ => false

/-- A stop on account of a value, which is not one that interceptors of the class give. -/
def EntityType.Rejects (T : EntityType E) : Stop → Prop
  | .failed e => e.isRejection = true ∧ ∀ entity event, (T.intercept entity event).2.2 ≠ some e
  | _ => False

theorem not_rejects_noCell (T : EntityType E) : ¬ T.Rejects noCell :=
  fun h => Bool.false_ne_true h.1

/-- The interceptors are never the reason of a rejection. -/
theorem not_rejects_of_fire {T : EntityType E} {h : Handle} {event : Event} {s : Site σ E}
    {e : Stop} (he : (fire T h event s).1 = .error e) : ¬ T.Rejects e := by
  cases hc : s.workspace.cell? h with
  | none =>
    rw [fire_of_no_cell T event hc] at he
    rw [← Except.error.inj he]
    exact not_rejects_noCell T
  | some c =>
    rw [fire_apply T event hc] at he
    cases hfailed : (T.intercept c.entity event).2.2 with
    | none =>
      rw [hfailed] at he
      cases he
    | some error =>
      rw [hfailed] at he
      rw [← Except.error.inj he]
      exact fun hrejects => hrejects.2 _ _ hfailed

theorem not_rejects_of_trigger {T : EntityType E} {h : Handle} {event : Event} {s : Site σ E}
    {e : Stop} (he : (trigger T h event s).1 = .error e) : ¬ T.Rejects e := by
  rcases trigger_cases T h event s with ⟨-, hrun⟩ | hrun | ⟨-, hrun⟩ <;> rw [hrun] at he
  · cases he
  · exact not_rejects_of_fire he
  · cases he

variable [Session σ]

/-- The trace accounts for everything that was asked of the session. -/
def Faithful (s t : Site σ E) : Prop :=
  ∃ acts, t.trace = s.trace ++ acts ∧ t.session = replay s.session acts

theorem composes_faithful : Composes (Faithful (σ := σ) (E := E)) where
  refl s := ⟨[], by simp, rfl⟩
  trans := by
    rintro s t u ⟨acts, ht, hsession⟩ ⟨more, hu, hsession'⟩
    refine ⟨acts ++ more, ?_, ?_⟩
    · rw [hu, ht, List.append_assoc]
    · rw [hsession', hsession, replay_append]

/-- A run that stopped on account of a value, before the session refused anything. -/
structure Rejected (T : EntityType E) (s : Site σ E) (run : Except Stop α × Site σ E) : Prop where
  stop : ∃ e, run.1 = .error e ∧ T.Rejects e
  accepted : isRefused s.session (run.2.trace.drop s.trace.length) = false

/-- Only the session and the trace matter for a rejection. -/
theorem Rejected.congr {T : EntityType E} {s t : Site σ E} {run : Except Stop α × Site σ E}
    (h : Rejected T s run) (htrace : t.trace = s.trace) (hsession : t.session = s.session) :
    Rejected T t run where
  stop := h.stop
  accepted := by
    rw [htrace, hsession]
    exact h.accepted

/-- What an operation does on sites with the given statements, when it never stops on account of a
value: the statements stay, and if it stops in this way all the same, the session refused
something. -/
structure Proper (T : EntityType E) (r : Registry) (s : Site σ E) (run : Except Stop α × Site σ E)
    (acts : List Act) : Prop where
  trace : run.2.trace = s.trace ++ acts
  session : run.2.session = replay s.session acts
  registry : run.2.registry = r
  stop {e : Stop} : run.1 = .error e → T.Rejects e → isRefused s.session acts = true

/-- An operation that is never rejected, on sites with the given statements. -/
def NeverRejects (T : EntityType E) (r : Registry) (op : Op σ E α) : Prop :=
  ∀ s : Site σ E, s.registry = r → ∃ acts, Proper T r s (op s) acts

namespace NeverRejects

variable {T : EntityType E} {r : Registry}

theorem not_rejected {op : Op σ E α} (h : NeverRejects T r op) {s : Site σ E}
    (hs : s.registry = r) :
    ¬ Rejected T s (op s) := by
  rintro ⟨⟨e, he, hrejection⟩, haccepted⟩
  obtain ⟨acts, hproper⟩ := h s hs
  have hrefused := hproper.stop he hrejection
  rw [hproper.trace, List.drop_left, hrefused] at haccepted
  cases haccepted

theorem pure (a : α) : NeverRejects T r (Pure.pure a : Op σ E α) :=
  fun s hs => ⟨[], by simp, rfl, hs, nofun⟩

theorem bind {x : Op σ E α} {f : α → Op σ E β} (hx : NeverRejects T r x)
    (hf : ∀ a, NeverRejects T r (f a)) : NeverRejects T r (x >>= f) := by
  intro s hs
  obtain ⟨acts, hfirst⟩ := hx s hs
  rcases hrun : x s with ⟨e | a, t⟩
  · rw [hrun] at hfirst
    rw [bind_of_error hrun]
    refine ⟨acts, hfirst.trace, hfirst.session, hfirst.registry, ?_⟩
    intro e' he
    apply hfirst.stop
    rw [Except.error.inj he]
  · rw [hrun] at hfirst
    obtain ⟨more, hrest⟩ := hf a t hfirst.registry
    rw [bind_of_ok hrun]
    refine ⟨acts ++ more, ?_, ?_, hrest.registry, ?_⟩
    · rw [hrest.trace, hfirst.trace, List.append_assoc]
    · rw [hrest.session, hfirst.session, replay_append]
    · intro e he hrejection
      have hrefused := hrest.stop he hrejection
      rw [isRefused_append, ← hfirst.session, hrefused, Bool.or_true]

/-- A check whose error is not about a value. -/
theorem lift_bind {x : Except Error α} {f : α → Op σ E β}
    (hx : ∀ e, x = .error e → e.isRejection = false)
    (hf : ∀ a, x = .ok a → NeverRejects T r (f a)) :
    NeverRejects T r ((liftM x : Op σ E α) >>= f) := by
  intro s hs
  cases hrun : x with
  | error e =>
    rw [lift_bind_of_error rfl]
    refine ⟨[], by simp, rfl, hs, ?_⟩
    intro e' he hrejects
    rw [← Except.error.inj he] at hrejects
    have hnot := hx e hrun
    exact absurd (hnot.symm.trans hrejects.1) Bool.false_ne_true
  | ok a =>
    rw [lift_bind_of_ok rfl]
    exact hf a hrun s hs

/-- Reading the statements gives those that are known. -/
theorem get_bind {f : Site σ E → Op σ E α} (hf : ∀ s, s.registry = r → NeverRejects T r (f s)) :
    NeverRejects T r ((get : Op σ E (Site σ E)) >>= f) := by
  intro s hs
  rw [get_bind_apply]
  exact hf s hs s hs

theorem forM {xs : List α} {f : α → Op σ E PUnit} (hf : ∀ x ∈ xs, NeverRejects T r (f x)) :
    NeverRejects T r (xs.forM f) := by
  induction xs with
  | nil => exact NeverRejects.pure _
  | cons x xs ih =>
    rw [forM_cons]
    apply (hf x List.mem_cons_self).bind
    intro _
    exact ih fun y hy => hf y (List.mem_cons_of_mem _ hy)

theorem modifyCell (h : Handle) (f : Cell E → Cell E) :
    NeverRejects T r (Op.modifyCell h f : Op σ E Unit) :=
  fun s hs => ⟨[], by rw [modifyCell_apply]; simp, rfl, hs, nofun⟩

/-- What is done to send a write at once is refused when its execution is. -/
theorem isRefused_sending {session : σ} (kind : BatchKind) (request : Request) {e : Stop}
    (h : (Session.execute session request.statement).1 = .error e) :
    isRefused session [.pushed kind request, .logged (.sent request), .executed request.statement] =
      true := by
  simp [isRefused, Act.isRefused, Act.replay, h, Except.isOk, Except.toBool]

/-- Handing over a write fails only when the session refuses it. -/
theorem handOver (kind : BatchKind) (request : Request) :
    NeverRejects T r (Op.handOver kind request : Op σ E (Option (List Row))) := by
  intro s hs
  rcases handOver_cases kind request s with ⟨-, hrun⟩ | ⟨-, hrun⟩ <;> rw [hrun]
  · refine ⟨_, rfl, rfl, hs, ?_⟩
    intro e he _
    cases hanswer : (Session.execute s.session request.statement).1 with
    | error e' => exact isRefused_sending kind request hanswer
    | ok rows =>
      rw [hanswer] at he
      cases he
  · exact ⟨_, rfl, rfl, hs, nofun⟩

theorem fire (h : Handle) (event : Event) : NeverRejects T r (Op.fire T h event : Op σ E Unit) := by
  intro s hs
  have hstop {e : Stop} (he : (Op.fire T h event s).1 = .error e) := not_rejects_of_fire he
  cases hc : s.workspace.cell? h with
  | none =>
    rw [fire_of_no_cell T event hc] at hstop ⊢
    exact ⟨[], by simp, rfl, hs, fun he hrejects => absurd hrejects (hstop he)⟩
  | some c =>
    rw [fire_apply T event hc] at hstop ⊢
    refine ⟨_, rfl, ?_, hs, fun he hrejects => absurd hrejects (hstop he)⟩
    rw [replay_intercepted]
    rfl

/-- Events, at once or put off. -/
theorem trigger (h : Handle) (event : Event) :
    NeverRejects T r (Op.trigger T h event : Op σ E Unit) := by
  intro s hs
  rcases trigger_cases T h event s with ⟨-, hrun⟩ | hrun | ⟨-, hrun⟩ <;> rw [hrun]
  · exact NeverRejects.pure () s hs
  · exact fire h event s hs
  · exact ⟨[], by simp [Site.afterDefer], rfl, hs, nofun⟩

end NeverRejects

/-- A rejection of a sequence whose second part is never rejected is one of the first part. -/
theorem Rejected.of_bind {T : EntityType E} {x : Op σ E α} {f : α → Op σ E β} {s : Site σ E}
    (h : Rejected T s ((x >>= f) s)) (hx : Faithful s (x s).2)
    (hf : ∀ a, NeverRejects T (x s).2.registry (f a)) :
    Rejected T s (x s) ∧ ((x >>= f) s).2 = (x s).2 := by
  obtain ⟨⟨e, he, hrejects⟩, haccepted⟩ := h
  rcases hrun : x s with ⟨e' | a, t⟩
  · rw [bind_of_error hrun] at he haccepted ⊢
    exact ⟨⟨⟨e', rfl, by rw [Except.error.inj he]; exact hrejects⟩, haccepted⟩, rfl⟩
  · rw [hrun] at hx hf
    rw [bind_of_ok hrun] at he haccepted
    obtain ⟨acts, htrace, hsession⟩ := hx
    obtain ⟨more, hproper⟩ := hf a t rfl
    have hrefused := hproper.stop he hrejects
    have htrace : (f a t).2.trace = s.trace ++ (acts ++ more) := by
      rw [hproper.trace, htrace, List.append_assoc]
    rw [htrace, List.drop_left, isRefused_append, ← hsession, hrefused, Bool.or_true] at haccepted
    cases haccepted

/-- An operation that is rejected after an event that is watched has an effect. -/
theorem Rejected.effects_lt_of_watched {T : EntityType E} {h : Handle} {event : Event}
    {f : Unit → Op σ E α} {s : Site σ E} (hrejected : Rejected T s ((trigger T h event >>= f) s))
    (hwatched : T.hasInterceptor event = true) (hf : ∀ a, Keeps Grows (f a)) :
    s.effects < ((trigger T h event >>= f) s).2.effects := by
  rcases hrun : trigger T h event s with ⟨e | _, t⟩
  · obtain ⟨⟨e', he, hrejects⟩, -⟩ := hrejected
    rw [bind_of_error hrun] at he
    rw [← Except.error.inj he] at hrejects
    exact absurd hrejects (not_rejects_of_trigger (s := s) (by rw [hrun]))
  · have hlt := effects_lt_trigger hwatched (h := h) (s := s) (by rw [hrun])
    exact effects_lt_bind hlt hf

end WideColumn
