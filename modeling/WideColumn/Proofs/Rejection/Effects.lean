import WideColumn.Proofs.Counter.Drain
import WideColumn.Proofs.Session.Replay

/-!
# Effects

What an operation can have done before it is rejected. Effects only ever add up: a site that shows
one more act than before, or one more event put off, shows it at the end of the operation too. The
other way round, an operation that can only stop on account of the session is never rejected.
-/

namespace WideColumn

open Op

variable {σ E : Type}

/-! ### Sites without effect -/

/-- Whether an act is more than preparing a statement. -/
def Act.isEffect : Act → Bool
  | .prepared _ => false
  | _ => true

/-- The number of effects that a site shows: acts, and events put off. -/
def Site.effects (s : Site σ E) : Nat :=
  (s.trace.filter Act.isEffect).length + s.outbox.events.length

/-- Nothing but preparing was done: nothing was sent, collected or put off, and every entity is as
it was, with its record and its options. -/
structure Untouched (s t : Site σ E) : Prop where
  trace : ∃ texts : List String, t.trace = s.trace ++ texts.map .prepared
  outbox : t.outbox = s.outbox
  cells {h : Handle} {c : Cell E} :
    s.workspace.cell? h = some c → t.workspace.cell? h = some c

theorem Untouched.refl (s : Site σ E) : Untouched s s := ⟨⟨[], by simp⟩, rfl, id⟩

theorem Untouched.effects_eq {s t : Site σ E} (h : Untouched s t) : t.effects = s.effects := by
  obtain ⟨texts, htrace⟩ := h.trace
  have hnone : (texts.map Act.prepared).filter Act.isEffect = [] := by
    rw [List.filter_eq_nil_iff]
    intro act hact
    obtain ⟨text, -, rfl⟩ := List.mem_map.1 hact
    exact Bool.false_ne_true
  unfold Site.effects
  rw [htrace, h.outbox, List.filter_append, hnone, List.append_nil]

/-- More effects than before cannot be taken back. -/
theorem not_untouched_of_lt {s t : Site σ E} (h : s.effects < t.effects) : ¬ Untouched s t := by
  intro huntouched
  have heq := huntouched.effects_eq
  omega

theorem Workspace.cell?_add {w : Workspace E} {entity : E} {h : Handle} {c : Cell E}
    (hc : w.cell? h = some c) : (w.add entity).2.cell? h = some c := by
  rw [Workspace.cell?_add_of_lt w entity h (lt_of_cell? hc), hc]

/-! ### Effects add up -/

/-- No effect is taken back. -/
def Grows (s t : Site σ E) : Prop := s.effects ≤ t.effects

theorem composes_grows : Composes (Grows (σ := σ) (E := E)) where
  refl s := Nat.le_refl s.effects
  trans hst htu := Nat.le_trans hst htu

theorem effects_append (s : Site σ E) (acts : List Act) (session : σ) (workspace : Workspace E) :
    Site.effects { s with trace := s.trace ++ acts, session, workspace } =
      s.effects + (acts.filter Act.isEffect).length := by
  unfold Site.effects
  rw [List.filter_append, List.length_append]
  exact Nat.add_right_comm _ _ _

/-- Interceptors that watch an event and do not fail are called. -/
theorem EntityType.notices_ne_nil {T : EntityType E} {event : Event}
    (h : T.hasInterceptor event = true) {entity : E}
    (hnone : (T.intercept entity event).2.2 = none) : (T.intercept entity event).1 ≠ [] := by
  obtain ⟨i, hi, haccepts⟩ := List.any_eq_true.1 h
  have hmem : i ∈ T.interceptors.filter fun i => i.accepts event :=
    List.mem_filter.2 ⟨hi, haccepts⟩
  unfold intercept interceptAs at hnone ⊢
  cases hlist : T.interceptors.filter fun i => i.accepts event with
  | nil =>
    rw [hlist] at hmem
    cases hmem
  | cons first rest =>
    rw [hlist] at hnone
    unfold runInterceptors at hnone ⊢
    split at hnone
    · cases hnone
    · next htarget =>
      rw [if_neg htarget]
      rcases first.run entity event with ⟨after, _ | e⟩ <;> exact List.cons_ne_nil _ _

theorem effects_afterFire (T : EntityType E) (h : Handle) (event : Event) (c : Cell E)
    (s : Site σ E) : (afterFire T h event c s).effects =
      s.effects + (T.intercept c.entity event).1.length := by
  have hall (notices : List Notice) :
      ((notices.map (Act.intercepted h)).filter Act.isEffect).length = notices.length := by
    induction notices with
    | nil => rfl
    | cons notice rest ih =>
      rw [List.map_cons, List.filter_cons_of_pos rfl, List.length_cons, ih, List.length_cons]
  unfold afterFire
  rw [effects_append s _ s.session, hall]

theorem effects_afterDefer (T : EntityType E) (h : Handle) (event : Event) (s : Site σ E) :
    (s.afterDefer T h event).effects = s.effects + 1 := by
  simp [Site.afterDefer, Site.effects, Nat.add_assoc]

/-- An event that is watched has an effect, unless its interceptors fail. -/
theorem effects_lt_trigger {T : EntityType E} {h : Handle} {event : Event} {s : Site σ E}
    (hwatched : T.hasInterceptor event = true) (hok : (trigger T h event s).1 = .ok ()) :
    s.effects < (trigger T h event s).2.effects := by
  have hfire (hok : (fire T h event s).1 = .ok ()) : s.effects < (fire T h event s).2.effects := by
    cases hc : s.workspace.cell? h with
    | none =>
      rw [fire_of_no_cell T event hc] at hok
      cases hok
    | some c =>
      rw [fire_apply T event hc] at hok ⊢
      have hnone : (T.intercept c.entity event).2.2 = none := by
        cases hfailed : (T.intercept c.entity event).2.2 with
        | none => rfl
        | some e =>
          rw [hfailed] at hok
          cases hok
      have hnotices := List.length_pos_iff.2 (EntityType.notices_ne_nil hwatched hnone)
      show s.effects < (afterFire T h event c s).effects
      rw [effects_afterFire]
      omega
  rcases trigger_cases T h event s with ⟨hunwatched, -⟩ | hrun | ⟨-, hrun⟩
  · rw [hwatched] at hunwatched
    cases hunwatched
  · rw [hrun] at hok ⊢
    exact hfire hok
  · rw [hrun]
    exact Nat.lt_of_lt_of_eq (Nat.lt_succ_self _) (effects_afterDefer T h event s).symm

theorem grows_trigger (T : EntityType E) (h : Handle) (event : Event) :
    Keeps (Grows (σ := σ)) (trigger T h event) := by
  intro s
  have hfire : Grows s (fire T h event s).2 := by
    cases hc : s.workspace.cell? h with
    | none =>
      rw [fire_of_no_cell T event hc]
      exact Nat.le_refl _
    | some c =>
      rw [fire_apply T event hc]
      show s.effects ≤ (afterFire T h event c s).effects
      rw [effects_afterFire]
      omega
  rcases trigger_cases T h event s with ⟨-, hrun⟩ | hrun | ⟨-, hrun⟩ <;> rw [hrun]
  · exact Nat.le_refl _
  · exact hfire
  · exact Nat.le_of_lt (Nat.lt_of_lt_of_eq (Nat.lt_succ_self _)
      (effects_afterDefer T h event s).symm)

variable [Session σ]

/-- Preparing has no effect. -/
theorem Untouched.of_prepares {s t : Site σ E} (h : Prepares s t) : Untouched s t where
  trace := by
    obtain ⟨texts, htrace, -⟩ := h.asked
    exact ⟨texts, htrace⟩
  outbox := h.outbox
  cells hc := by
    rw [h.workspace]
    exact hc

theorem Grows.of_prepares {s t : Site σ E} (h : Prepares s t) : Grows s t :=
  Nat.le_of_eq (Untouched.of_prepares h).effects_eq.symm

theorem effects_lt_handOver (kind : BatchKind) (r : Request) (s : Site σ E) :
    s.effects < (handOver kind r s).2.effects := by
  rcases handOver_cases kind r s with ⟨-, hrun⟩ | ⟨-, hrun⟩ <;> rw [hrun]
  · simp [Site.afterPush, Site.effects, Act.isEffect]
  · simp [Site.afterKeep, Site.effects, Act.isEffect]

theorem admits_grows : Admits (Grows (σ := σ) (E := E)) fun _ _ => True where
  toComposes := composes_grows
  push _ s := Nat.le_of_lt (effects_lt_handOver .logged _ s)
  pushCounter _ s := Nat.le_of_lt (effects_lt_handOver .counter _ s)
  trigger := grows_trigger
  addEntity _ _ := Nat.le_refl _
  modifyCell _ _ _ _ := Nat.le_refl _

omit [Session σ] in
/-- An effect of the first part is an effect of the whole. -/
theorem effects_lt_bind {α β : Type} {x : Op σ E α} {f : α → Op σ E β} {s : Site σ E}
    (hx : s.effects < (x s).2.effects) (hf : ∀ a, Keeps Grows (f a)) :
    s.effects < ((x >>= f) s).2.effects := by
  rcases hrun : x s with ⟨e | a, t⟩
  · rw [hrun] at hx
    rw [bind_of_error hrun]
    exact hx
  · rw [hrun] at hx
    rw [bind_of_ok hrun]
    exact Nat.lt_of_lt_of_le hx (hf a t)

end WideColumn
