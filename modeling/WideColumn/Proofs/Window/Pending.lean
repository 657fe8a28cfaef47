import WideColumn.Proofs.Registry.Complete
import WideColumn.Proofs.Window.Write

/-!
# What is pending

In every reachable state the outbox of the site is that of a window, and everything that is pending
in it carries the level of the window. A move leaves the outbox as it is, empties it, or is a call
that appends to it what it hands over (`Move.outbox_cases`). Main statement: `Reachable.isWindow`.
-/

namespace WideColumn

open Op

variable {σ E : Type}

/-- The writes of one kind that an outbox holds, oldest first. -/
def Outbox.pending (o : Outbox E) : BatchKind → List Request
  | .logged => o.regular
  | .counter => o.counter

theorem Outbox.pending_keeping (kind : BatchKind) (r : Request) (o : Outbox E) (k : BatchKind) :
    (o.keeping kind r).pending k = o.pending k ++ if kind = k then [r] else [] := by
  cases kind <;> cases k <;> simp [keeping, pending]

/-- The outbox is that of a window, and what is pending carries its level. -/
structure Outbox.IsWindow (o : Outbox E) : Prop where
  mode : o.mode = .batching
  level : ∀ kind, ∀ r ∈ o.pending kind, r.level = o.level

theorem Outbox.isWindow_ofMode (level : Level) : (ofMode .batching level : Outbox E).IsWindow where
  mode := rfl
  level kind r hr := by cases kind <;> cases hr

theorem CollectsActs.pending {s t : Site σ E} {acts : List Act} (h : CollectsActs s t acts)
    (kind : BatchKind) :
    t.outbox.pending kind = s.outbox.pending kind ++ pushedIn kind acts := by
  cases kind with
  | logged => exact h.regular
  | counter => exact h.counter

/-- What is handed over in a window carries the level of the window. -/
theorem CollectsActs.isWindow {s t : Site σ E} {acts : List Act} (h : CollectsActs s t acts)
    (hs : s.outbox.IsWindow) : t.outbox.IsWindow where
  mode := h.mode.trans hs.mode
  level kind r hr := by
    rw [h.pending] at hr
    rw [h.level]
    rcases List.mem_append.1 hr with hr | hr
    · exact hs.level kind r hr
    · exact h.pushed kind r hr

variable [Session σ]

/-- Ending a window sends what is pending. -/
theorem Batching.sends_endBatch {b : Batching σ E} (h : b.site.outbox.IsWindow) :
    Sends { b.site with outbox := b.site.outbox.reset b.defaultLevel } (endBatch b).2.site
      (b.endGroups b.site.outbox.regular b.site.outbox.counter) :=
  sendAll_spec (h.level .logged) (h.level .counter) _

theorem eq_of_mem_groupOf {kind : BatchKind} {requests : List Request} {level : Level} {g : Group}
    (h : g ∈ groupOf kind requests level) :
    requests ≠ [] ∧ g = ⟨kind, requests.map Request.statement, level⟩ := by
  unfold groupOf at h
  split at h
  · cases h
  · next hempty => exact ⟨by simpa using hempty, List.mem_singleton.1 h⟩

/-- What the end of a window sends is pending as a whole, and at the level of the window; no group
is empty. -/
theorem Batching.mem_endGroups {b : Batching σ E} {g : Group}
    (hg : g ∈ b.endGroups (b.site.outbox.pending .logged) (b.site.outbox.pending .counter)) :
    ∃ kind, b.site.outbox.pending kind ≠ [] ∧
      g = ⟨kind, (b.site.outbox.pending kind).map Request.statement, b.site.outbox.level⟩ := by
  unfold endGroups at hg
  split at hg
  · cases hg
  · rcases List.mem_append.1 hg with hg | hg
    · exact ⟨.logged, eq_of_mem_groupOf hg⟩
    · split at hg
      · cases hg
      · exact ⟨.counter, eq_of_mem_groupOf hg⟩

/-- Registering a type leaves the entities and the outbox alone. -/
theorem Manager.same_register (T : EntityType E) (s : Site σ E) :
    (Manager.register T s).2.workspace = s.workspace ∧
      (Manager.register T s).2.outbox = s.outbox := by
  have hcomp : Composes fun s t : Site σ E =>
      t.workspace = s.workspace ∧ t.outbox = s.outbox :=
    ⟨fun _ => ⟨rfl, rfl⟩, fun hst htu => ⟨htu.1.trans hst.1, htu.2.trans hst.2⟩⟩
  exact Manager.keeps_register hcomp (fun _ _ _ => ⟨rfl, rfl⟩) (fun _ _ => ⟨rfl, rfl⟩)
    (fun _ _ => ⟨rfl, rfl⟩) T s

theorem ManagerCall.outbox_run_all (call : ManagerCall E) (s : Site σ E) :
    (call.run s).2.outbox = s.outbox := by
  cases hregister : call.isRegister with
  | false => exact call.outbox_run hregister s
  | true =>
    cases call with
    | register T =>
      show ((do let _ ← Manager.register T : Op σ E Unit) s).2.outbox = _
      rw [discard_apply]
      exact (Manager.same_register T s).2
    | _ => cases hregister

/-- After a call that resets the window its outbox is that of a new window. -/
theorem WindowCall.empty_of_resets {call : WindowCall E} (hresets : call.resets = true)
    {b : Batching σ E} (hb : b.site.outbox.IsWindow) :
    ∃ level, (call.run b).2.site.outbox = .ofMode .batching level := by
  have emptied (level : Level) : b.site.outbox.reset level = .ofMode .batching level := by
    unfold Outbox.reset
    rw [hb.mode]
  rcases call.eq_endBatch_or with rfl | hend
  · exact ⟨b.defaultLevel, (Batching.sends_endBatch hb).outbox.trans (emptied _)⟩
  · obtain ⟨level, hsite⟩ := call.run_of_resets hresets hend b
    rw [hsite]
    exact ⟨level, emptied level⟩

/-- A move leaves the outbox as it is, empties it, or is a call that appends to it. -/
theorem Move.outbox_cases {b c : Batching σ E} (hb : b.site.outbox.IsWindow)
    (hselects : b.site.registry.Selects) (h : Move b c) :
    c.site.outbox = b.site.outbox ∨ (∃ level, c.site.outbox = .ofMode .batching level) ∨
      ∃ (call : WindowCall E) (acts : List Act), call.resets = false ∧ c = (call.run b).2 ∧
        CollectsActs b.site c.site acts := by
  cases h with
  | restart => exact .inr (.inl ⟨_, rfl⟩)
  | manager call => exact .inl (call.outbox_run_all b.site)
  | complete T p => exact .inl (Manager.outbox_complete T p b.site)
  | edit => exact .inl rfl
  | window call =>
    cases hresets : call.resets with
    | false =>
      obtain ⟨acts, hacts⟩ := call.run_of_not_resets hresets hb.mode hselects
      exact .inr (.inr ⟨call, acts, hresets, rfl, hacts⟩)
    | true => exact .inr (.inl (call.empty_of_resets hresets hb))

/-- In every reachable state what is pending carries the level of the window. -/
theorem Reachable.isWindow [LawfulSession σ] {b : Batching σ E} (h : Reachable b) :
    b.site.outbox.IsWindow := by
  refine h.of_moves (P := fun b => b.site.outbox.IsWindow)
    (fun session config => Outbox.isWindow_ofMode _) fun b c hb hmove ih => ?_
  rcases hmove.outbox_cases ih hb.sound.registry.selects with
    hkept | ⟨level, hempty⟩ | ⟨call, acts, -, -, hacts⟩
  · rw [hkept]
    exact ih
  · rw [hempty]
    exact Outbox.isWindow_ofMode level
  · exact hacts.isWindow ih

end WideColumn
