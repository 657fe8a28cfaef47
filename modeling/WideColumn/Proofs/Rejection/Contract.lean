import WideColumn.Proofs.Page
import WideColumn.Proofs.Rejection.Operations
import WideColumn.Proofs.Window.Write

/-!
# Rejected writes

When a write that is rejected leaves everything as it was. A delete by key always does. The other
writes do exactly when they are rejected early (`Write.Early`): for the arguments of an insert, or
before anything was written and with nothing that watches their first event. Main statement:
`rejection_contract`.
-/

namespace WideColumn

open Op

variable {σ E : Type}

namespace Write

/-- A new row of a counter table has no queued delta. -/
def LacksDeltas (T : EntityType E) (em : EntityMeta) (entity : E) : Prop :=
  em.isClusteredCounter = true ∧
    (em.counters.any fun pm => (T.counter? entity pm.name).any Counter.hasPending) = false

/-- The rejection of a write comes before its first effect. -/
def Early (T : EntityType E) (em : EntityMeta) (s : Site σ E) : Write E → Prop
  | persist (.proxy _) => True
  | persist (.bare entity) =>
    LacksDeltas T em entity ∨ ¬ em.KeyEncodes (T.key entity) ∨
      (T.hasInterceptor .prePersist = false ∧ Call.FirstUnbound T em entity)
  | update p =>
    T.hasInterceptor .preUpdate = false ∧
      ∃ cell, s.workspace.cell? p.handle = some cell ∧ Call.RowUnbound T em cell
  | remove _ => T.hasInterceptor .preRemove = false
  | removeById _ => True

end Write

/-! ### Arguments -/

theorem not_rejection_of_applyWindow {options : Options} {batch : Option Level} {e : Error}
    (h : Levels.applyWindow options batch = .error e) : e.isRejection = false := by
  cases batch with
  | none => cases h
  | some level =>
    unfold Levels.applyWindow at h
    dsimp only at h
    split at h
    · rw [← Except.error.inj h]
      rfl
    · cases h

variable [Session σ] {T : EntityType E} {em : EntityMeta} {s : Site σ E} {options : Options}

/-- A call on entities of a registered type is made before anything is rejected. -/
theorem Rejected.of_call {α : Type} {f : Call E → Op σ E α}
    (hem : s.types.lookup T.typeName = some em)
    (h : Rejected T s ((Manager.call T options >>= f) s)) :
    ∃ c : Call E, c.type = T ∧ c.entityMeta = em ∧
      (Manager.call T options >>= f) s = f c s := by
  cases hwindow : Levels.applyWindow options s.outbox.batchLevel with
  | error e =>
    obtain ⟨e', he, hrejects⟩ := h.stop
    rw [bind_of_error (Manager.call_of_conflict hem hwindow)] at he
    rw [← Except.error.inj he] at hrejects
    exact absurd ((not_rejection_of_applyWindow hwindow).symm.trans hrejects.1) Bool.false_ne_true
  | ok effective => exact ⟨_, rfl, rfl, bind_of_ok (Manager.call_of_lookup hem hwindow) _⟩

omit [Session σ] in
/-- The row of a counter table is rejected for lack of deltas. -/
theorem Write.lacksDeltas_of_error {entity : E} {e : Error}
    (h : Manager.checkCounterRow T em entity options = .error e) (he : e.isRejection = true) :
    Write.LacksDeltas T em entity := by
  unfold Manager.checkCounterRow at h
  dsimp only at h
  split at h
  · next hclustered =>
    split at h
    · cases h
      cases he
    · split at h
      · next hnone => exact ⟨hclustered, by simpa using hnone⟩
      · cases h
  · cases h

omit [Session σ] in
theorem Write.not_lacksDeltas_of_ok {entity : E}
    (h : Manager.checkCounterRow T em entity options = .ok ()) :
    ¬ Write.LacksDeltas T em entity := by
  rintro ⟨hclustered, hnone⟩
  unfold Manager.checkCounterRow at h
  dsimp only at h
  rw [if_pos hclustered, hnone] at h
  split at h <;> cases h

/-! ### Writes -/

namespace Write

section

variable (hs : s.Sound) (hem : s.types.lookup T.typeName = some em) (hT : T.LawfulCounters)
include hs hem hT

theorem persistIn_rejected_iff {entity : Tracked E}
    (h : Rejected T s (Manager.persistIn T entity options s)) :
    Untouched s (Manager.persistIn T entity options s).2 ↔ (persist entity).Early T em s := by
  obtain ⟨e, he, hrejects⟩ := h.stop
  unfold Manager.persistIn at h he ⊢
  rw [bind_of_ok (Manager.entityMeta_of_lookup hem)] at h he ⊢
  cases entity with
  | proxy p => exact iff_of_true (.refl s) trivial
  | bare entity =>
    cases hcheck : Manager.checkCounterRow T em entity options with
    | error error =>
      dsimp only at h he ⊢
      rw [hcheck, lift_bind_of_error rfl] at h he ⊢
      rw [← Except.error.inj he] at hrejects
      exact iff_of_true (.refl s) (.inl (lacksDeltas_of_error hcheck hrejects.1))
    | ok _ =>
      dsimp only at h he ⊢
      rw [hcheck, lift_bind_of_ok rfl] at h he ⊢
      cases hkey : em.id.encodeComponents (T.key entity) with
      | error error =>
        rw [lift_bind_of_error rfl]
        exact iff_of_true (.refl s) (.inr (.inl (not_isOk_of_eq_error hkey)))
      | ok encoded =>
        rw [hkey] at h
        rw [lift_bind_of_ok rfl] at h ⊢
        have hencodes : em.KeyEncodes (T.key entity) := isOk_of_eq_ok hkey
        have hmem := mem_of_lookup hem
        obtain ⟨c, rfl, rfl, hrun⟩ := Rejected.of_call hem h
        rw [hrun] at h ⊢
        rw [Call.persist_rejected_iff (hs.known hmem) hencodes hT
          (hs.built hmem).distinctNames_counters h]
        constructor
        · exact fun hearly => .inr (.inr hearly)
        · rintro (hlacks | hnokey | hearly)
          · exact absurd hlacks (not_lacksDeltas_of_ok hcheck)
          · exact absurd hencodes hnokey
          · exact hearly

/-- With the outbox of the site, whatever it is: a rejected write has no effect exactly when it is
rejected early. -/
theorem runIn_rejected_iff (w : Write E) (h : Rejected T s (w.runIn T options s)) :
    Untouched s (w.runIn T options s).2 ↔ w.Early T em s := by
  have hmem := mem_of_lookup hem
  cases w with
  | persist entity =>
    have hrun : (persist entity).runIn T options s =
        ((Manager.persistIn T entity options s).1.map fun _ => (),
          (Manager.persistIn T entity options s).2) := discard_run _ s
    rw [hrun] at h ⊢
    refine persistIn_rejected_iff hs hem hT ⟨?_, h.accepted⟩
    obtain ⟨e, he, hrejects⟩ := h.stop
    refine ⟨e, ?_, hrejects⟩
    cases hanswer : (Manager.persistIn T entity options s).1 with
    | error e' =>
      rw [hanswer] at he
      rw [Except.error.inj he]
    | ok proxy =>
      rw [hanswer] at he
      cases he
  | update p =>
    obtain ⟨c, rfl, rfl, hrun⟩ := Rejected.of_call hem h
    have hcall : (update p).runIn c.type options s = c.update p s := hrun
    rw [hcall] at h ⊢
    exact Call.update_rejected_iff hT (hs.built hmem).distinctNames_counters (hs.known hmem)
      (fun cell hc pm hpm => (hs.dirty hc pm hpm).2) h
  | remove entity =>
    obtain ⟨c, rfl, rfl, hrun⟩ := Rejected.of_call hem h
    have hcall : (remove entity).runIn c.type options s = _ := hrun
    rw [hcall] at h ⊢
    cases entity with
    | bare entity => exact Call.remove_rejected_iff h
    | proxy p =>
      dsimp only at h ⊢
      cases hc : s.workspace.cell? p.handle with
      | none =>
        have hcell : Op.cell p.handle s = (.error noCell, s) := by rw [cell_apply, hc]
        obtain ⟨e, he, hrejects⟩ := h.stop
        rw [bind_of_error hcell] at he
        rw [← Except.error.inj he] at hrejects
        exact absurd hrejects (not_rejects_noCell c.type)
      | some cell =>
        have hcell : Op.cell p.handle s = (.ok cell, s) := by rw [cell_apply, hc]
        rw [bind_of_ok hcell] at h ⊢
        exact Call.remove_rejected_iff h
  | removeById key =>
    obtain ⟨c, rfl, rfl, hrun⟩ := Rejected.of_call hem h
    have hcall : (removeById key).runIn c.type options s = c.removeByKey key s := hrun
    rw [hcall] at h ⊢
    rw [Call.removeByKey_of_rejected h]
    exact iff_of_true (.refl s) trivial

end

end Write

/-- In every reachable state, of a manager with or without windows: a write of an entity of a
registered class that is rejected has no effect exactly when it is rejected early. -/
theorem rejection_contract [LawfulSession σ] {b : Batching σ E} (hb : Reachable b)
    {T : EntityType E} {em : EntityMeta} (hem : b.site.types.lookup T.typeName = some em)
    (hT : T.LawfulCounters) (w : Write E) (options : Options) :
    (Rejected T b.site ((w.atOnce T options).run b.site) →
      (Untouched b.site ((w.atOnce T options).run b.site).2 ↔ w.Early T em b.site)) ∧
    ∀ now, Rejected T b.site
        (((w.inWindow now T options).run b).1, ((w.inWindow now T options).run b).2.site) →
      (Untouched b.site ((w.inWindow now T options).run b).2.site ↔ w.Early T em b.site) := by
  have hs := hb.sound
  constructor
  · rw [w.run_atOnce]
    intro h
    have hrejected : Rejected T (Manager.atOnce b.site)
        (w.runIn T options (Manager.atOnce b.site)) := ⟨h.stop, h.accepted⟩
    have hiff := Write.runIn_rejected_iff (s := Manager.atOnce b.site) (hs.congr rfl rfl rfl) hem hT
      w hrejected
    have hearly : w.Early T em (Manager.atOnce b.site) ↔ w.Early T em b.site := by
      cases w <;> rfl
    rw [← hearly, ← hiff]
    have houtbox := w.keepsOutbox_runIn T options (Manager.atOnce b.site) rfl
    constructor
    · exact fun huntouched => ⟨huntouched.trace, houtbox, huntouched.cells⟩
    · exact fun huntouched => ⟨huntouched.trace, rfl, huntouched.cells⟩
  · intro now h
    rcases w.run_inWindow now T options b with hconflict | ⟨options', last, hrun⟩
    · obtain ⟨e, he, hrejects⟩ := h.stop
      rw [Except.error.inj (he.symm.trans hconflict)] at hrejects
      exact absurd hrejects.1 Bool.false_ne_true
    · rw [hrun] at h ⊢
      exact Write.runIn_rejected_iff hs hem hT w h

/-! ### Pages -/

namespace Page

/-- Whether an answer is a rejection, of a class whose interceptors never fail. -/
def isRejection : Except Stop Unit → Bool
  | .error (.failed e) => e.isRejection
  | _ => false

theorem rejects_of_isRejection {T : EntityType Page} {answer : Except Stop Unit}
    (hT : ∀ page event, (T.intercept page event).2.2 = none) (h : isRejection answer = true) :
    ∃ e, answer = .error e ∧ T.Rejects e := by
  rcases answer with e | _
  · cases e with
    | failed error =>
      refine ⟨_, rfl, h, ?_⟩
      intro page event hfailed
      rw [hT] at hfailed
      cases hfailed
    | cancelled reason => cases h
    | panicked message => cases h
  · cases h

/-- Pages whose removal is watched. -/
def guarded : EntityType Page := type "site.Page" "pages" [watcher "site.Page" [.preRemove]]

theorem reachable_guarded : Reachable (manager .empty [guarded]) :=
  reachable_manager_type _ _ _ _

theorem intercept_guarded (page : Page) (event : Event) :
    (guarded.intercept page event).2.2 = none := by
  cases event <;> rfl

/-- A page without a key. -/
def nameless : Page := ⟨.null, .null, .empty⟩

/-- The page without a key cannot be removed, but the watcher of removals has seen it by then. -/
theorem rejection_contract_nameless :
    Rejected guarded (manager .empty [guarded]).site
        (((Write.remove (.bare nameless)).atOnce guarded .none).run
          (manager .empty [guarded]).site) ∧
      ¬ Untouched (manager .empty [guarded]).site
        (((Write.remove (.bare nameless)).atOnce guarded .none).run
          (manager .empty [guarded]).site).2 := by
  have hrejected : Rejected guarded (manager .empty [guarded]).site
      (((Write.remove (.bare nameless)).atOnce guarded .none).run
        (manager .empty [guarded]).site) :=
    ⟨rejects_of_isRejection intercept_guarded (by decide +kernel), by decide +kernel⟩
  have hlookup : (manager .empty [guarded]).site.types.lookup guarded.typeName =
      some (entityMeta "pages") := by
    decide +kernel
  have hiff := (rejection_contract reachable_guarded hlookup
    (lawfulCounters_type _ _ _) (.remove (.bare nameless)) .none).1 hrejected
  refine ⟨hrejected, ?_⟩
  rw [hiff]
  show ¬ guarded.hasInterceptor .preRemove = false
  decide

/-- A page that was read too often to count. -/
def crowded : Batching Script Page :=
  visited (opened (manager .empty [plain]) plain first) plain first 0x8000000000000000

theorem reachable_crowded : Reachable crowded :=
  reachable_visited (reachable_opened (reachable_manager_type _ _ _ _) plain first) _ _ _

/-- The visits queued on the first page. -/
def visits (s : Site Script Page) : Option (List Int) :=
  (s.workspace.cell? first.handle).map fun cell => plain.pending cell.entity "hits"

/-- An update that is rejected for a delta has taken it off the page. -/
theorem not_untouched_of_rejected :
    ¬ ∀ (b : Batching Script Page) (T : EntityType Page) (em : EntityMeta) (w : Write Page),
      Reachable b → b.site.types.lookup T.typeName = some em → T.LawfulCounters →
      Rejected T b.site ((w.atOnce T .none).run b.site) →
      Untouched b.site ((w.atOnce T .none).run b.site).2 := by
  intro h
  have hrejected : Rejected plain crowded.site
      (((Write.update first).atOnce plain .none).run crowded.site) :=
    ⟨rejects_of_isRejection (fun _ _ => rfl) (by decide +kernel), by decide +kernel⟩
  have huntouched := h crowded plain (entityMeta "pages") (.update first) reachable_crowded
    (by decide +kernel) (lawfulCounters_type _ _ _) hrejected
  have hvisits : visits (((Write.update first).atOnce plain .none).run crowded.site).2 =
      visits crowded.site := by
    have hcell : (crowded.site.workspace.cell? first.handle).isSome = true := by decide +kernel
    obtain ⟨cell, hc⟩ := Option.isSome_iff_exists.1 hcell
    unfold visits
    rw [huntouched.cells hc, hc]
  revert hvisits
  decide +kernel

end Page

end WideColumn
