import WideColumn.Proofs.Level.Log
import WideColumn.Proofs.Level.Precedence
import WideColumn.Proofs.Level.Recorded
import WideColumn.Proofs.Level.Sent

/-!
# The contract of levels

Every statement is sent at the level that the precedence dictates: outside a window a write at the
level of the call, else that of the counter that it writes, else that of the class; a read of a row
at the level of the call, else that of the class; a read of what is missing on a proxy at the level
recorded on it, else that of the property, else that of the class. Inside a window everything that
is written and every row that is read is at the level of the window. Main statement:
`level_contract`.
-/

namespace WideColumn

open Op

variable {σ E : Type}

theorem Act.Carries.mono {W W' : BatchKind → Request → Prop} {Q Q' : Request → Prop} {act : Act}
    (h : act.Carries W Q) (hW : ∀ kind r, W kind r → W' kind r) (hQ : ∀ r, Q r → Q' r) :
    act.Carries W' Q' := by
  have either {r : Request} : (Q r ∨ ∃ kind, W kind r) → Q' r ∨ ∃ kind, W' kind r :=
    Or.imp (hQ r) fun ⟨kind, hr⟩ => ⟨kind, hW kind r hr⟩
  cases act with
  | pushed kind r => exact hW kind r h
  | prepared text => exact h
  | executed statement =>
    obtain ⟨r, hr, heq⟩ := h
    exact ⟨r, either hr, heq⟩
  | sentBatch kind statements level => exact h
  | intercepted h notice => exact h
  | logged line =>
    cases line with
    | sent r => exact either h
    | batchStart kind count => exact h
    | batchEnd kind level => exact h

/-! ### Inside a window -/

/-- The options of a call that an open window changes give the level of the window. -/
theorem Outbox.level_effective {o : Outbox E} (h : o.mode = .batching) (options : Options) :
    (o.effective options).level = some o.level := by
  unfold effective batchLevel isBatching
  rw [h]
  rfl

theorem Registry.WritesAt.level_eq {r : Registry} {em : EntityMeta} {options : Options}
    {level : Level} (hlevel : options.level = some level) {kind : BatchKind} {request : Request}
    (h : r.WritesAt em options kind request) : request.level = level := by
  have hwrite : Levels.write options em = level := by simp [Levels.write, hlevel]
  cases kind with
  | logged => exact h.trans hwrite
  | counter =>
    rcases h with ⟨pm, -, -, h⟩ | ⟨-, h⟩
    · exact h.trans (by simp [Levels.writeProperty, hlevel])
    · exact h.trans hwrite

namespace EntityCall

/-- The level of the reads of a call in a window: that of the window, except for what is missing on
a proxy. -/
def ReadsInWindow (b : Batching σ E) (em : EntityMeta) : EntityCall E → Request → Prop
  | find _ _ | refresh _ _ => fun r => r.level = b.site.outbox.level
  | complete p => (complete p).ReadsAt b.site em
  | _ => fun _ => False

theorem level_of_writesAt {s : Site σ E} (hmode : s.outbox.mode = .batching) {em : EntityMeta}
    {call : EntityCall E} {kind : BatchKind} {r : Request} (h : call.WritesAt s em kind r) :
    r.level = s.outbox.level := by
  cases call with
  | write w options => exact Registry.WritesAt.level_eq (Outbox.level_effective hmode options) h
  | _ => cases h

theorem readsInWindow_of_readsAt {b : Batching σ E} (hmode : b.site.outbox.mode = .batching)
    {em : EntityMeta} {call : EntityCall E} {options : Options} {r : Request}
    (h : (call.withOptions options).ReadsAt b.site em r) : call.ReadsInWindow b em r := by
  have hread : Levels.read (b.site.outbox.effective options) em = b.site.outbox.level := by
    simp [Levels.read, Outbox.level_effective hmode]
  cases call with
  | find key _ => exact Eq.trans h hread
  | refresh p _ => exact Eq.trans h hread
  | complete p => exact h
  | write w _ => cases h
  | getProxy key _ => cases h

end EntityCall

/-! ### The contract -/

variable [Session σ]

/-- The levels that statements for a registered class are sent at. -/
structure LevelContract (b : Batching σ E) (T : EntityType E) (em : EntityMeta) : Prop where
  /-- The levels chosen for a call are the first that are given. -/
  precedence : b.site.config.Decides em
  /-- Outside a window everything carries the level chosen for the call, and is executed at it. -/
  atOnce (call : EntityCall E) : ∃ acts,
    ((call.atOnce T).run b.site).2.trace = b.site.trace ++ acts ∧ ∀ act ∈ acts,
      act.Carries (call.WritesAt (Manager.atOnce b.site) em)
        (call.ReadsAt (Manager.atOnce b.site) em)
  /-- A proxy has the level of the call that made it or updated it last. -/
  recorded {h : Handle} {level : Option Level} : Recorded h level b → HasLevel h level b.site
  /-- What is pending carries the level of the window. -/
  pending (kind : BatchKind) : ∀ r ∈ b.site.outbox.pending kind, r.level = b.site.outbox.level
  /-- What is handed over in a window carries its level, and rows are read at it. -/
  inWindow (now : Int) (call : EntityCall E) : ∃ acts,
    (call.runInWindow now T b).2.site.trace = b.site.trace ++ acts ∧ ∀ act ∈ acts,
      act.Carries (fun _ r => r.level = b.site.outbox.level) (call.ReadsInWindow b em)
  /-- The end of a window sends what is pending, in groups at the level of the window. -/
  ended : ∃ acts, (Batching.endBatch b).2.site.trace = b.site.trace ++ acts ∧
    groupsIn acts = b.endGroups (b.site.outbox.pending .logged) (b.site.outbox.pending .counter) ∧
    executedIn acts = [] ∧ ∀ g ∈ groupsIn acts, g.level = b.site.outbox.level ∧
      ∀ statement ∈ g.statements, statement.level = b.site.outbox.level
  /-- The log names the level of everything that was sent. -/
  log : LogAgrees b.site.trace

theorem Outbox.IsWindow.ended {b : Batching σ E} (h : b.site.outbox.IsWindow) :
    ∃ acts, (Batching.endBatch b).2.site.trace = b.site.trace ++ acts ∧
      groupsIn acts =
        b.endGroups (b.site.outbox.pending .logged) (b.site.outbox.pending .counter) ∧
      executedIn acts = [] ∧ ∀ g ∈ groupsIn acts, g.level = b.site.outbox.level ∧
        ∀ statement ∈ g.statements, statement.level = b.site.outbox.level := by
  obtain ⟨acts, htrace, hgroups, hexecuted, -⟩ := (Batching.sends_endBatch h).trace
  refine ⟨acts, htrace, hgroups, hexecuted, fun g hg => ?_⟩
  rw [hgroups] at hg
  obtain ⟨kind, -, rfl⟩ := Batching.mem_endGroups hg
  refine ⟨rfl, fun statement hstatement => ?_⟩
  obtain ⟨r, hr, rfl⟩ := List.mem_map.1 hstatement
  exact h.level kind r hr

/-- In every reachable state the statements for a registered class are sent at the levels that the
precedence dictates, in windows and outside. -/
theorem level_contract [LawfulSession σ] {b : Batching σ E} (hb : Reachable b)
    {T : EntityType E} {em : EntityMeta} (hem : b.site.types.lookup T.typeName = some em) :
    LevelContract b T em where
  precedence := hb.decides _ (mem_of_lookup hem)
  atOnce call := by
    obtain ⟨-, acts, htrace, hacts⟩ :=
      call.emits_levels (Manager.atOnce b.site) hem ⟨rfl, rfl⟩
    rw [call.run_atOnce]
    exact ⟨acts, htrace, hacts⟩
  recorded hrecorded := hrecorded.level_eq
  pending := hb.isWindow.level
  inWindow now call := by
    have hmode := hb.isWindow.mode
    rcases call.runInWindow_cases now T b with ⟨outbox, hrun⟩ | ⟨options, last, hrun⟩
    · rw [hrun]
      exact ⟨[], by simp, nofun⟩
    · obtain ⟨-, acts, htrace, hacts⟩ :=
        (call.withOptions options).emits_levels b.site hem ⟨rfl, rfl⟩
      rw [hrun]
      refine ⟨acts, htrace, fun act hact => (hacts act hact).mono (fun _ _ h => ?_) fun _ h => ?_⟩
      · exact EntityCall.level_of_writesAt hmode h
      · exact EntityCall.readsInWindow_of_readsAt hmode h
  ended := hb.isWindow.ended
  log := hb.logAgrees

/-! ### Pages -/

namespace Page

/-- Write a new page that was read twice, at a level of its own. -/
def leveled : EntityCall Page :=
  .write (.persist (.bare ⟨.bigint 1, .text "Start", Counter.empty.incrBy 2⟩))
    (.ofLevel .quorum)

/-- Outside a window the page and its counter are written at the level of the call. -/
theorem level_contract_leveled :
    LevelContract (manager .empty [plain]) plain (entityMeta "pages") ∧
      (executedIn ((leveled.atOnce plain).run (manager .empty [plain]).site).2.trace).map
        Statement.level = [.quorum, .quorum] :=
  ⟨level_contract (reachable_manager_type _ _ _ _) (by decide +kernel), by decide +kernel⟩

end Page

end WideColumn
