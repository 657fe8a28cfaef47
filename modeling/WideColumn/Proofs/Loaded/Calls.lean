import WideColumn.Proofs.Loaded.Operations
import WideColumn.Proofs.Window.Run

/-!
# Calls through a manager

What is asked for a proxy is asked at once or in a window. Either way the call is refused before it
is made, or it is a call of the type with its registered metadata (`RunsCall`); so what a call
keeps, both managers keep.
-/

namespace WideColumn

open Op

variable {σ E α : Type}

/-- A call was refused before it was made, and changed nothing but the outbox, or it was made, with
an outbox of its own or that of the window. -/
def RunsCall (T : EntityType E) (f : Call E → Op σ E α) (b : Batching σ E)
    (run : Except Stop α × Batching σ E) : Prop :=
  (∃ e outbox, run.1 = .error e ∧ run.2.site = { b.site with outbox }) ∨
    ∃ c before after, c.type = T ∧ b.site.types.lookup T.typeName = some c.entityMeta ∧
      run.1 = (f c { b.site with outbox := before }).1 ∧
      run.2.site = { (f c { b.site with outbox := before }).2 with outbox := after }

namespace RunsCall

variable {T : EntityType E} {f : Call E → Op σ E α} {b : Batching σ E}

/-- In a window the call is that of the window. -/
theorem onSite {run : Except Stop α × Batching σ E} {options : Options}
    (hanswer : run.1 = ((Manager.call T options >>= f) b.site).1)
    (hsite : run.2.site = ((Manager.call T options >>= f) b.site).2) : RunsCall T f b run := by
  rcases Manager.call_bind_cases T options f b.site with ⟨e, hrun⟩ | ⟨c, hc, hrun⟩ <;>
    rw [hrun] at hanswer hsite
  · exact .inl ⟨e, b.site.outbox, hanswer, hsite⟩
  · exact .inr ⟨c, b.site.outbox, (f c b.site).2.outbox, hc.type_eq, hc.lookup_eq, hanswer, hsite⟩

/-- At once the call has an outbox of its own. -/
theorem immediately (options : Options) :
    RunsCall T f b (Batching.onSite (Manager.immediately (Manager.call T options >>= f)) b) := by
  unfold Batching.onSite
  rw [Manager.immediately_apply]
  rcases Manager.call_bind_cases T options f (Manager.atOnce b.site) with
    ⟨e, hrun⟩ | ⟨c, hc, hrun⟩ <;> rw [hrun]
  · exact .inl ⟨e, b.site.outbox, rfl, rfl⟩
  · exact .inr ⟨c, _, b.site.outbox, hc.type_eq, hc.lookup_eq, rfl, rfl⟩

/-- A call that asks for a level gives up the window. -/
theorem rejectLevel (options : Options) : RunsCall T f b ((Batching.rejectLevel options >>=
    fun _ => Batching.onSite (Manager.call T options >>= f)) b) := by
  cases hlevel : options.hasLevel with
  | true =>
    rw [Batching.rejectLevel_bind_of_level hlevel]
    exact .inl ⟨_, _, rfl, rfl⟩
  | false =>
    rw [Batching.rejectLevel_bind_of_no_level hlevel]
    exact .onSite rfl rfl

end RunsCall

/-- Metadata that is handed out is that of the type, and nothing is done. -/
theorem Manager.entityMeta_eq_ok {T : EntityType E} {s t : Site σ E} {em : EntityMeta}
    (h : Manager.entityMeta T s = (.ok em, t)) :
    s.types.lookup T.typeName = some em ∧ t = s := by
  rw [Manager.entityMeta_apply] at h
  split at h
  · next found hfound =>
    obtain ⟨hem, rfl⟩ := Prod.mk.inj h
    exact ⟨hfound.trans (congrArg some (Except.ok.inj hem)), rfl⟩
  · cases h

/-- So is the metadata that a hand-written query is checked against. -/
theorem Manager.typedMeta_eq_ok {T : EntityType E} {query : String} {s t : Site σ E}
    {em : EntityMeta} (h : Manager.typedMeta T query s = (.ok em, t)) :
    s.types.lookup T.typeName = some em ∧ t = s := by
  unfold Manager.typedMeta at h
  dsimp only at h
  split at h
  · cases h
  · rw [get_bind_apply] at h
    cases hfound : s.types.lookup T.typeName with
    | none =>
      simp only [hfound] at h
      cases h
    | some found =>
      simp only [hfound] at h
      obtain ⟨hem, rfl⟩ := Prod.mk.inj h
      exact ⟨congrArg some (Except.ok.inj hem), rfl⟩

/-- Through which manager a call is made. A call in a window reads the clock if it writes. -/
inductive Timing where
  | atOnce
  | inWindow (now : Int)

/-- A query that hands out proxies. -/
inductive Query where
  | slice (spec : SliceQuery)
  | typed (query : String) (values : List Value)
  | indexed (condition : IndexCondition)

section

variable [Session σ]

namespace Timing

/-- A proxy that has only its key. -/
def getProxy (T : EntityType E) (key : List Value) (options : Options) :
    Timing → BatchOp σ E Proxy
  | atOnce => Batching.onSite (Manager.getProxy T key options)
  | inWindow _ => Batching.getProxy T key options

/-- Read the entity of a key. -/
def find (T : EntityType E) (key : List Value) (options : Options) :
    Timing → BatchOp σ E (Option Proxy)
  | atOnce => Batching.onSite (Manager.find T key options)
  | inWindow _ => Batching.find T key options

/-- Write what changed on a proxy. -/
def update (T : EntityType E) (p : Proxy) (options : Options) : Timing → BatchOp σ E Unit
  | atOnce => Batching.onSite (Manager.update T p options)
  | inWindow now => Batching.update now T p options

/-- Read a proxy again. -/
def refresh (T : EntityType E) (p : Proxy) (options : Options) : Timing → BatchOp σ E Refresh
  | atOnce => Batching.onSite (Manager.refresh T p options)
  | inWindow _ => Batching.refresh T p options

end Timing

/-- Run a query. -/
def Query.run (T : EntityType E) : Query → Op σ E (List Proxy)
  | slice spec => Manager.getSlice T spec
  | typed query values => Manager.typedQuery T query values
  | indexed condition => Manager.indexedQuery T condition

section

variable (how : Timing) (T : EntityType E) (options : Options) (b : Batching σ E)

omit [Session σ] in
theorem Timing.runsCall_getProxy (key : List Value) :
    RunsCall T (fun c => c.proxyOfKey key) b (how.getProxy T key options b) := by
  cases how with
  | atOnce => exact .immediately options
  | inWindow now => exact .rejectLevel options

theorem Timing.runsCall_find (key : List Value) :
    RunsCall T (fun c => c.find key) b (how.find T key options b) := by
  cases how with
  | atOnce => exact .immediately options
  | inWindow now => exact .rejectLevel options

theorem Timing.runsCall_update (p : Proxy) :
    RunsCall T (fun c => c.update p) b (how.update T p options b) := by
  cases how with
  | atOnce => exact .immediately options
  | inWindow now =>
    show RunsCall T _ b (Batching.update now T p options b)
    unfold Batching.update
    cases hlevel : options.hasLevel with
    | true =>
      rw [Batching.rejectLevel_bind_of_level hlevel]
      exact .inl ⟨_, _, rfl, rfl⟩
    | false =>
      obtain ⟨options', last, hrun⟩ :=
        Batching.unleveled_bind_apply hlevel now (fun o => Manager.updateIn T p o) b
      rw [hrun]
      exact .onSite rfl rfl

theorem Timing.runsCall_refresh (p : Proxy) :
    RunsCall T (fun c => c.refresh p) b (how.refresh T p options b) := by
  cases how with
  | atOnce => exact .immediately options
  | inWindow now =>
    show RunsCall T _ b (Batching.refresh T p options b)
    unfold Batching.refresh
    split
    · exact .inl ⟨_, b.site.outbox, rfl, rfl⟩
    · exact .onSite rfl rfl

end

/-- A query that succeeds turned rows into proxies. -/
theorem Query.run_eq_ok {T : EntityType E} {query : Query} {s t : Site σ E} {proxies : List Proxy}
    (h : query.run T s = (.ok proxies, t)) : ∃ em request,
    s.types.lookup T.typeName = some em ∧
      Manager.loadProxies T em request s = (.ok proxies, t) := by
  cases query with
  | slice spec =>
    obtain ⟨em, s₁, hem, hrest⟩ := bind_eq_ok h
    obtain ⟨statement, s₂, hselect, hload⟩ := bind_eq_ok hrest
    obtain ⟨-, rfl⟩ := lift_eq_ok hselect
    obtain ⟨hlookup, rfl⟩ := Manager.entityMeta_eq_ok hem
    exact ⟨em, _, hlookup, hload⟩
  | typed text values =>
    obtain ⟨em, s₁, hem, hrest⟩ := bind_eq_ok h
    obtain ⟨_, s₂, hvalid, hload⟩ := bind_eq_ok hrest
    obtain ⟨-, rfl⟩ := lift_eq_ok hvalid
    obtain ⟨hlookup, rfl⟩ := Manager.typedMeta_eq_ok hem
    exact ⟨em, _, hlookup, hload⟩
  | indexed condition =>
    obtain ⟨em, s₁, hem, hrest⟩ := bind_eq_ok h
    obtain ⟨_, s₂, hquery, hload⟩ := bind_eq_ok hrest
    obtain ⟨-, rfl⟩ := lift_eq_ok hquery
    obtain ⟨hlookup, rfl⟩ := Manager.entityMeta_eq_ok hem
    exact ⟨em, _, hlookup, hload⟩

/-! ### Calls that load nothing -/

/-- A call of a manager that loads nothing. -/
theorem RunsCall.keepsLoaded {T : EntityType E} {f : Call E → Op σ E α} {b : Batching σ E}
    {run : Except Stop α × Batching σ E} (h : RunsCall T f b run)
    (hf : ∀ c : Call E, c.type = T → b.site.types.lookup T.typeName = some c.entityMeta →
      Keeps (KeepsLoaded b.site.types) (f c)) : KeepsLoaded b.site.types b.site run.2.site := by
  rcases h with ⟨e, outbox, -, hsite⟩ | ⟨c, before, after, hc, hem, -, hsite⟩ <;> rw [hsite]
  · exact (KeepsLoaded.refl b.site).outbox _
  · exact (hf c hc hem { b.site with outbox := before }).outbox after

/-- Sending what is pending loads nothing. -/
theorem keepsLoaded_sendAll {types : List (String × EntityMeta)} (pending : Outbox E) :
    Keeps (KeepsLoaded (σ := σ) types) (sendAll pending) := by
  have hR : Composes (KeepsLoaded (σ := σ) (E := E) types) := composes_keepsLoaded
  have hrecord (line : LogLine) :
      Keeps (KeepsLoaded (σ := σ) (E := E) types) (record (.logged line)) := fun s =>
    .of_workspace ⟨[.logged line], rfl, rfl⟩ rfl rfl rfl
  have hgroup (kind : BatchKind) (requests : List Request) (level : Level) :
      Keeps (KeepsLoaded (σ := σ) (E := E) types) (sendGroup kind requests level) := by
    unfold sendGroup
    split
    · refine hR.bind (hrecord _) fun _ => hR.bind (hR.forM fun _ _ => hrecord _) fun _ =>
        hR.bind (hrecord _) fun _ s => ?_
      rw [executeBatch_apply]
      exact .of_workspace ⟨[.sentBatch kind _ level], rfl, rfl⟩ rfl rfl rfl
    · exact hR.pure _
  exact hR.bind (hR.forM fun d _ => keepsLoaded_fire d.type d.handle d.event) fun _ =>
    hR.bind (hgroup _ _ _) fun _ => hgroup _ _ _

/-- A call that resets the window loads nothing. -/
theorem WindowCall.keepsLoaded_of_resets {call : WindowCall E} (hresets : call.resets = true)
    (b : Batching σ E) : KeepsLoaded b.site.types b.site (call.run b).2.site := by
  rcases call.eq_endBatch_or with rfl | hend
  · have hsend : KeepsLoaded b.site.types
        { b.site with outbox := b.site.outbox.reset b.defaultLevel } _ :=
      keepsLoaded_sendAll b.site.outbox _
    exact hsend.outbox _
  · obtain ⟨level, hsite⟩ := call.run_of_resets hresets hend b
    rw [hsite]
    exact (KeepsLoaded.refl b.site).outbox _

end

end WideColumn
