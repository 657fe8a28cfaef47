import WideColumn.Proofs.Loaded.Calls
import WideColumn.Proofs.Loaded.Learnt
import WideColumn.Proofs.Registry.Reachable

/-!
# The life of a proxy

A proxy is obtained by its key, by finding it, or by a query. From then on its attributes are
written and opened, the entity is updated, read again and completed, at once or in a window, in any
order. What was learnt of its attributes on the way is recorded beside the state (`Lived`), and the
loaded attributes are accounted for by it (`LoadedAccount`): each step of a proxy keeps the account.
-/

namespace WideColumn

open Op

variable {σ E : Type}

/-! ### The account -/

/-- What is preserved by the steps of a proxy. -/
structure LoadedAccount (T : EntityType E) (p : Proxy) (b : Batching σ E) (opened : Opened E)
    (k : Learnt) : Prop where
  lookup : b.site.types.lookup T.typeName = some p.entityMeta
  built : p.entityMeta.Built
  sound : b.site.registry.Sound b.site.types
  cell : ∃ cell, b.site.workspace.cell? p.handle = some cell ∧
    k.Covers b.site.types T p cell.loaded
  opened : ∀ name, opened.property? = some name → name ∈ k.opened

namespace LoadedAccount

variable {T : EntityType E} {p : Proxy} {b : Batching σ E} {k : Learnt}

/-- A change of the entities through the proxy. -/
theorem of_workspace {opened opened' : Opened E} {k' : Learnt} (h : LoadedAccount T p b opened k)
    {w : Workspace E}
    (hcell : ∀ cell, b.site.workspace.cell? p.handle = some cell →
      k.Covers b.site.types T p cell.loaded →
      ∃ cell', w.cell? p.handle = some cell' ∧ k'.Covers b.site.types T p cell'.loaded)
    (hopened : ∀ name, opened'.property? = some name → name ∈ k'.opened) :
    LoadedAccount T p { b with site.workspace := w } opened' k' := by
  obtain ⟨cell, hc, hcovers⟩ := h.cell
  exact ⟨h.lookup, h.built, h.sound, hcell cell hc hcovers, hopened⟩

/-- A call of the proxy. -/
theorem called (h : LoadedAccount T p b .none k) {call : ProxyCall E} {stage : Stage E}
    (hrun : call.run T p b.site.workspace = .ok stage) :
    LoadedAccount T p { b with site.workspace := stage.workspace } stage.opened
      ((k.writing call.changes).opening call.opens) := by
  obtain ⟨cell, hcell, -⟩ := h.cell
  obtain ⟨hopened, -⟩ := ProxyCall.loadsTo_run hcell hrun
  refine h.of_workspace (fun cell hcell hcovers => ?_) fun name hname => ?_
  · obtain ⟨-, cell', hcell', hloaded⟩ := ProxyCall.loadsTo_run hcell hrun
    exact ⟨cell', hcell', hcovers.called hloaded⟩
  · refine List.mem_append_right _ ?_
    rw [← hopened, hname]
    exact List.mem_singleton_self name

/-- A method of what is open: the container was opened, so it counts as loaded anyway. -/
theorem method {C : Type} {accessor : Accessor E C} {v v' : View C} {mutates : Bool}
    {error : Option Error} (h : LoadedAccount T p b (.view accessor v) k)
    (hcall : v.Called mutates error v') : LoadedAccount T p b (.view accessor v')
      (k.writing (if mutates && error.isNone then some v.property.name else none)) := by
  have hopen : v.property.name ∈ k.opened := h.opened _ rfl
  have hproperty : v'.property = v.property := by
    rcases hcall.follows with heq | ⟨-, -, heq, -⟩
    · rw [heq]
    · exact heq
  obtain ⟨cell, hcell, hcovers⟩ := h.cell
  refine ⟨h.lookup, h.built, h.sound, ⟨cell, hcell, hcovers.writing fun name hname => ?_⟩,
    fun name hname => ?_⟩
  · split at hname
    · exact hcovers.counted name (.inr (Option.some.inj hname ▸ hopen))
    · cases hname
  · have hname : some v'.property.name = some name := hname
    rw [hproperty] at hname
    exact Option.some.inj hname ▸ hopen

theorem closed {opened : Opened E} (h : LoadedAccount T p b opened k) :
    LoadedAccount T p { b with site.workspace := Stage.settled T p ⟨b.site.workspace, opened⟩ }
      .none k := by
  refine h.of_workspace (fun cell hcell hcovers => ?_) nofun
  obtain ⟨cell', hcell', hloaded⟩ :=
    Stage.loaded_settled T ⟨b.site.workspace, opened⟩ hcell
  exact ⟨cell', hcell', hloaded ▸ hcovers⟩

end LoadedAccount

section

variable [Session σ]

/-! ### The life -/

/-- The states in the life of a proxy, with what is open on it and what was learnt. A call of the
proxy that is refused leaves all as it was. Nothing but the calls of the proxy is done to it while
something is open. -/
inductive Lived (T : EntityType E) (p : Proxy) : Batching σ E → Opened E → Learnt → Prop
  | got (how : Timing) {b b' : Batching σ E} {key : List Value} {options : Options} : Reachable b →
      how.getProxy T key options b = (.ok p, b') → Lived T p b' .none .nothing
  | found (how : Timing) {b b' : Batching σ E} {key : List Value} {options : Options} :
      Reachable b → how.find T key options b = (.ok (some p), b') →
      Lived T p b' .none (.ofAnswers (answersTo b.site b'.site))
  | queried (query : Query) {b b' : Batching σ E} {proxies : List Proxy} {i : Nat} : Reachable b →
      Batching.onSite (query.run T) b = (.ok proxies, b') → proxies[i]? = some p →
      Lived T p b' .none (.ofRow ((answersTo b.site b'.site).flatMap Answer.rows)[i]?)
  | called (call : ProxyCall E) {b : Batching σ E} {k : Learnt} {stage : Stage E} :
      Lived T p b .none k → call.run T p b.site.workspace = .ok stage →
      Lived T p { b with site.workspace := stage.workspace } stage.opened
        ((k.writing call.changes).opening call.opens)
  | method {b : Batching σ E} {k : Learnt} {C : Type} {accessor : Accessor E C} {v v' : View C}
      {mutates : Bool} {error : Option Error} : Lived T p b (.view accessor v) k →
      v.Called mutates error v' → Lived T p b (.view accessor v')
        (k.writing (if mutates && error.isNone then some v.property.name else none))
  | count {b : Batching σ E} {k : Learnt} {property : String} (counter counter' : Counter) :
      Lived T p b (.counter property counter) k → Lived T p b (.counter property counter') k
  | closed {b : Batching σ E} {k : Learnt} {opened : Opened E} : Lived T p b opened k →
      Lived T p { b with site.workspace := Stage.settled T p ⟨b.site.workspace, opened⟩ } .none k
  | updated (how : Timing) (options : Options) {b : Batching σ E} {k : Learnt} :
      Lived T p b .none k → Lived T p (how.update T p options b).2 .none k
  | refreshed (how : Timing) (options : Options) {b : Batching σ E} {k : Learnt} :
      Lived T p b .none k → Lived T p (how.refresh T p options b).2 .none
        (k.refreshing (answersTo b.site (how.refresh T p options b).2.site)
          (how.refresh T p options b).1)
  | completed {b : Batching σ E} {k : Learnt} : Lived T p b .none k →
      Lived T p (Batching.complete T p b).2 .none
        (k.reading (answersTo b.site (Batching.complete T p b).2.site))
  /-- A window is opened, given up, or sent. -/
  | window (call : WindowCall E) {b : Batching σ E} {k : Learnt} : call.resets = true →
      Lived T p b .none k → Lived T p (call.run b).2 .none k

/-! ### Steps -/

namespace LoadedAccount

variable {T : EntityType E} {p : Proxy} {b : Batching σ E} {k : Learnt}

/-- What loads nothing keeps the account. -/
theorem of_keeps (h : LoadedAccount T p b .none k) {b' : Batching σ E}
    (hkeeps : KeepsLoaded b.site.types b.site b'.site) : LoadedAccount T p b' .none k := by
  obtain ⟨cell, hcell, hcovers⟩ := h.cell
  obtain ⟨cell', hcell', hloaded⟩ := hkeeps.loaded hcell
  refine ⟨by rw [hkeeps.types_eq]; exact h.lookup, h.built, ?_, ⟨cell', hcell', ?_⟩, nofun⟩
  · rw [hkeeps.types_eq]
    exact hkeeps.sound h.sound
  · rw [hkeeps.types_eq, hloaded]
    exact hcovers

/-- The proxy is new, and what counts as loaded of it is known. -/
theorem of_new (hb : Reachable b) [LawfulSession σ]
    (hlookup : b.site.types.lookup T.typeName = some p.entityMeta) {b' : Batching σ E}
    (hkeeps : KeepsLoaded b.site.types b.site b'.site) {cell : Cell E}
    (hcell : b'.site.workspace.cell? p.handle = some cell)
    (hcovers : k.Covers b.site.types T p cell.loaded) : LoadedAccount T p b' .none k := by
  refine ⟨by rw [hkeeps.types_eq]; exact hlookup, hb.sound.built (mem_of_lookup hlookup), ?_,
    ⟨cell, hcell, by rw [hkeeps.types_eq]; exact hcovers⟩, nofun⟩
  rw [hkeeps.types_eq]
  exact hkeeps.sound hb.sound.registry

/-- A refresh that finds the row starts anew; any other leaves all as it was. -/
theorem refreshed (h : LoadedAccount T p b .none k) {run : Except Stop Refresh × Batching σ E}
    (hrun : RunsCall T (fun c => c.refresh p) b run) :
    LoadedAccount T p run.2 .none (k.refreshing (answersTo b.site run.2.site) run.1) := by
  have hstays {run : Except Stop Refresh × Batching σ E} (hanswer : run.1 ≠ .ok .refreshed)
      (hkeeps : KeepsLoaded b.site.types b.site run.2.site) :
      LoadedAccount T p run.2 .none (k.refreshing (answersTo b.site run.2.site) run.1) := by
    have hsame : k.refreshing (answersTo b.site run.2.site) run.1 = k := by
      unfold Learnt.refreshing
      split
      · next heq => exact absurd heq hanswer
      · rfl
    rw [hsame]
    exact h.of_keeps hkeeps
  rcases hrun with ⟨e, outbox, hanswer, hsite⟩ | ⟨c, before, after, rfl, hem, hanswer, hsite⟩
  · refine hstays (by rw [hanswer]; nofun) ?_
    rw [hsite]
    exact (KeepsLoaded.refl b.site).outbox _
  · have hmeta : c.entityMeta = p.entityMeta := Option.some.inj (hem.symm.trans h.lookup)
    obtain ⟨cell, hcell, -⟩ := h.cell
    rcases Call.refresh_cases (c := c) (s := { b.site with outbox := before }) h.sound hcell with
      ⟨hok, hreads, htypes, hsound, cell', hcell', hloaded⟩ | ⟨hnot, hkeeps⟩
    · have hrefreshed : run.1 = .ok .refreshed := hanswer.trans hok
      rw [hrefreshed, hsite]
      have hreads : ∀ name ∈ cell'.loaded, ∃ a ∈ answersTo b.site
          { (c.refresh p { b.site with outbox := before }).2 with outbox := after },
          a.Reads b.site.types c.type p.entityMeta p.key name := by
        rw [hloaded, ← hmeta]
        exact hreads.reads
      refine ⟨?_, h.built, ?_, ⟨cell', ?_, ?_⟩, nofun⟩ <;> rw [hsite]
      · exact htypes ▸ h.lookup
      · exact htypes ▸ hsound
      · exact hcell'
      · exact htypes ▸ Learnt.Covers.ofAnswers hreads
    · refine hstays (by rw [hanswer]; exact hnot) ?_
      rw [hsite]
      exact hkeeps.outbox after

/-- What is missing is fetched, with the options recorded on the proxy. -/
theorem completes {opened : Opened E} (h : LoadedAccount T p b opened k) : ∃ options,
    Completes b.site.types (Manager.callOf T p.entityMeta options) p
      (p.entityMeta.onDemand ++ p.entityMeta.counters) b.site (Manager.complete T p b.site) := by
  obtain ⟨cell, hcell, -⟩ := h.cell
  rw [Manager.complete_apply h.lookup hcell]
  exact ⟨cell.options, (Call.completes_complete (Manager.atOnce b.site)).outbox b.site.outbox⟩

/-- What is missing is read, and counts as loaded after it was fetched. -/
theorem completed (h : LoadedAccount T p b .none k) :
    LoadedAccount T p (Batching.complete T p b).2 .none
      (k.reading (answersTo b.site (Batching.complete T p b).2.site)) := by
  obtain ⟨options, hcompletes⟩ := h.completes
  have hfills := hcompletes.fills
  obtain ⟨cell, hcell, hcovers⟩ := h.cell
  obtain ⟨cell', hcell', hgrows⟩ := hfills.grows hcell
  have hsite : (Batching.complete T p b).2.site = (Manager.complete T p b.site).2 := rfl
  rw [hsite]
  refine ⟨hfills.types_eq ▸ h.lookup, h.built, hfills.types_eq ▸ hfills.sound h.sound,
    ⟨cell', hcell', hfills.types_eq ▸ ⟨fun name hname => ?_, fun name hname => ?_⟩⟩, nofun⟩
  · rcases hfills.fetched h.sound hcell hcell' name hname with hold | ⟨a, ha, hfetches⟩
    · rcases hcovers.learnt name hold with hid | hknows | hopened
      · exact .inl hid
      · exact .inr (.inl (hknows.reading _))
      · exact .inr (.inr hopened)
    · exact .inr (.inl (.inr (.inr ⟨a, List.mem_append_right _ ha, .own hfetches⟩)))
  · exact hgrows name (hcovers.counted name hname)

end LoadedAccount

/-- A proxy that was found has what its row fills in. -/
theorem LoadedAccount.of_found [LawfulSession σ] {T : EntityType E} {p : Proxy} {b : Batching σ E}
    (hb : Reachable b) {key : List Value} {run : Except Stop (Option Proxy) × Batching σ E}
    (hrun : RunsCall T (fun c => c.find key) b run) (hp : run.1 = .ok (some p)) :
    LoadedAccount T p run.2 .none (.ofAnswers (answersTo b.site run.2.site)) := by
  rcases hrun with ⟨e, outbox, hanswer, -⟩ | ⟨c, before, after, rfl, hem, hanswer, hsite⟩
  · rw [hp] at hanswer
    cases hanswer
  · obtain ⟨hmeta, rfl, hkeeps, hreads, cell, hcell, hloaded⟩ :=
      Call.find_eq_ok (s := { b.site with outbox := before }) hb.sound.registry
        (Prod.ext (hanswer.symm.trans hp) rfl)
    rw [hsite]
    refine .of_new hb (hmeta ▸ hem) (by rw [hsite]; exact hkeeps.outbox after)
      (by rw [hsite]; exact hcell) (.ofAnswers ?_)
    rw [hloaded, hmeta]
    exact hreads.reads

/-- A proxy that was taken by its key has nothing but that. -/
theorem LoadedAccount.of_got [LawfulSession σ] {T : EntityType E} {p : Proxy} {b : Batching σ E}
    (hb : Reachable b) {key : List Value} {run : Except Stop Proxy × Batching σ E}
    (hrun : RunsCall T (fun c => c.proxyOfKey key) b run) (hp : run.1 = .ok p) :
    LoadedAccount T p run.2 .none .nothing := by
  rcases hrun with ⟨e, outbox, hanswer, -⟩ | ⟨c, before, after, rfl, hem, hanswer, hsite⟩
  · rw [hp] at hanswer
    cases hanswer
  · obtain ⟨hmeta, -, hkeeps, cell, hcell, hloaded⟩ :=
      Call.proxyOfKey_eq_ok b.site.types (s := { b.site with outbox := before })
        (Prod.ext (hanswer.symm.trans hp) rfl)
    refine .of_new hb (hmeta ▸ hem) (by rw [hsite]; exact hkeeps.outbox after)
      (by rw [hsite]; exact hcell) ?_
    rw [hloaded, ← hmeta]
    exact .of_new (fun name hname => .inl (List.mem_singleton.1 hname)) rfl rfl

/-- A proxy of a query has what its row has columns for. -/
theorem LoadedAccount.of_queried [LawfulSession σ] {T : EntityType E} {p : Proxy}
    {b b' : Batching σ E} (hb : Reachable b) {query : Query} {proxies : List Proxy} {i : Nat}
    (hrun : Batching.onSite (query.run T) b = (.ok proxies, b')) (hp : proxies[i]? = some p) :
    LoadedAccount T p b' .none (.ofRow ((answersTo b.site b'.site).flatMap Answer.rows)[i]?) := by
  obtain ⟨hanswer, rfl⟩ := Prod.mk.inj hrun
  obtain ⟨em, request, hem, hload⟩ := Query.run_eq_ok (Prod.ext hanswer rfl)
  obtain ⟨hkeeps, hat⟩ := Manager.loadProxies_eq_ok b.site.types hload
  obtain ⟨row, hrow, hofRow⟩ := hat i p hp
  obtain ⟨cell, hcell, hloaded⟩ := hofRow.cell
  obtain rfl := hofRow.entityMeta_eq
  refine .of_new hb hem hkeeps hcell (.ofRow hrow fun name hname => ?_)
  rw [hloaded] at hname
  rcases List.mem_cons.1 hname with hid | hname
  · exact .inl hid
  · obtain ⟨pm, hpm, rfl⟩ := List.mem_map.1 hname
    obtain ⟨-, hcolumn⟩ := List.mem_filter.1 hpm
    exact .inr (by simpa using (Bool.and_eq_true_iff.1 hcolumn).2)

/-- What counts as loaded of a proxy is accounted for all its life. -/
theorem Lived.accounts [LawfulSession σ] {T : EntityType E} {p : Proxy} {b : Batching σ E}
    {opened : Opened E} {k : Learnt} (h : Lived T p b opened k) :
    LoadedAccount T p b opened k := by
  induction h with
  | @got how b b' key options hb hrun =>
    have haccounts := LoadedAccount.of_got hb (how.runsCall_getProxy T options b key) (p := p)
    rw [hrun] at haccounts
    exact haccounts rfl
  | @found how b b' key options hb hrun =>
    have haccounts := LoadedAccount.of_found hb (how.runsCall_find T options b key) (p := p)
    rw [hrun] at haccounts
    exact haccounts rfl
  | queried query hb hrun hp => exact .of_queried hb hrun hp
  | called call _ hrun ih => exact ih.called hrun
  | method _ hcall ih => exact ih.method hcall
  | count counter counter' _ ih => exact ⟨ih.lookup, ih.built, ih.sound, ih.cell, nofun⟩
  | closed _ ih => exact ih.closed
  | @updated how options b k _ ih =>
    refine ih.of_keeps ((how.runsCall_update T options b p).keepsLoaded fun c hc hem => ?_)
    subst hc
    exact c.keepsLoaded_update (mem_of_lookup hem) p
  | @refreshed how options b k _ ih => exact ih.refreshed (how.runsCall_refresh T options b p)
  | completed _ ih => exact ih.completed
  | window call hresets _ ih => exact ih.of_keeps (call.keepsLoaded_of_resets hresets _)

end

end WideColumn
